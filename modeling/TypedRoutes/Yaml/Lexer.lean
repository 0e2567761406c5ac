import TypedRoutes.Yaml.Token

/-!
The tokens of a text. Indentation opens and closes blocks; a word becomes a key only when the colon
behind it is met, so the tokens that open a mapping are put in later, at the place of the word.
-/

set_option autoImplicit false
set_option relaxedAutoImplicit false

namespace TypedRoutes.Yaml

/-- A token that a colon may still make a key, with its place among the tokens. -/
structure PendingKey where
  place : Nat
  index : Nat
  line : Nat
  column : Nat
  required : Bool

/-- How many bytes may lie between the start of a key and its colon. -/
def keyLimit : Nat := 1024

/-- Whether a pending key is too far back to be one. -/
def PendingKey.isStale (key : PendingKey) (cursor : Cursor) : Bool :=
  key.line < cursor.line || key.index + keyLimit < cursor.index

/-- The lexer: what is left of the text, the tokens so far, the columns of the open blocks, and the
pending keys, one per open bracket. -/
structure Lexer where
  cursor : Cursor
  tokens : Array Token := #[]
  indent : Int := -1
  outerIndents : List Int := []
  keyAllowed : Bool := true
  key : Option PendingKey := none
  outerKeys : List (Option PendingKey) := []

namespace Lexer

def inFlow (lexer : Lexer) : Bool := !lexer.outerKeys.isEmpty

def push (lexer : Lexer) (token : Token) : Lexer := { lexer with tokens := lexer.tokens.push token }

def moveTo (lexer : Lexer) (cursor : Cursor) : Lexer := { lexer with cursor := cursor }

/-- Opens a block at a column, if it is further in than the current one; its token is put in at a
place, or at the end. -/
def openBlock (lexer : Lexer) (column : Nat) (place : Option Nat) (token : Token) : Lexer :=
  if !lexer.inFlow ∧ lexer.indent < column then
    { lexer with
      outerIndents := lexer.indent :: lexer.outerIndents
      indent := column
      tokens := match place with
        | some place => lexer.tokens.insertIdxIfInBounds place token
        | none => lexer.tokens.push token }
  else lexer

def closeBlocksAt (column : Int) (indent : Int) (tokens : Array Token) :
    List Int → Array Token × Int × List Int
  | [] => (tokens, indent, [])
  | outer :: rest =>
    if column < indent then closeBlocksAt column outer (tokens.push .blockEnd) rest
    else (tokens, indent, outer :: rest)

/-- Closes the blocks that are further in than a column; inside brackets there are none. -/
def closeBlocks (lexer : Lexer) (column : Int) : Lexer :=
  if lexer.inFlow then lexer
  else
    let (tokens, indent, outer) := closeBlocksAt column lexer.indent lexer.tokens lexer.outerIndents
    { lexer with tokens := tokens, indent := indent, outerIndents := outer }

/-- Drops the pending key; one that had to become a key is an error. -/
def dropKey (lexer : Lexer) : Option Lexer :=
  if lexer.key.any PendingKey.required then none else some { lexer with key := none }

/-- Makes the next token a pending key, if keys are allowed here. -/
def holdKey (lexer : Lexer) : Option Lexer :=
  if lexer.keyAllowed then do
    let lexer ← lexer.dropKey
    let cursor := lexer.cursor
    some { lexer with key := some {
      place := lexer.tokens.size
      index := cursor.index
      line := cursor.line
      column := cursor.column
      required := !lexer.inFlow && lexer.indent == (cursor.column : Int) } }
  else some lexer

/-- Drops pending keys that are too far back; one that had to become a key is an error. -/
def dropStaleKeys (lexer : Lexer) : Option Lexer :=
  let stale (key : Option PendingKey) : Bool := key.any fun key => key.isStale lexer.cursor
  let keep (key : Option PendingKey) : Option PendingKey := if stale key then none else key
  if (lexer.key :: lexer.outerKeys).any fun key => stale key && key.any PendingKey.required then
    none
  else some { lexer with key := keep lexer.key, outerKeys := lexer.outerKeys.map keep }

def allowKey (lexer : Lexer) (allowed : Bool) : Lexer := { lexer with keyAllowed := allowed }

def skipToToken : Nat → Lexer → Lexer
  | 0, lexer => lexer
  | fuel + 1, lexer =>
    let cursor := lexer.cursor
    let cursor :=
      if cursor.column = 0 ∧ cursor.startsWith byteOrderMark then cursor.step else cursor
    let cursor := cursor.skip fun c =>
      c == ' ' || (c == '\t' && (lexer.inFlow || !lexer.keyAllowed))
    let cursor := if cursor.startsWith '#' then cursor.skipToLineEnd else cursor
    if cursor.atBreak then
      skipToToken fuel ((lexer.moveTo cursor.stepLine).allowKey (lexer.keyAllowed || !lexer.inFlow))
    else lexer.moveTo cursor

def openFlow (lexer : Lexer) (token : Token) : Option Lexer := do
  let lexer ← lexer.holdKey
  some { lexer with
    cursor := lexer.cursor.step
    tokens := lexer.tokens.push token
    keyAllowed := true
    key := none
    outerKeys := lexer.key :: lexer.outerKeys }

def closeFlow (lexer : Lexer) (token : Token) : Option Lexer := do
  let lexer ← lexer.dropKey
  let (key, outer) := match lexer.outerKeys with
    | [] => (none, [])
    | key :: outer => (key, outer)
  some { lexer with
    cursor := lexer.cursor.step
    tokens := lexer.tokens.push token
    keyAllowed := false
    key := key
    outerKeys := outer }

/-- Takes the dash of a list item. -/
def takeEntry (lexer : Lexer) : Option Lexer := do
  if !lexer.inFlow ∧ !lexer.keyAllowed then none
  let lexer := lexer.openBlock lexer.cursor.column none .sequenceStart
  let lexer ← lexer.dropKey
  some (((lexer.moveTo lexer.cursor.step).push .entry).allowKey true)

/-- Takes the question mark of a key. -/
def takeKey (lexer : Lexer) : Option Lexer := do
  if !lexer.inFlow ∧ !lexer.keyAllowed then none
  let lexer := lexer.openBlock lexer.cursor.column none .mappingStart
  let lexer ← lexer.dropKey
  some (((lexer.moveTo lexer.cursor.step).push .key).allowKey !lexer.inFlow)

/-- Takes a colon: what is pending becomes a key. -/
def takeValue (lexer : Lexer) : Option Lexer :=
  match lexer.key with
  | some key =>
    let lexer : Lexer := { lexer with
      tokens := lexer.tokens.insertIdxIfInBounds key.place .key, key := none }
    let lexer := lexer.openBlock key.column (some key.place) .mappingStart
    some (((lexer.moveTo lexer.cursor.step).push .value).allowKey false)
  | none =>
    if !lexer.inFlow ∧ !lexer.keyAllowed then none
    else
      let lexer := lexer.openBlock lexer.cursor.column none .mappingStart
      some (((lexer.moveTo lexer.cursor.step).push .value).allowKey !lexer.inFlow)

/-- Takes what stands alone at the start of a line and belongs to no block: the mark of a document
or a directive. -/
def leaveBlocks (lexer : Lexer) : Option Lexer := do
  let lexer ← (lexer.closeBlocks (-1)).dropKey
  some (lexer.allowKey false)

def takeMarker (lexer : Lexer) (token : Token) : Option Lexer := do
  let lexer ← lexer.leaveBlocks
  some ((lexer.moveTo (lexer.cursor.steps 3)).push token)

/-- Takes a word that may become a key. -/
def takeWord (lexer : Lexer) (token : Token) (cursor : Cursor) : Option Lexer := do
  let lexer ← lexer.holdKey
  some (((lexer.moveTo cursor).push token).allowKey false)

def takeBlockScalar (lexer : Lexer) (folded : Bool) : Option Lexer := do
  let lexer ← lexer.dropKey
  let (text, cursor) ← readBlock folded lexer.indent lexer.cursor.step
  some (((lexer.moveTo cursor).push (.scalar false text)).allowKey true)

def takeQuoted (lexer : Lexer) (quote : Quote) : Option Lexer := do
  let cursor := lexer.cursor.step
  let (text, cursor) ← readQuoted quote (cursor.left + 1) [] {} cursor
  lexer.takeWord (.scalar false text) cursor

/-- Takes a plain scalar; behind a line break a key may follow. -/
def takePlain (lexer : Lexer) : Option Lexer := do
  let cursor := lexer.cursor
  let plain ← readPlain lexer.inFlow (lexer.indent + 1).toNat (cursor.left + 1) [] {} cursor
  let lexer ← lexer.takeWord (.scalar true plain.text) plain.cursor
  some (lexer.allowKey plain.broken)

def startsPlain (lexer : Lexer) (c : Char) : Bool :=
  let cursor := lexer.cursor
  if c = '-' then !cursor.step.atBlank
  else if c = '?' ∨ c = ':' then !lexer.inFlow && !cursor.endsWordAt 1
  else
    !(isBlank c || isBreak c || isFlowIndicator c ||
      ['#', '&', '*', '!', '|', '>', Char.ofNat 0x27, '"', '%', '@', Char.ofNat 0x60].contains c)

def takeToken (lexer : Lexer) (c : Char) : Option Lexer :=
  let cursor := lexer.cursor
  let indicates : Bool := cursor.endsWordAt 1
  if cursor.column = 0 ∧ c = '%' then do
    let lexer ← lexer.leaveBlocks
    let (token, cursor) ← readDirective lexer.cursor.step
    some ((lexer.moveTo cursor).push token)
  else if cursor.atMarker '-' then lexer.takeMarker .documentStart
  else if cursor.atMarker '.' then lexer.takeMarker .documentEnd
  else if c = '[' then lexer.openFlow .flowSequenceStart
  else if c = '{' then lexer.openFlow .flowMappingStart
  else if c = ']' then lexer.closeFlow .flowSequenceEnd
  else if c = '}' then lexer.closeFlow .flowMappingEnd
  else if c = ',' then do
    let lexer ← lexer.dropKey
    some (((lexer.moveTo cursor.step).push .flowEntry).allowKey true)
  else if c = '-' ∧ indicates then lexer.takeEntry
  else if c = '?' ∧ (lexer.inFlow ∨ indicates) then lexer.takeKey
  else if c = ':' ∧ (lexer.inFlow ∨ indicates) then lexer.takeValue
  else if c = '*' then do
    let (name, cursor) ← readAnchor cursor.step
    lexer.takeWord (.alias name) cursor
  else if c = '&' then do
    let (name, cursor) ← readAnchor cursor.step
    lexer.takeWord (.anchor name) cursor
  else if c = '!' then do
    let (token, cursor) ← readTag lexer.inFlow cursor
    lexer.takeWord token cursor
  else if c = '|' ∧ !lexer.inFlow then lexer.takeBlockScalar false
  else if c = '>' ∧ !lexer.inFlow then lexer.takeBlockScalar true
  else if c = Quote.single.char then lexer.takeQuoted .single
  else if c = Quote.double.char then lexer.takeQuoted .double
  else if lexer.startsPlain c then lexer.takePlain
  else none

def run : Nat → Lexer → Option (List Token)
  | 0, _ => none
  | fuel + 1, lexer => do
    let lexer ← (skipToToken (lexer.cursor.left + 1) lexer).dropStaleKeys
    let lexer := lexer.closeBlocks lexer.cursor.column
    match lexer.cursor.rest with
    | c :: _ => do
      let lexer ← lexer.takeToken c
      run fuel lexer
    | [] => do
      let lexer ← lexer.leaveBlocks
      some lexer.tokens.toList

end Lexer

def tokens? (text : String) : Option (List Token) :=
  let chars := text.toList
  if chars.all isPrintable then
    Lexer.run (chars.length + 1) { cursor := .ofText chars }
  else none

end TypedRoutes.Yaml
