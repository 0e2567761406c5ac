import TypedRoutes.Text.Hexadecimal
import TypedRoutes.Yaml.Cursor

/-!
The text of scalars: quoted, plain and in blocks. Line breaks inside a scalar are folded: a single
one becomes a space, and of several the first is dropped.
-/

set_option autoImplicit false
set_option relaxedAutoImplicit false

namespace TypedRoutes.Yaml

/-- Blanks and line breaks between two words of a scalar. -/
structure Gap where
  spaces : List Char := []
  broken : Bool := false
  first : List Char := []
  more : List Char := []

namespace Gap

def text (gap : Gap) : List Char :=
  if gap.broken then
    if gap.first = ['\n'] then (if gap.more.isEmpty then [' '] else gap.more)
    else gap.first ++ gap.more
  else gap.spaces

/-- Reads a gap. On a new line, a tab before the column `limit` is an error. -/
def read (limit : Nat) : Nat → Gap → Cursor → Option (Gap × Cursor)
  | 0, gap, cursor => some (gap, cursor)
  | fuel + 1, gap, cursor =>
    match cursor.rest with
    | [] => some (gap, cursor)
    | c :: _ =>
      if isBlank c then
        if gap.broken then
          if c = '\t' ∧ cursor.column < limit then none else read limit fuel gap cursor.step
        else read limit fuel { gap with spaces := gap.spaces ++ [c] } cursor.step
      else if isBreak c then
        let gap : Gap :=
          if gap.broken then { gap with more := gap.more ++ cursor.keptBreak }
          else { broken := true, first := cursor.keptBreak }
        read limit fuel gap cursor.stepLine
      else some (gap, cursor)

end Gap

def simpleEscape? (c : Char) : Option Char :=
  match c with
  | '0' => some (Char.ofNat 0x00)
  | 'a' => some (Char.ofNat 0x07)
  | 'b' => some (Char.ofNat 0x08)
  | 't' => some '\t'
  | '\t' => some '\t'
  | 'n' => some '\n'
  | 'v' => some (Char.ofNat 0x0B)
  | 'f' => some (Char.ofNat 0x0C)
  | 'r' => some '\r'
  | 'e' => some (Char.ofNat 0x1B)
  | ' ' => some ' '
  | '"' => some '"'
  | '/' => some '/'
  | '\\' => some '\\'
  | 'N' => some nextLine
  | '_' => some (Char.ofNat 0xA0)
  | 'L' => some lineSeparator
  | 'P' => some paragraphSeparator
  | _ => none

/-- The number of hexadecimal digits behind the letter of an escape. -/
def escapeDigits? (c : Char) : Option Nat :=
  match c with
  | 'x' => some 2
  | 'u' => some 4
  | 'U' => some 8
  | _ => none

def readEscape (cursor : Cursor) : Option (Char × Cursor) :=
  match cursor.rest with
  | [] => none
  | c :: rest =>
    match escapeDigits? c with
    | none => (simpleEscape? c).map fun plain => (plain, cursor.step)
    | some count =>
      (Text.takeHexCharacter? count rest).map fun (c, _) => (c, cursor.steps (count + 1))

inductive Quote where
  | single
  | double
  deriving DecidableEq

def Quote.char : Quote → Char
  | .single => Char.ofNat 0x27
  | .double => '"'

/-- Reads a quoted scalar behind its opening quote; `read` holds the text so far, the last
character first, and `gap` what has been read of a gap. -/
def readQuoted (quote : Quote) : Nat → List Char → Gap → Cursor → Option (String × Cursor)
  | 0, _, _, _ => none
  | fuel + 1, read, gap, cursor => do
    let (gap, cursor) ← Gap.read 0 cursor.left gap cursor
    let read := gap.text.reverse ++ read
    if cursor.atDocumentMarker then none
    else
      match cursor.rest with
      | [] => none
      | c :: next =>
        if c = quote.char then
          if quote = .single ∧ next.head? = some c then
            readQuoted quote fuel (c :: read) {} (cursor.steps 2)
          else some (String.ofList read.reverse, cursor.step)
        else if quote = .double ∧ c = '\\' then
          if cursor.step.atBreak then
            readQuoted quote fuel read { broken := true } cursor.step.stepLine
          else do
            let (plain, cursor) ← readEscape cursor.step
            readQuoted quote fuel (plain :: read) {} cursor
        else readQuoted quote fuel (c :: read) {} cursor.step

/-- The characters that end a plain scalar inside brackets or braces. -/
def isFlowIndicator (c : Char) : Bool :=
  c == ',' || c == '[' || c == ']' || c == '{' || c == '}'

/-- Reads the words of a plain scalar up to the next blank or indicator; fails on a colon inside
brackets that is followed by an indicator. -/
def readPlainWord (inFlow : Bool) : Nat → List Char → Cursor → Option (List Char × Cursor)
  | 0, read, cursor => some (read, cursor)
  | fuel + 1, read, cursor =>
    match cursor.rest with
    | [] => some (read, cursor)
    | c :: next =>
      if isBlank c ∨ isBreak c then some (read, cursor)
      else if inFlow ∧ c = ':' ∧ next.head?.any (fun d => d == '?' || isFlowIndicator d) then none
      else if (c = ':' ∧ cursor.endsWordAt 1) ∨ (inFlow ∧ isFlowIndicator c) then
        some (read, cursor)
      else readPlainWord inFlow fuel (c :: read) cursor.step

/-- A plain scalar, where it ends, and whether a line break was passed over at its end. -/
structure Plain where
  text : String
  cursor : Cursor
  broken : Bool

/-- Reads a plain scalar whose later lines start at the column `indent` or behind it. -/
def readPlain (inFlow : Bool) (indent : Nat) : Nat → List Char → Gap → Cursor → Option Plain
  | 0, read, gap, cursor => some ⟨String.ofList read.reverse, cursor, gap.broken⟩
  | fuel + 1, read, gap, cursor =>
    if cursor.atDocumentMarker || cursor.startsWith '#' then
      some ⟨String.ofList read.reverse, cursor, gap.broken⟩
    else do
      let (word, after) ← readPlainWord inFlow cursor.left [] cursor
      if word.isEmpty then some ⟨String.ofList read.reverse, cursor, gap.broken⟩
      else
        let read := word ++ gap.text.reverse ++ read
        if after.atBlank || after.atBreak then do
          let (gap, cursor) ← Gap.read indent after.left {} after
          if !inFlow ∧ cursor.column < indent then
            some ⟨String.ofList read.reverse, cursor, gap.broken⟩
          else readPlain inFlow indent fuel read gap cursor
        else some ⟨String.ofList read.reverse, after, false⟩

/-- What happens to the line breaks at the end of a block scalar. -/
inductive Chomping where
  | strip
  | clip
  | keep
  deriving DecidableEq

def Chomping.ofSign? (c : Char) : Option Chomping :=
  if c = '+' then some .keep else if c = '-' then some .strip else none

/-- Reads sign and indentation of a block scalar in either order; an indentation of 0 is an
error. -/
def readBlockHeader (cursor : Cursor) : Option (Chomping × Nat × Cursor) :=
  let sign (cursor : Cursor) : Option (Chomping × Cursor) :=
    (cursor.rest.head?.bind Chomping.ofSign?).map fun chomping => (chomping, cursor.step)
  let digit (cursor : Cursor) : Option (Nat × Cursor) :=
    (cursor.rest.head?.filter Char.isDigit).map fun c => (c.toNat - 48, cursor.step)
  let checked (chomping : Chomping) (found : Option (Nat × Cursor)) (cursor : Cursor) :
      Option (Chomping × Nat × Cursor) :=
    match found with
    | none => some (chomping, 0, cursor)
    | some (0, _) => none
    | some (indent, cursor) => some (chomping, indent, cursor)
  match sign cursor with
  | some (chomping, cursor) => checked chomping (digit cursor) cursor
  | none => do
    let (_, indent, cursor) ← checked .clip (digit cursor) cursor
    match sign cursor with
    | some (chomping, cursor) => some (chomping, indent, cursor)
    | none => some (.clip, indent, cursor)

/-- Reads the indentation and the empty lines before a line of a block scalar. An indentation of 0
is not known yet; `widest` is the widest met so far. -/
def readBlockBreaks (indent : Nat) : Nat → Nat → List Char → Cursor →
    Option (Nat × List Char × Cursor)
  | 0, widest, breaks, cursor => some (widest, breaks, cursor)
  | fuel + 1, widest, breaks, cursor =>
    let spaces := (cursor.rest.takeWhile fun c => c == ' ').length
    let cursor := cursor.steps (if indent = 0 then spaces else min spaces (indent - cursor.column))
    let widest := max widest cursor.column
    if (indent = 0 ∨ cursor.column < indent) ∧ cursor.startsWith '\t' then none
    else if cursor.atBreak then
      readBlockBreaks indent fuel widest (breaks ++ cursor.keptBreak) cursor.stepLine
    else some (widest, breaks, cursor)

/-- Reads the lines of a block scalar. `leading` is the break behind the last line, `trailing` the
breaks of empty lines after it, and `indented` tells whether the last line began with a blank. -/
def readBlockLines (folded : Bool) (chomping : Chomping) (indent : Nat) : Nat → List Char →
    (leading trailing : List Char) → (indented : Bool) → Cursor → Option (String × Cursor)
  | 0, _, _, _, _, _ => none
  | fuel + 1, read, leading, trailing, indented, cursor =>
    if cursor.column = indent ∧ !cursor.atEnd then do
      let blank := cursor.atBlank
      let joint :=
        if folded ∧ leading.head? = some '\n' ∧ !indented ∧ !blank then
          if trailing.isEmpty then [' '] else []
        else leading
      let line := cursor.rest.takeWhile fun c => !isBreak c
      let read := line.reverse ++ trailing.reverse ++ joint.reverse ++ read
      let cursor := cursor.skipToLineEnd
      let leading := cursor.keptBreak
      let cursor := cursor.stepLine
      let (_, trailing, cursor) ← readBlockBreaks indent (cursor.left + 1) 0 [] cursor
      readBlockLines folded chomping indent fuel read leading trailing blank cursor
    else
      let tail := match chomping with
        | .strip => []
        | .clip => leading
        | .keep => leading ++ trailing
      some (String.ofList (read.reverse ++ tail), cursor)

/-- Reads a block scalar behind its indicator, inside a block with the given indentation. -/
def readBlock (folded : Bool) (outer : Int) (cursor : Cursor) : Option (String × Cursor) := do
  let (chomping, increment, cursor) ← readBlockHeader cursor
  let cursor ← cursor.skipRestOfLine?
  let base := (max outer 0).toNat
  let indent := if increment = 0 then 0 else base + increment
  let (widest, trailing, cursor) ← readBlockBreaks indent (cursor.left + 1) 0 [] cursor
  let indent := if indent = 0 then max (max widest (outer + 1).toNat) 1 else indent
  readBlockLines folded chomping indent (cursor.left + 2) [] [] trailing false cursor

end TypedRoutes.Yaml
