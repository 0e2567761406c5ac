import TypedRoutes.Yaml.Lexer

/-!
The tree of a YAML text. Anchors are numbered in the order in which their nodes start, and an
alias holds the number of its anchor. A text holds at most one document.
-/

set_option autoImplicit false
set_option relaxedAutoImplicit false

namespace TypedRoutes.Yaml

/-- What may stand before a node: the number of its anchor, and its tag in full. -/
structure Properties where
  anchor : Option Nat := none
  tag : Option Tag := none
  deriving DecidableEq, Repr

inductive Node where
  | alias (anchor : Nat)
  | scalar (properties : Properties) (plain : Bool) (text : String)
  | sequence (properties : Properties) (items : List Node)
  | mapping (properties : Properties) (entries : List (Node × Node))

namespace Node

instance : Inhabited Node := ⟨.scalar {} true ""⟩

def empty : Node := .scalar {} true ""

end Node

namespace Parser

/-- What is left of the tokens, the anchors with their numbers, and the tag shorthands. -/
structure State where
  tokens : List Token
  anchors : List (String × Nat) := []
  shorthands : List (String × Tag) := []

end Parser

abbrev Parser (α : Type) := StateT Parser.State Option α

namespace Parser

def peek : Parser (Option Token) := do return (← get).tokens.head?

def advance : Parser Unit := modify fun state => { state with tokens := state.tokens.tail }

/-- Passes over the next token if it is the given one, and tells if it was. -/
def accept (token : Token) : Parser Bool := do
  if (← peek) = some token then
    advance
    return true
  else return false

def expect (token : Token) : Parser Unit := do
  if !(← accept token) then failure

def nextIn (tokens : List Token) : Parser Bool := do
  match ← peek with
  | some token => return tokens.contains token
  | none => return false

/-- Gives an anchor its number: the count of different names so far. A name that comes again gets
a new number, and the count does not grow with it. -/
def register (name : String) : Parser Nat := do
  let state ← get
  let number := state.anchors.length
  let others := state.anchors.filter fun anchor => anchor.1 != name
  set { state with anchors := others ++ [(name, number)] }
  return number

def anchorNumber (name : String) : Parser Nat := do
  match (← get).anchors.find? fun anchor => anchor.1 == name with
  | some (_, number) => return number
  | none => failure

def knownShorthands : List (String × Tag) := [("!", [Tag.localMark]), ("!!", Tag.standard "")]

def fullTag (handle : String) (suffix : Tag) : Parser Tag := do
  if handle.isEmpty then return suffix
  else
    let declared := (← get).shorthands ++ knownShorthands
    match declared.find? fun shorthand => shorthand.1 == handle with
    | some (_, lead) => return lead ++ suffix
    | none => failure

def readAnchorName : Parser (Option String) := do
  match ← peek with
  | some (.anchor name) => do
    advance
    return some name
  | _ => return none

def readTagName : Parser (Option (String × Tag)) := do
  match ← peek with
  | some (.tag handle suffix) => do
    advance
    return some (handle, suffix)
  | _ => return none

def readProperties : Parser Properties := do
  let first ← readAnchorName
  let tag ← readTagName
  let name ← if first.isSome then pure first else readAnchorName
  let tag ← tag.mapM fun tag => fullTag tag.1 tag.2
  let anchor ← name.mapM register
  return { anchor := anchor, tag := tag }

mutual

/-- Reads a node, as part of a block or inside brackets; `indentless` tells whether a list may
start here without being indented. `fuel` bounds the number of steps. -/
def readNode : Nat → (block indentless : Bool) → Parser Node
  | 0, _, _ => failure
  | fuel + 1, block, indentless => do
    match ← peek with
    | some (.alias name) => do
      advance
      return .alias (← anchorNumber name)
    | _ => do
      let properties ← readProperties
      match ← peek with
      | some (.scalar plain text) => do
        advance
        return .scalar properties plain text
      | some .flowSequenceStart => do
        advance
        return .sequence properties (← readFlowItems fuel true)
      | some .flowMappingStart => do
        advance
        return .mapping properties (← readFlowEntries fuel true)
      | token =>
        if token = some .entry ∧ indentless then
          return .sequence properties (← readIndentlessItems fuel)
        else if token = some .sequenceStart ∧ block then do
          advance
          return .sequence properties (← readBlockItems fuel)
        else if token = some .mappingStart ∧ block then do
          advance
          return .mapping properties (← readBlockEntries fuel)
        else if properties.anchor.isSome || properties.tag.isSome then
          return .scalar properties true ""
        else failure

/-- Reads a node, unless one of the given tokens is next. -/
def readNodeUnless (fuel : Nat) (block indentless : Bool) (ends : List Token) : Parser Node := do
  match fuel with
  | 0 => failure
  | fuel + 1 => if ← nextIn ends then return Node.empty else readNode fuel block indentless

def readBlockItems : Nat → Parser (List Node)
  | 0 => failure
  | fuel + 1 => do
    if ← accept .entry then do
      let item ← readNodeUnless fuel true false [.entry, .blockEnd]
      return item :: (← readBlockItems fuel)
    else do
      expect .blockEnd
      return []

def readIndentlessItems : Nat → Parser (List Node)
  | 0 => failure
  | fuel + 1 => do
    if ← accept .entry then do
      let item ← readNodeUnless fuel true false [.entry, .key, .value, .blockEnd]
      return item :: (← readIndentlessItems fuel)
    else return []

def readBlockEntries : Nat → Parser (List (Node × Node))
  | 0 => failure
  | fuel + 1 => do
    if ← accept .key then do
      let key ← readNodeUnless fuel true true [.key, .value, .blockEnd]
      let value ← readBlockValue fuel
      return (key, value) :: (← readBlockEntries fuel)
    else do
      expect .blockEnd
      return []

def readBlockValue : Nat → Parser Node
  | 0 => failure
  | fuel + 1 => do
    if ← accept .value then readNodeUnless fuel true true [.key, .value, .blockEnd]
    else return Node.empty

/-- Reads the items of a list in brackets; a key among them is a mapping by itself. -/
def readFlowItems : Nat → (first : Bool) → Parser (List Node)
  | 0, _ => failure
  | fuel + 1, first => do
    if ← accept .flowSequenceEnd then return []
    else do
      if !first then expect .flowEntry
      if ← accept .flowSequenceEnd then return []
      else if ← accept .key then do
        let entry ← readFlowPair fuel
        return .mapping {} [entry] :: (← readFlowItems fuel false)
      else do
        let item ← readNode fuel false false
        return item :: (← readFlowItems fuel false)

/-- Reads the key and the value of a mapping among the items of a list in brackets. A key that is
missing takes the token behind it with it. -/
def readFlowPair : Nat → Parser (Node × Node)
  | 0 => failure
  | fuel + 1 => do
    let key ←
      if ← nextIn [.value, .flowEntry, .flowSequenceEnd] then do
        advance
        pure Node.empty
      else readNode fuel false false
    if ← accept .value then
      return (key, ← readNodeUnless fuel false false [.flowEntry, .flowSequenceEnd])
    else return (key, Node.empty)

/-- Reads the entries of a mapping in braces; a node without a question mark or colon is a key
without a value. -/
def readFlowEntries : Nat → (first : Bool) → Parser (List (Node × Node))
  | 0, _ => failure
  | fuel + 1, first => do
    if ← accept .flowMappingEnd then return []
    else do
      if !first then expect .flowEntry
      if ← accept .flowMappingEnd then return []
      else if ← accept .key then do
        let key ← readNodeUnless fuel false false [.value, .flowEntry, .flowMappingEnd]
        let value ← readFlowValue fuel
        return (key, value) :: (← readFlowEntries fuel false)
      else do
        let key ← readNode fuel false false
        return (key, Node.empty) :: (← readFlowEntries fuel false)

def readFlowValue : Nat → Parser Node
  | 0 => failure
  | fuel + 1 => do
    if ← accept .value then readNodeUnless fuel false false [.flowEntry, .flowMappingEnd]
    else return Node.empty

end

/-- Reads directives: at most one version, which must be 1.1 or 1.2, and shorthands with different
handles. Tells whether there were any. -/
def readDirectives : Nat → (versioned : Bool) → (shorthands : List (String × Tag)) →
    Parser (List (String × Tag))
  | 0, _, _ => failure
  | fuel + 1, versioned, shorthands => do
    match ← peek with
    | some (.version major minor) =>
      if versioned ∨ major ≠ 1 ∨ (minor ≠ 1 ∧ minor ≠ 2) then failure
      else do
        advance
        readDirectives fuel true shorthands
    | some (.tagShorthand handle lead) =>
      if shorthands.any fun shorthand => shorthand.1 == handle then failure
      else do
        advance
        readDirectives fuel versioned (shorthands ++ [(handle, lead)])
    | _ => return shorthands

def isDirective : Token → Bool
  | .version _ _ => true
  | .tagShorthand _ _ => true
  | _ => false

def skipDocumentEnds : Nat → Parser Unit
  | 0 => return ()
  | fuel + 1 => do
    if ← accept .documentEnd then skipDocumentEnds fuel

/-- Reads the only document of a text, if there is one. -/
def readDocument (fuel : Nat) : Parser (Option Node) := do
  match ← peek with
  | none => return none
  | some token => do
    let explicit := isDirective token || token == .documentStart
    let shorthands ← readDirectives fuel false []
    modify fun state => { state with shorthands := shorthands }
    if explicit then expect .documentStart
    let next ← peek
    let root ←
      if explicit ∧ next.all fun token =>
          isDirective token || token == .documentStart || token == .documentEnd then
        pure Node.empty
      else readNode fuel true false
    skipDocumentEnds fuel
    if (← peek).isSome then failure
    return some root

end Parser

/-- The tree of a text; none inside if the text holds no document. -/
def Node.parse? (text : String) : Option (Option Node) := do
  let tokens ← tokens? text
  let (root, _) ← (Parser.readDocument (4 * tokens.length + 16)).run { tokens := tokens }
  some root

end TypedRoutes.Yaml
