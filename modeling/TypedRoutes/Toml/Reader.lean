import TypedRoutes.Toml.Scalar
import TypedRoutes.Toml.Value

/-!
The reader of TOML texts. A text is read line by line into the root table.
-/

set_option autoImplicit false
set_option relaxedAutoImplicit false

namespace TypedRoutes.Toml

def nestingLimit : Nat := 80

/-- Reads a key, an equals sign and a value, with anything between them that `skip` passes over. -/
def assignment? (skip : List Char → List Char)
    (value? : List Char → Option (Value × List Char)) (text : List Char) :
    Option (List String × Value × List Char) := do
  let (path, rest) ← path? text.length text
  match skip rest with
  | '=' :: rest =>
    let (value, rest) ← value? (skip rest)
    some (path, value, rest)
  | _ => none

/-- Reads the entries of a table up to its closing brace; the number limits the entries. Lines may
end anywhere between keys, signs and values. -/
def inlineEntries? (value? : List Char → Option (Value × List Char)) :
    Nat → Entries → List Char → Option (Entries × List Char)
  | 0, _, _ => none
  | limit + 1, entries, text =>
    match skipSpace false text with
    | '}' :: rest => some (entries, rest)
    | text => do
      let (path, value, rest) ← assignment? (skipSpace false) value? text
      let entries ← entries.assign? path value
      match skipSpace false rest with
      | ',' :: rest => inlineEntries? value? limit entries rest
      | '}' :: rest => some (entries, rest)
      | _ => none

/-- Reads a value; the number limits the nesting of tables. -/
def value? : Nat → List Char → Option (Value × List Char)
  | depth, text =>
    match text with
    | 't' :: 'r' :: 'u' :: 'e' :: rest => some (.bool true, rest)
    | 'f' :: 'a' :: 'l' :: 's' :: 'e' :: rest => some (.bool false, rest)
    | '[' :: rest =>
      match skipSpace false rest with
      | ']' :: rest => some (.emptyList, rest)
      | _ => none
    | '{' :: rest =>
      match depth with
      | 0 => none
      | depth + 1 =>
        (inlineEntries? (value? depth) text.length [] rest).map fun read =>
          (.table .inline read.1, read.2)
    | _ => (text? text).map fun read => (.text read.1, read.2)

inductive Line where
  | blank
  | header (path : List String)
  | assignment (path : List String) (value : Value)

def line? (text : List Char) : Option (Line × List Char) :=
  match skipBlanks text with
  | '[' :: rest => do
    let (path, rest) ← path? rest.length (skipBlanks rest)
    match rest with
    | ']' :: rest => (endLine? rest).map fun rest => (.header path, rest)
    | _ => none
  | text =>
    match endLine? text with
    | some rest => some (.blank, rest)
    | none => do
      let (path, value, rest) ← assignment? skipBlanks (value? nestingLimit) text
      (endLine? rest).map fun rest => (.assignment path value, rest)

/-- The root table so far, and the header under which the next lines stand. -/
structure State where
  root : Entries := []
  header : List String := []

def State.take? (state : State) : Line → Option State
  | .blank => some state
  | .header path => (state.root.open? path).map fun root => ⟨root, path⟩
  | .assignment path value =>
    (state.root.assignUnder? state.header path value).map fun root => { state with root := root }

/-- Reads the lines of a text; the number limits the lines. -/
def lines? : Nat → State → List Char → Option State
  | _, state, [] => some state
  | 0, _, _ :: _ => none
  | limit + 1, state, text => do
    let (line, rest) ← line? text
    let state ← state.take? line
    lines? limit state rest

/-- The root table of a text; none if the text is not well-formed or holds a value that no option
takes. A byte order mark may stand in front. -/
def parse? (text : String) : Option Entries :=
  let chars := match text.toList with
    | c :: rest => if c = Char.ofNat 0xFEFF then rest else c :: rest
    | [] => []
  if hasWholeLineEnds chars then (lines? chars.length {} chars).map State.root else none

end TypedRoutes.Toml
