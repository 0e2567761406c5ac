import TypedRoutes.Yaml.Node
import TypedRoutes.Yaml.Plain

/-!
The JSON value of a YAML tree. Keys are taken as texts, aliases as what they stand for. Where an
object is asked for, an empty plain scalar stands for the empty object.
-/

set_option autoImplicit false
set_option relaxedAutoImplicit false

namespace TypedRoutes.Yaml

/-- What is asked for at a place: any value, an object with something asked for under each key, or
such an object or null. -/
inductive Expected where
  | any
  | object (inner : String → Expected)
  | objectOrNull (inner : String → Expected)

def Expected.under (key : String) : Expected → Expected
  | .any => .any
  | .object inner => inner key
  | .objectOrNull inner => inner key

namespace Node

mutual

def anchored : Node → List (Nat × Node)
  | .alias _ => []
  | .scalar properties plain text =>
    (properties.anchor.map fun number => (number, Node.scalar properties plain text)).toList
  | .sequence properties items =>
    (properties.anchor.map fun number => (number, Node.sequence properties items)).toList ++
      anchoredItems items
  | .mapping properties entries =>
    (properties.anchor.map fun number => (number, Node.mapping properties entries)).toList ++
      anchoredEntries entries

def anchoredItems : List Node → List (Nat × Node)
  | [] => []
  | item :: rest => item.anchored ++ anchoredItems rest

def anchoredEntries : List (Node × Node) → List (Nat × Node)
  | [] => []
  | (key, value) :: rest => key.anchored ++ value.anchored ++ anchoredEntries rest

end

mutual

/-- The number of starts and ends in a tree; a scalar or alias counts once. -/
def events : Node → Nat
  | .alias _ => 1
  | .scalar _ _ _ => 1
  | .sequence _ items => eventsOfItems items + 2
  | .mapping _ entries => eventsOfEntries entries + 2

def eventsOfItems : List Node → Nat
  | [] => 0
  | item :: rest => item.events + eventsOfItems rest

def eventsOfEntries : List (Node × Node) → Nat
  | [] => 0
  | (key, value) :: rest => key.events + value.events + eventsOfEntries rest

end

end Node

/-- Work on a tree: aliases may be followed only so often, and the work may fail. -/
abbrev Work (α : Type) := StateT Nat Option α

def nestingLimit : Nat := 128

/-- How often aliases may be followed, for each start or end in the tree. -/
def aliasFactor : Nat := 100

/-- The node that an alias stands for. Of several with one number, the last one counts. -/
def follow (anchors : List (Nat × Node)) : Node → Work Node
  | .alias number => do
    let left ← get
    if left = 0 then failure
    set (left - 1)
    match anchors.reverse.find? fun anchor => anchor.1 == number with
    | some (_, node) => return node
    | none => failure
  | node => return node

def keyText (anchors : List (Nat × Node)) (node : Node) : Work String := do
  match ← follow anchors node with
  | .scalar _ _ text => return text
  | _ => failure

def scalarAt (expected : Expected) (tag : Option Tag) (plain : Bool) (text : String) :
    Option Json :=
  match expected with
  | .any => scalarValue? tag plain text
  | .object _ => if plain && text.isEmpty then some (.object []) else none
  | .objectOrNull _ =>
    match plain, tag with
    | false, _ => none
    | true, none => if text.isEmpty || isNullWord text then some .null else none
    | true, some tag =>
      if tag = Tag.standard "null" then if isNullWord text then some .null else none
      else if text.isEmpty then some (.object []) else none

def Expected.isAny : Expected → Bool
  | .any => true
  | _ => false

/-- The JSON value of a node, where at most `depth` objects and lists may be nested. -/
def toJson (anchors : List (Nat × Node)) : (depth : Nat) → Expected → Node → Work Json
  | depth, expected, node => do
    match ← follow anchors node, depth with
    | .alias _, _ => failure
    | .scalar properties plain text, _ => StateT.lift (scalarAt expected properties.tag plain text)
    | .sequence _ _, 0 => failure
    | .mapping _ _, 0 => failure
    | .sequence properties items, depth + 1 =>
      if expected.isAny && !properties.tag.any Tag.isForeign then
        return .array (← items.mapM (toJson anchors depth .any))
      else failure
    | .mapping properties entries, depth + 1 =>
      if expected.isAny && properties.tag.any Tag.isForeign then failure
      else
        let fields ← entries.mapM fun entry => do
          let key ← keyText anchors entry.1
          let value ← toJson anchors depth (expected.under key) entry.2
          return (key, value)
        return .object fields

/-- The JSON value of a YAML text; none if the text is not well-formed or holds another value than
is asked for. A text without a document stands for the empty object. -/
def parse? (expected : Expected) (text : String) : Option Json := do
  match ← Node.parse? text with
  | none => some (.object [])
  | some root => do
    let (value, _) ← (toJson root.anchored nestingLimit expected root).run
      (aliasFactor * root.events)
    some value

end TypedRoutes.Yaml
