import TypedRoutes.Numeric.Shortest
import TypedRoutes.OrderedMap

/-!
JSON values. Objects are lists of fields in the order written; a value read from a text may repeat
a key, and `Json.collapse` keeps the last value of each key at the first place of the key.
-/

set_option autoImplicit false
set_option relaxedAutoImplicit false

namespace TypedRoutes

namespace Json

/-- A number: an integer between `-2 ^ 63` and `2 ^ 64`, or any other number as a double. -/
inductive Number where
  | integer (value : Int)
  | double (value : Numeric.Double)
  deriving DecidableEq, Repr

end Json

inductive Json where
  | null
  | bool (value : Bool)
  | number (value : Json.Number)
  | string (value : String)
  | array (items : List Json)
  | object (fields : List (String × Json))
  deriving Repr, BEq

namespace Json

instance : Inhabited Json := ⟨.null⟩

mutual

/-- Keeps one field per key in every object: the last value, at the first place of the key. -/
def collapse : Json → Json
  | .array items => .array (collapseItems items)
  | .object fields => .object (collapseFields [] fields)
  | .null => .null
  | .bool value => .bool value
  | .number value => .number value
  | .string value => .string value

def collapseItems : List Json → List Json
  | [] => []
  | item :: rest => item.collapse :: collapseItems rest

/-- Writes collapsed fields one after another behind those already written. -/
def collapseFields (written : List (String × Json)) : List (String × Json) → List (String × Json)
  | [] => written
  | (key, value) :: rest => collapseFields (writeEntry key value.collapse written) rest

end

def isNull : Json → Bool
  | .null => true
  | _ => false

def asString? : Json → Option String
  | .string value => some value
  | _ => none

/-- The value of a field, if the value is an object that has the field. -/
def field? (key : String) : Json → Option Json
  | .object fields => entryValue? key fields
  | _ => none

mutual

/-- How deeply arrays and objects are nested; a scalar has depth 0. -/
def depth : Json → Nat
  | .array items => depthItems items + 1
  | .object fields => depthFields fields + 1
  | .null => 0
  | .bool _ => 0
  | .number _ => 0
  | .string _ => 0

def depthItems : List Json → Nat
  | [] => 0
  | item :: rest => max item.depth (depthItems rest)

def depthFields : List (String × Json) → Nat
  | [] => 0
  | (_, value) :: rest => max value.depth (depthFields rest)

end

end Json

end TypedRoutes
