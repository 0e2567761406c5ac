import TypedRoutes.Json.Error

/-!
A JSON text as far as it can be read. A reader that asks for a certain shape meets a value of
another shape before a fault further on in the text, so a text with a fault is not simply
rejected: it is a value that breaks off.
-/

set_option autoImplicit false
set_option relaxedAutoImplicit false

namespace TypedRoutes.Json

/--
A value that may break off. An item of an array comes with its place in the text, if it is from a
text. `stop` is the fault behind the last item or field; `broken` is a value that could not be
read at all.
-/
inductive Reading where
  | null
  | bool (value : Bool)
  | number (value : Number)
  | string (value : String)
  | array (items : List (Option Position × Reading)) (stop : Option SyntaxError)
  | object (fields : List (String × Reading)) (stop : Option SyntaxError)
  | broken (error : SyntaxError)

namespace Reading

/-- Fails with the fault behind the last item or field, if there is one. -/
def ending : Option SyntaxError → Except ReadError Unit
  | none => .ok ()
  | some error => .error (.malformed error)

mutual

/-- The whole value, repeated keys included, or the first fault. -/
def toJson : Reading → Except ReadError Json
  | .null => .ok .null
  | .bool value => .ok (.bool value)
  | .number value => .ok (.number value)
  | .string value => .ok (.string value)
  | .array items stop => do
    let items ← itemsToJson items
    ending stop
    .ok (.array items)
  | .object fields stop => do
    let fields ← fieldsToJson fields
    ending stop
    .ok (.object fields)
  | .broken error => .error (.malformed error)

def itemsToJson : List (Option Position × Reading) → Except ReadError (List Json)
  | [] => .ok []
  | (_, item) :: rest => do
    let item ← item.toJson
    let rest ← itemsToJson rest
    .ok (item :: rest)

def fieldsToJson : List (String × Reading) → Except ReadError (List (String × Json))
  | [] => .ok []
  | (key, value) :: rest => do
    let value ← value.toJson
    let rest ← fieldsToJson rest
    .ok ((key, value) :: rest)

end

/-- The error for a value of another type than the one asked for, or the fault it begins with. -/
def unexpected (expected : String) : Reading → ReadError
  | .null => .mismatch (.wrongType .null expected)
  | .bool value => .mismatch (.wrongType (.bool value) expected)
  | .number value => .mismatch (.wrongType (.number value) expected)
  | .string value => .mismatch (.wrongType (.string value) expected)
  | .array _ _ => .mismatch (.wrongType .sequence expected)
  | .object _ _ => .mismatch (.wrongType .map expected)
  | .broken error => .malformed error

end Reading

mutual

def toReading : Json → Reading
  | .null => .null
  | .bool value => .bool value
  | .number value => .number value
  | .string value => .string value
  | .array items => .array (itemsToReading items) none
  | .object fields => .object (fieldsToReading fields) none

def itemsToReading : List Json → List (Option Position × Reading)
  | [] => []
  | item :: rest => (none, item.toReading) :: itemsToReading rest

def fieldsToReading : List (String × Json) → List (String × Reading)
  | [] => []
  | (key, value) :: rest => (key, value.toReading) :: fieldsToReading rest

end

end TypedRoutes.Json
