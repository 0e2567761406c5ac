import TypedRoutes.Json.Reader
import TypedRoutes.OpenApi.Document

/-!
OpenAPI documents from JSON. Only the objects on the way to an operation must be objects; every
other value is taken as it is, with one field per key.
-/

set_option autoImplicit false
set_option relaxedAutoImplicit false

namespace TypedRoutes.OpenApi

open Json (Reading ReadError)

def rawValue (reading : Reading) : Except ReadError Json := reading.toJson.map Json.collapse

def Operation.ofReading : Reading → Except ReadError Operation
  | .object fields stop => do
    let fields ← Reading.fieldsToJson fields
    Reading.ending stop
    .ok ⟨OrderedMap.ofList (fields.map fun field => (field.1, field.2.collapse))⟩
  | reading => .error (reading.unexpected "a map")

namespace PathItem

def Entry.ofReading (key : String) (reading : Reading) : Except ReadError Entry :=
  match h : Method.ofKey? key with
  | some method => (Operation.ofReading reading).map (.operation method)
  | none => (rawValue reading).map fun value => .field key value h

def entriesOfReadings : List (String × Reading) → Except ReadError (List Entry)
  | [] => .ok []
  | (key, reading) :: rest => do
    let entry ← Entry.ofReading key reading
    let entries ← entriesOfReadings rest
    .ok (entry :: entries)

def ofReading : Reading → Except ReadError PathItem
  | .object fields stop => do
    let entries ← entriesOfReadings fields
    Reading.ending stop
    .ok ⟨entries⟩
  | reading => .error (reading.unexpected "an OpenAPI path item object")

def ofJson (value : Json) : Except ReadError PathItem := ofReading value.toReading

end PathItem

def Operation.ofJson (value : Json) : Except ReadError Operation :=
  Operation.ofReading value.toReading

namespace Paths

def Entry.ofReading (key : String) (reading : Reading) : Except ReadError Entry :=
  if isExtensionKey key then (rawValue reading).map .extension
  else (PathItem.ofReading reading).map .item

/-- The entries of the paths, written behind those already taken. -/
def takeEntries (taken : OrderedMap Entry) :
    List (String × Reading) → Except ReadError (OrderedMap Entry)
  | [] => .ok taken
  | (key, reading) :: rest => do
    let entry ← Entry.ofReading key reading
    takeEntries (taken.insert key entry) rest

def ofReading : Reading → Except ReadError Paths
  | .object fields stop => do
    let entries ← takeEntries .empty fields
    Reading.ending stop
    .ok ⟨entries⟩
  | reading => .error (reading.unexpected "an OpenAPI paths object")

/-- What a list of a template and its path item is called in messages. -/
def pairTitle : String := "a tuple of size 2"

def templateOfJson : Json → Except Json.Mismatch String
  | .string template => .ok template
  | value => .error (.wrongType (Json.found value) "a string")

def pairOfJson : Json → Except ReadError (String × PathItem)
  | .array [] => .error (.mismatch (.wrongLength 0 pairTitle))
  | .array (template :: rest) => do
    let template ← (templateOfJson template).mapError .mismatch
    match rest with
    | [] => .error (.mismatch (.wrongLength 1 pairTitle))
    | item :: rest =>
      let item ← PathItem.ofJson item
      if rest.isEmpty then .ok (template, item)
      else .error (.mismatch (.wrongLength (rest.length + 2) "fewer elements in array"))
  | value => .error (.mismatch (.wrongType (Json.found value) pairTitle))

def pairsOfJson : Json → Except ReadError (List (String × PathItem))
  | .array pairs => pairs.mapM pairOfJson
  | value => .error (.mismatch (.wrongType (Json.found value) "a sequence"))

end Paths

namespace Document

/-- The paths of a document, where null stands for none. -/
def pathsOfReading : Reading → Except ReadError Paths
  | .null => .ok {}
  | reading => Paths.ofReading reading

def takeFields (taken : Document) : List (String × Reading) → Except ReadError Document
  | [] => .ok taken
  | (key, reading) :: rest =>
    if key = pathsField then do
      let paths ← pathsOfReading reading
      takeFields ⟨taken.fields.insert key .null, paths⟩ rest
    else do
      let value ← rawValue reading
      takeFields ⟨taken.fields.insert key value, taken.paths⟩ rest

def ofReading : Reading → Except ReadError Document
  | .object fields stop => do
    let document ← takeFields {} fields
    Reading.ending stop
    .ok document
  | reading => .error (reading.unexpected "an OpenAPI document object")

def ofJson (value : Json) : Except ReadError Document := ofReading value.toReading

def parse (text : String) : Except ReadError Document :=
  Json.decodeText (fun _ => false) ofReading text

end Document

end TypedRoutes.OpenApi
