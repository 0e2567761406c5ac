import TypedRoutes.Json.Basic

/-!
Path items of an OpenAPI document: the operations under their methods, and the fields that the
operations share. Of an operation only its id is looked at; all else is kept as it is.
-/

set_option autoImplicit false
set_option relaxedAutoImplicit false

namespace TypedRoutes.OpenApi

/-- The HTTP methods that a path item may have an operation for. -/
inductive Method where
  | get
  | put
  | post
  | delete
  | options
  | head
  | patch
  | trace
  deriving DecidableEq, Repr

namespace Method

def all : List Method := [.get, .put, .post, .delete, .options, .head, .patch, .trace]

def key : Method → String
  | .get => "get"
  | .put => "put"
  | .post => "post"
  | .delete => "delete"
  | .options => "options"
  | .head => "head"
  | .patch => "patch"
  | .trace => "trace"

/-- The method with a key; keys are in lower case. -/
def ofKey? (key : String) : Option Method := all.find? fun method => method.key == key

end Method

def idField : String := "operationId"

structure Operation where
  fields : OrderedMap Json := .empty

namespace Operation

/-- The id of an operation; an empty text is no id. -/
def id? (operation : Operation) : Option String :=
  ((operation.fields.get? idField).bind Json.asString?).filter fun id => !id.isEmpty

/-- The operation with its id written, in place if the field is there. -/
def setId (operation : Operation) (id : String) : Operation :=
  ⟨operation.fields.insert idField (.string id)⟩

def withId (id : String) : Operation := setId {} id

def field? (operation : Operation) (key : String) : Option Json := operation.fields.get? key

def toJson (operation : Operation) : Json := .object operation.fields.entries

end Operation

/-- An entry of a path item: an operation, or a field under a key that names no method. -/
inductive PathItem.Entry where
  | operation (method : Method) (operation : Operation)
  | field (key : String) (value : Json) (no_method : Method.ofKey? key = none)

/-- A path item: its entries in document order. -/
structure PathItem where
  entries : List PathItem.Entry := []

namespace PathItem

def Entry.operation? : Entry → Option (Method × Operation)
  | .operation method op => some (method, op)
  | .field _ _ _ => none

def Entry.field? : Entry → Option (String × Json)
  | .operation _ _ => none
  | .field key value _ => some (key, value)

def Entry.mapOperation (f : Method → Operation → Operation) : Entry → Entry
  | .operation method op => .operation method (f method op)
  | .field key value no_method => .field key value no_method

/-- Changes the operation of an entry; a state goes in and out. -/
def Entry.visitOperation {σ : Type} (f : Method → Operation → σ → Operation × σ) (entry : Entry)
    (state : σ) : Entry × σ :=
  match entry with
  | .operation method op =>
    let (op, state) := f method op state
    (.operation method op, state)
  | .field key value no_method => (.field key value no_method, state)

def Entry.isOf (method : Method) : Entry → Bool
  | .operation other _ => other == method
  | .field _ _ _ => false

def operations (item : PathItem) : List (Method × Operation) :=
  item.entries.filterMap Entry.operation?

def operation? (item : PathItem) (method : Method) : Option Operation :=
  (item.operations.find? fun operation => operation.1 == method).map Prod.snd

def field? (item : PathItem) (key : String) : Option Json :=
  ((item.entries.filterMap Entry.field?).find? fun field => field.1 == key).map Prod.snd

def mapOperations (f : Method → Operation → Operation) (item : PathItem) : PathItem :=
  ⟨item.entries.map (Entry.mapOperation f)⟩

/-- Changes the operations one after another; a state goes from each to the next. -/
def visitOperations {σ : Type} (f : Method → Operation → σ → Operation × σ) (item : PathItem)
    (state : σ) : PathItem × σ :=
  let (entries, state) := visitAll (Entry.visitOperation f) item.entries state
  (⟨entries⟩, state)

/-- Writes an operation among entries: over the first of its method, or at the end. -/
def writeOperation (method : Method) (operation : Operation) : List Entry → List Entry
  | [] => [.operation method operation]
  | entry :: rest =>
    if entry.isOf method then .operation method operation :: rest
    else entry :: writeOperation method operation rest

def withOperation (item : PathItem) (method : Method) (operation : Operation) : PathItem :=
  ⟨writeOperation method operation item.entries⟩

def Entry.toField : Entry → String × Json
  | .operation method op => (method.key, op.toJson)
  | .field key value _ => (key, value)

def toJson (item : PathItem) : Json := .object (item.entries.map Entry.toField)

end PathItem

end TypedRoutes.OpenApi
