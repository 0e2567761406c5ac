import TypedRoutes.OpenApi.PathItem

/-!
The paths of an OpenAPI document: path items under their templates in document order. Extensions,
whose keys start with `x-`, keep their places and are passed over by all that looks for path items.
-/

set_option autoImplicit false
set_option relaxedAutoImplicit false

namespace TypedRoutes.OpenApi

/-- An entry of the paths: a path item or the value of an extension. -/
inductive Paths.Entry where
  | item (content : PathItem)
  | extension (value : Json)

structure Paths where
  entries : OrderedMap Paths.Entry := .empty

namespace Paths

def isExtensionKey (key : String) : Bool := ['x', '-'].isPrefixOf key.toList

def Entry.item? : Entry → Option PathItem
  | .item content => some content
  | .extension _ => none

def Entry.extension? : Entry → Option Json
  | .item _ => none
  | .extension value => some value

def Entry.mapItem (f : PathItem → PathItem) : Entry → Entry
  | .item content => .item (f content)
  | .extension value => .extension value

/-- Changes the path item of an entry; a state goes in and out. -/
def Entry.visitItem {σ : Type} (f : PathItem → σ → PathItem × σ) (entry : Entry) (state : σ) :
    Entry × σ :=
  match entry with
  | .item content =>
    let (content, state) := f content state
    (.item content, state)
  | .extension value => (.extension value, state)

def Entry.toJson : Entry → Json
  | .item content => content.toJson
  | .extension value => value

def get? (paths : Paths) (template : String) : Option PathItem :=
  (paths.entries.get? template).bind Entry.item?

def contains (paths : Paths) (template : String) : Bool := (paths.get? template).isSome

def extension? (paths : Paths) (key : String) : Option Json :=
  (paths.entries.get? key).bind Entry.extension?

/-- Writes a path item, in place if the key is there and at the end otherwise, and tells the path
item that it takes the place of. -/
def getThenInsert? (paths : Paths) (template : String) (item : PathItem) :
    Option PathItem × Paths :=
  let (previous, entries) := paths.entries.getThenInsert? template (.item item)
  (previous.bind Entry.item?, ⟨entries⟩)

def insert (paths : Paths) (template : String) (item : PathItem) : Paths :=
  (paths.getThenInsert? template item).2

/-- Removes the path item of a template, and tells it; an extension stays. -/
def getThenErase? (paths : Paths) (template : String) : Option PathItem × Paths :=
  if paths.contains template then
    let (previous, entries) := paths.entries.getThenErase? template
    (previous.bind Entry.item?, ⟨entries⟩)
  else (none, paths)

/-- The paths without the path item of a template. -/
def erase (paths : Paths) (template : String) : Paths := (paths.getThenErase? template).2

def insertMany (paths : Paths) (items : List (String × PathItem)) : Paths :=
  items.foldl (fun paths item => paths.insert item.1 item.2) paths

def ofList (items : List (String × PathItem)) : Paths := insertMany {} items

def items (paths : Paths) : List (String × PathItem) :=
  paths.entries.entries.filterMap fun entry => entry.2.item?.map fun item => (entry.1, item)

def size (paths : Paths) : Nat := paths.items.length

def isEmpty (paths : Paths) : Bool := paths.items.isEmpty

def mapItems (f : String → PathItem → PathItem) (paths : Paths) : Paths :=
  ⟨paths.entries.mapValues fun template entry => entry.mapItem (f template)⟩

/-- Changes the path items one after another; a state goes from each to the next. -/
def visitItems {σ : Type} (f : String → PathItem → σ → PathItem × σ) (paths : Paths) (state : σ) :
    Paths × σ :=
  let (entries, state) := paths.entries.visitValues
    (fun template entry => entry.visitItem (f template)) state
  (⟨entries⟩, state)

/-- Every operation with its template and method, in document order. -/
def operations (paths : Paths) : List (String × Method × Operation) :=
  paths.items.flatMap fun item =>
    item.2.operations.map fun operation => (item.1, operation.1, operation.2)

def toJson (paths : Paths) : Json :=
  .object (paths.entries.entries.map fun entry => (entry.1, entry.2.toJson))

end Paths

end TypedRoutes.OpenApi
