import TypedRoutes.Declaration.Layout
import TypedRoutes.Declaration.Shape
import TypedRoutes.Json.Reader

/-!
Declaration trees from their JSON form. Unknown fields are passed over, a repeated field is an
error, and the first error met in reading order is the one reported.

The parts of a tagged value are read only after the whole value, which shows in two places: a tag
inside another tagged value may be a number, and too many items are reported in other words.
-/

set_option autoImplicit false
set_option relaxedAutoImplicit false

namespace TypedRoutes.Declaration

open Json (Mismatch Reading ReadError found)

def tagName : String := "kind"

/-- The kind that a tag names; inside a tagged value its number will do. -/
def decodeTag {α : Type} (inside : Bool) (kinds : List α) (name : α → String) :
    Json → Except Mismatch α
  | .string text =>
    match kinds.find? fun kind => name kind == text with
    | some kind => .ok kind
    | none => .error (.unknownVariant text (kinds.map name))
  | .number (.integer value) =>
    if inside ∧ 0 ≤ value then
      match kinds[value.toNat]? with
      | some kind => .ok kind
      | none =>
        .error (.wrongValue (.number (.integer value))
          ("variant index 0 <= i < " ++ toString kinds.length))
    else .error (.wrongType (.number (.integer value)) "variant identifier")
  | value => .error (.wrongType (found value) "variant identifier")

/-- The kind in the fields of a tagged value, where `seen` is the kind met so far. -/
def findTag {α : Type} (inside : Bool) (kinds : List α) (name : α → String)
    (seen : Option α) : List (String × Json) → Except Mismatch α
  | [] =>
    match seen with
    | some kind => .ok kind
    | none => .error (.missingField tagName)
  | (key, value) :: rest =>
    if key = tagName then
      if seen.isSome then .error (.duplicateField tagName)
      else do
        let kind ← decodeTag inside kinds name value
        findTag inside kinds name (some kind) rest
    else findTag inside kinds name seen rest

def Keyword.decodeWord (word : String) : Except Mismatch Keyword :=
  match Keyword.ofWord? word with
  | some keyword => .ok keyword
  | none => .error (.unknownVariant word (Keyword.all.map Keyword.word))

/-- A keyword: a word, or an object with the word as its only key and nothing as its value. -/
def Keyword.decode : Json → Except Mismatch Keyword
  | .string word => Keyword.decodeWord word
  | .object [(word, value)] => do
    let keyword ← Keyword.decodeWord word
    match value with
    | .null => .ok keyword
    | .object [] => .ok keyword
    | value => .error (.wrongType (found value) "unit")
  | .object _ => .error (.wrongValue .map "map with a single key")
  | value => .error (.wrongType (found value) "string or map")

def countElements (count : Nat) : String :=
  toString count ++ (if count = 1 then " element" else " elements")

/-- A record written as a list that ends before its required field at a place. -/
def Shape.tooShort (shape : Shape) (place : Nat) : Mismatch :=
  .wrongLength place (shape.title ++ " with " ++ countElements shape.fields.length)

def Shape.tooLong (inside : Bool) (shape : Shape) (length : Nat) : Mismatch :=
  .wrongLength length
    (if inside then countElements shape.fields.length ++ " in sequence"
      else "fewer elements in array")

def Taken.complete (taken : Taken) (specs : List FieldSpec) : Except Mismatch Taken :=
  match specs.find? fun spec => spec.required && (entryValue? spec.name taken).isNone with
  | some spec => .error (.missingField spec.name)
  | none => .ok taken

mutual

def decodeValue (inside : Bool) : FieldKind → Json → Except Mismatch FieldValue
  | .text, .string value => .ok (.text value)
  | .flag, .bool value => .ok (.flag value)
  | .keyword, value => (Keyword.decode value).map .keyword
  | .list item, .array items => (decodeEach inside item items).map .list
  | .property, .object fields => do
    let taken ← decodeFields inside Property.shape.fields [] fields
    let taken ← taken.complete Property.shape.fields
    .ok (.property (Property.build taken))
  | .property, .array items => do
    let taken ← decodeItems inside Property.shape items.length 0 Property.shape.fields items
    .ok (.property (Property.build taken))
  | .type, .object fields => do
    let kind ← findTag inside TypeKind.all TypeKind.name none fields
    let taken ← decodeFields true kind.shape.fields [] fields
    let taken ← taken.complete kind.shape.fields
    .ok (.type (kind.build taken))
  | .type, .array (tag :: items) => do
    let kind ← decodeTag inside TypeKind.all TypeKind.name tag
    let taken ← decodeItems true kind.shape items.length 0 kind.shape.fields items
    .ok (.type (kind.build taken))
  | .type, .array [] => .error (.missingField tagName)
  | .statement, .object fields => do
    let kind ← findTag inside StatementKind.all StatementKind.name none fields
    let taken ← decodeFields true kind.shape.fields [] fields
    let taken ← taken.complete kind.shape.fields
    .ok (.statement (kind.build taken))
  | .statement, .array (tag :: items) => do
    let kind ← decodeTag inside StatementKind.all StatementKind.name tag
    let taken ← decodeItems true kind.shape items.length 0 kind.shape.fields items
    .ok (.statement (kind.build taken))
  | .statement, .array [] => .error (.missingField tagName)
  | kind, value => .error (.wrongType (found value) kind.expected)

def decodeEach (inside : Bool) (kind : FieldKind) : List Json → Except Mismatch (List FieldValue)
  | [] => .ok []
  | item :: rest => do
    let value ← decodeValue inside kind item
    let values ← decodeEach inside kind rest
    .ok (value :: values)

/-- Decodes the known fields of a record behind those already taken. -/
def decodeFields (inside : Bool) (specs : List FieldSpec) (taken : Taken) :
    List (String × Json) → Except Mismatch Taken
  | [] => .ok taken
  | (key, value) :: rest =>
    match specs.find? fun spec => spec.name == key with
    | none => decodeFields inside specs taken rest
    | some spec =>
      if (entryValue? key taken).isSome then .error (.duplicateField key)
      else if spec.nullable ∧ value.isNull then
        decodeFields inside specs (taken ++ [(key, .absent)]) rest
      else do
        let read ← decodeValue inside spec.kind value
        decodeFields inside specs (taken ++ [(key, read)]) rest

/-- Decodes the items of a record written as a list of `length` items, from a place on. -/
def decodeItems (inside : Bool) (shape : Shape) (length place : Nat) (specs : List FieldSpec) :
    List Json → Except Mismatch Taken
  | [] =>
    match specs.findIdx? FieldSpec.required with
    | some distance => .error (shape.tooShort (place + distance))
    | none => .ok []
  | item :: rest =>
    match specs with
    | [] => .error (shape.tooLong inside length)
    | spec :: specs =>
      if spec.nullable ∧ item.isNull then do
        let taken ← decodeItems inside shape length (place + 1) specs rest
        .ok ((spec.name, .absent) :: taken)
      else do
        let read ← decodeValue inside spec.kind item
        let taken ← decodeItems inside shape length (place + 1) specs rest
        .ok ((spec.name, read) :: taken)

end

def Indent.ofJson : Json → Except Mismatch Indent
  | .number (.integer value) =>
    if 0 ≤ value ∧ value < 256 then .ok ⟨value.toNat⟩
    else .error (.wrongValue (.number (.integer value)) "u8")
  | value => .error (.wrongType (found value) "u8")

def TypeExpr.ofJson (value : Json) : Except Mismatch TypeExpr := do
  let read ← decodeValue false .type value
  .ok (read.asType?.getD default)

def TypeExpr.listOfJson (value : Json) : Except Mismatch (List TypeExpr) := do
  let read ← decodeValue false (.list .type) value
  .ok ((read.asList?.getD []).filterMap FieldValue.asType?)

def Property.ofJson (value : Json) : Except Mismatch Property := do
  let read ← decodeValue false .property value
  .ok (read.asProperty?.getD ⟨"", false, default, none⟩)

def Property.listOfJson (value : Json) : Except Mismatch (List Property) := do
  let read ← decodeValue false (.list .property) value
  .ok ((read.asList?.getD []).filterMap FieldValue.asProperty?)

def Statement.ofJson (value : Json) : Except Mismatch Statement := do
  let read ← decodeValue false .statement value
  .ok (read.asStatement?.getD (.verbatim ""))

def Statement.listOfJson (value : Json) : Except Mismatch (List Statement) := do
  let read ← decodeValue false (.list .statement) value
  .ok ((read.asList?.getD []).filterMap FieldValue.asStatement?)

/-- A namespace from JSON, without the field that tells its kind. -/
def Namespace.ofJson (value : Json) : Except Mismatch Namespace := do
  let shape := StatementKind.namespaceDecl.shape
  match value with
  | .object fields => do
    let taken ← decodeFields false shape.fields [] fields
    let taken ← taken.complete shape.fields
    .ok (Namespace.build taken)
  | .array items => do
    let taken ← decodeItems false shape items.length 0 shape.fields items
    .ok (Namespace.build taken)
  | value => .error (.wrongType (found value) shape.title)

/-- The fields of a statement in a text, its tag checked when it is met. -/
def checkedFields (tagSeen : Bool) :
    List (String × Reading) → Except ReadError (List (String × Json))
  | [] => .ok []
  | (key, value) :: rest => do
    let value ← if key = tagName then checkedTag tagSeen value else value.toJson
    let rest ← checkedFields (tagSeen || key = tagName) rest
    .ok ((key, value) :: rest)
where
  /-- A tag in a text; a scalar is checked, and anything else is no tag at all. -/
  checkedTag (tagSeen : Bool) (value : Reading) : Except ReadError Json := do
    if tagSeen then .error (.mismatch (.duplicateField tagName))
    match value with
    | .string text => do
      let _ ← (decodeTag false StatementKind.all StatementKind.name (.string text)).mapError
        .mismatch
      .ok (.string text)
    | value => .error (value.unexpected "variant identifier")

def Statement.ofReading (reading : Reading) : Except ReadError Statement := do
  let value ← match reading with
    | .object fields stop => do
      let fields ← checkedFields false fields
      Reading.ending stop
      .ok (Json.object fields)
    | .array ((_, tag) :: items) stop => do
      let tag ← checkedFields.checkedTag false tag
      let items ← Reading.itemsToJson items
      Reading.ending stop
      .ok (.array (tag :: items))
    | reading => reading.toJson
  (Statement.ofJson value).mapError .mismatch

def Statement.allOfReadings :
    List (Option Json.Position × Reading) → Except ReadError (List Statement)
  | [] => .ok []
  | (_, item) :: rest => do
    let statement ← Statement.ofReading item
    let statements ← Statement.allOfReadings rest
    .ok (statement :: statements)

def Statement.listOfReading : Reading → Except ReadError (List Statement)
  | .array items stop => do
    let statements ← Statement.allOfReadings items
    Reading.ending stop
    .ok statements
  | reading => .error (reading.unexpected "a sequence")

/-- The statements in the fields of a tree, where `found` holds those met so far. -/
def Tree.takeStatements (taken : Option (List Statement)) :
    List (String × Reading) → Except ReadError (Option (List Statement))
  | [] => .ok taken
  | (key, value) :: rest =>
    if key = "statements" then
      if taken.isSome then .error (.mismatch (.duplicateField key))
      else do
        let statements ← Statement.listOfReading value
        Tree.takeStatements (some statements) rest
    else do
      let _ ← value.toJson
      Tree.takeStatements taken rest

/-- What may follow the only item of a tree written as a list: nothing. -/
def Tree.endOfItems (rest : List (Option Json.Position × Reading))
    (stop : Option Json.SyntaxError) : Except ReadError Unit :=
  match rest with
  | (some position, _) :: _ => .error (.malformed ⟨.trailingCharacters, position⟩)
  | (none, _) :: _ => .error (.mismatch (Tree.shape.tooLong false (rest.length + 1)))
  | [] =>
    match stop with
    | some ⟨.expectedCommaOrBracket, position⟩ =>
      .error (.malformed ⟨.trailingCharacters, position⟩)
    | some ⟨.endInValue, position⟩ => .error (.malformed ⟨.trailingCharacters, position⟩)
    | stop => Reading.ending stop

def Tree.ofReading : Reading → Except ReadError Tree
  | .object fields stop => do
    let statements ← Tree.takeStatements none fields
    Reading.ending stop
    .ok ⟨statements.getD []⟩
  | .array [] stop => do
    Reading.ending stop
    .ok ⟨[]⟩
  | .array ((_, first) :: rest) stop => do
    let statements ← Statement.listOfReading first
    Tree.endOfItems rest stop
    .ok ⟨statements⟩
  | reading => .error (reading.unexpected Tree.shape.title)

def Tree.ofJson (value : Json) : Except ReadError Tree := Tree.ofReading value.toReading

def Tree.parse (text : String) : Except ReadError Tree :=
  Json.decodeText (fun key => key ≠ "statements") Tree.ofReading text

end TypedRoutes.Declaration
