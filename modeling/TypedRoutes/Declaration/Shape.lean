import TypedRoutes.Declaration.Tree
import TypedRoutes.Json.Reading

/-!
The records of the JSON form of declaration trees: which fields each has, what they hold, and
which of them may be left out. A record is written as an object, or as an array of its fields in
the order given here.
-/

set_option autoImplicit false
set_option relaxedAutoImplicit false

namespace TypedRoutes.Declaration

inductive FieldKind where
  | text
  | flag
  | keyword
  | type
  | property
  | statement
  | list (item : FieldKind)
  deriving DecidableEq, Repr

def FieldKind.expected : FieldKind → String
  | .text => "a string"
  | .flag => "a boolean"
  | .keyword => "string or map"
  | .type => "internally tagged enum TypeExpr"
  | .property => "struct PropertySignature"
  | .statement => "internally tagged enum Statement"
  | .list _ => "a sequence"

inductive FieldValue where
  | absent
  | text (value : String)
  | flag (value : Bool)
  | keyword (value : Keyword)
  | type (value : TypeExpr)
  | property (value : Property)
  | statement (value : Statement)
  | list (values : List FieldValue)

namespace FieldValue

def asText? : FieldValue → Option String
  | .text value => some value
  | _ => none

def asFlag? : FieldValue → Option Bool
  | .flag value => some value
  | _ => none

def asKeyword? : FieldValue → Option Keyword
  | .keyword value => some value
  | _ => none

def asType? : FieldValue → Option TypeExpr
  | .type value => some value
  | _ => none

def asProperty? : FieldValue → Option Property
  | .property value => some value
  | _ => none

def asStatement? : FieldValue → Option Statement
  | .statement value => some value
  | _ => none

def asList? : FieldValue → Option (List FieldValue)
  | .list values => some values
  | _ => none

end FieldValue

/-- A field of a record: whether it must be there, and whether it may be null for no value. -/
structure FieldSpec where
  name : String
  kind : FieldKind
  required : Bool := false
  nullable : Bool := false

/-- A record: how messages call it, and its fields in order. -/
structure Shape where
  title : String
  fields : List FieldSpec

def mustHave (name : String) (kind : FieldKind) : FieldSpec :=
  { name := name, kind := kind, required := true }

def mayHave (name : String) (kind : FieldKind) : FieldSpec := { name := name, kind := kind }

/-- A field that may be left out or null. -/
def mayLack (name : String) (kind : FieldKind) : FieldSpec :=
  { name := name, kind := kind, nullable := true }

inductive TypeKind where
  | reference
  | union
  | keyword
  | stringLiteral
  | array
  | object
  | raw
  deriving DecidableEq, Repr

namespace TypeKind

def all : List TypeKind := [.reference, .union, .keyword, .stringLiteral, .array, .object, .raw]

def name : TypeKind → String
  | .reference => "reference"
  | .union => "union"
  | .keyword => "keyword"
  | .stringLiteral => "stringLiteral"
  | .array => "array"
  | .object => "object"
  | .raw => "raw"

def shape : TypeKind → Shape
  | .reference =>
    ⟨"struct variant TypeExpr::Reference",
      [mustHave "path" (.list .text), mayHave "args" (.list .type)]⟩
  | .union => ⟨"struct variant TypeExpr::Union", [mustHave "members" (.list .type)]⟩
  | .keyword => ⟨"struct variant TypeExpr::Keyword", [mustHave "keyword" .keyword]⟩
  | .stringLiteral => ⟨"struct variant TypeExpr::StringLiteral", [mustHave "value" .text]⟩
  | .array => ⟨"struct variant TypeExpr::Array", [mustHave "element" .type]⟩
  | .object => ⟨"struct variant TypeExpr::Object", [mayHave "members" (.list .property)]⟩
  | .raw => ⟨"struct variant TypeExpr::Raw", [mustHave "text" .text]⟩

end TypeKind

inductive StatementKind where
  | importDecl
  | namespaceDecl
  | interfaceDecl
  | aliasDecl
  | verbatim
  deriving DecidableEq, Repr

namespace StatementKind

def all : List StatementKind := [.importDecl, .namespaceDecl, .interfaceDecl, .aliasDecl, .verbatim]

def name : StatementKind → String
  | .importDecl => "import"
  | .namespaceDecl => "namespace"
  | .interfaceDecl => "interface"
  | .aliasDecl => "typeAlias"
  | .verbatim => "verbatim"

def shape : StatementKind → Shape
  | .importDecl =>
    ⟨"struct ImportDecl", [mustHave "from" .text, mayLack "default" .text,
      mayHave "named" (.list .text), mayHave "typeOnly" .flag]⟩
  | .namespaceDecl =>
    ⟨"struct NamespaceDecl", [mustHave "name" .text, mayHave "declare" .flag,
      mayHave "exported" .flag, mayLack "body" (.list .statement)]⟩
  | .interfaceDecl =>
    ⟨"struct InterfaceDecl", [mustHave "name" .text, mayHave "exported" .flag,
      mayHave "members" (.list .property)]⟩
  | .aliasDecl =>
    ⟨"struct TypeAliasDecl", [mustHave "name" .text, mayHave "exported" .flag,
      mustHave "type" .type, mayLack "comment" .text]⟩
  | .verbatim => ⟨"struct Verbatim", [mustHave "text" .text]⟩

end StatementKind

def Property.shape : Shape :=
  ⟨"struct PropertySignature", [mustHave "name" .text, mayHave "optional" .flag,
    mustHave "type" .type, mayLack "comment" .text]⟩

def Tree.shape : Shape := ⟨"struct SourceTree", [mayHave "statements" (.list .statement)]⟩

/-- The fields of a record that have been read, in the order read. -/
abbrev Taken := List (String × FieldValue)

namespace Taken

def text? (taken : Taken) (name : String) : Option String :=
  (entryValue? name taken).bind FieldValue.asText?

def text (taken : Taken) (name : String) : String := (taken.text? name).getD ""

def flag (taken : Taken) (name : String) : Bool :=
  ((entryValue? name taken).bind FieldValue.asFlag?).getD false

def type (taken : Taken) (name : String) : TypeExpr :=
  ((entryValue? name taken).bind FieldValue.asType?).getD default

def keyword (taken : Taken) (name : String) : Keyword :=
  ((entryValue? name taken).bind FieldValue.asKeyword?).getD .never

def list? {α : Type} (taken : Taken) (name : String) (item : FieldValue → Option α) :
    Option (List α) :=
  ((entryValue? name taken).bind FieldValue.asList?).map fun values => values.filterMap item

/-- The list of a field; empty if the field is not there. -/
def list {α : Type} (taken : Taken) (name : String) (item : FieldValue → Option α) : List α :=
  (taken.list? name item).getD []

end Taken

def TypeKind.build (taken : Taken) : TypeKind → TypeExpr
  | .reference =>
    .reference (taken.list "path" FieldValue.asText?) (taken.list "args" FieldValue.asType?)
  | .union => .union (taken.list "members" FieldValue.asType?)
  | .keyword => .keyword (taken.keyword "keyword")
  | .stringLiteral => .stringLiteral (taken.text "value")
  | .array => .array (taken.type "element")
  | .object => .object (taken.list "members" FieldValue.asProperty?)
  | .raw => .raw (taken.text "text")

def Property.build (taken : Taken) : Property :=
  ⟨taken.text "name", taken.flag "optional", taken.type "type", taken.text? "comment"⟩

def Namespace.build (taken : Taken) : Namespace :=
  ⟨taken.text "name", taken.flag "declare", taken.flag "exported",
    taken.list? "body" FieldValue.asStatement?⟩

def StatementKind.build (taken : Taken) : StatementKind → Statement
  | .importDecl =>
    .importDecl ⟨taken.text "from", taken.text? "default", taken.list "named" FieldValue.asText?,
      taken.flag "typeOnly"⟩
  | .namespaceDecl => .namespaceDecl (Namespace.build taken)
  | .interfaceDecl =>
    .interfaceDecl ⟨taken.text "name", taken.flag "exported",
      taken.list "members" FieldValue.asProperty?⟩
  | .aliasDecl =>
    .aliasDecl ⟨taken.text "name", taken.flag "exported", taken.type "type",
      taken.text? "comment"⟩
  | .verbatim => .verbatim (taken.text "text")

end TypedRoutes.Declaration
