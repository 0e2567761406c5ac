import TypedRoutes.Declaration.Tree
import TypedRoutes.Json.Printer

/-!
The JSON form of declaration trees. A type and a statement carry their kind in the field `kind`;
absent comments, absent default imports and empty type arguments are left out.
-/

set_option autoImplicit false
set_option relaxedAutoImplicit false

namespace TypedRoutes.Declaration

def textsToJson (texts : List String) : Json := .array (texts.map .string)

def optionalField (key : String) : Option String → List (String × Json)
  | none => []
  | some text => [(key, .string text)]

def kindField (kind : String) : String × Json := ("kind", .string kind)

mutual

def TypeExpr.toJson : TypeExpr → Json
  | .reference path [] => .object [kindField "reference", ("path", textsToJson path)]
  | .reference path (arg :: args) =>
    .object [kindField "reference", ("path", textsToJson path),
      ("args", .array (TypeExpr.listToJson (arg :: args)))]
  | .union members =>
    .object [kindField "union", ("members", .array (TypeExpr.listToJson members))]
  | .keyword word => .object [kindField "keyword", ("keyword", .string word.word)]
  | .stringLiteral value => .object [kindField "stringLiteral", ("value", .string value)]
  | .array element => .object [kindField "array", ("element", element.toJson)]
  | .object members =>
    .object [kindField "object", ("members", .array (Property.listToJson members))]
  | .raw text => .object [kindField "raw", ("text", .string text)]

def TypeExpr.listToJson : List TypeExpr → List Json
  | [] => []
  | type :: rest => type.toJson :: TypeExpr.listToJson rest

def Property.toJson : Property → Json
  | ⟨name, optional, type, comment⟩ =>
    .object ([("name", .string name), ("optional", .bool optional), ("type", type.toJson)] ++
      optionalField "comment" comment)

def Property.listToJson : List Property → List Json
  | [] => []
  | property :: rest => property.toJson :: Property.listToJson rest

end

def Import.fields (decl : Import) : List (String × Json) :=
  ("from", .string decl.source) ::
    (optionalField "default" decl.default ++
      [("named", textsToJson decl.named), ("typeOnly", .bool decl.typeOnly)])

def Import.toJson (decl : Import) : Json := .object decl.fields

mutual

def Statement.toJson : Statement → Json
  | .importDecl decl => .object (kindField "import" :: decl.fields)
  | .namespaceDecl decl => .object (kindField "namespace" :: decl.fields)
  | .interfaceDecl decl =>
    .object [kindField "interface", ("name", .string decl.name), ("exported", .bool decl.exported),
      ("members", .array (Property.listToJson decl.members))]
  | .aliasDecl decl =>
    .object ([kindField "typeAlias", ("name", .string decl.name),
      ("exported", .bool decl.exported), ("type", decl.type.toJson)] ++
      optionalField "comment" decl.comment)
  | .verbatim text => .object [kindField "verbatim", ("text", .string text)]

def Namespace.fields : Namespace → List (String × Json)
  | ⟨name, declared, exported, none⟩ =>
    [("name", .string name), ("declare", .bool declared), ("exported", .bool exported),
      ("body", .null)]
  | ⟨name, declared, exported, some body⟩ =>
    [("name", .string name), ("declare", .bool declared), ("exported", .bool exported),
      ("body", .array (Statement.listToJson body))]

def Statement.listToJson : List Statement → List Json
  | [] => []
  | statement :: rest => statement.toJson :: Statement.listToJson rest

end

def Namespace.toJson (decl : Namespace) : Json := .object decl.fields

def Tree.toJson (tree : Tree) : Json :=
  .object [("statements", .array (Statement.listToJson tree.statements))]

end TypedRoutes.Declaration
