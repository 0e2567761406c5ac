import TypedRoutes.Route.Resolution
import TypedRoutes.Route.Table

/-!
What a declaration tree gets: every path with a record gets a descriptor and, where an alias is
configured, the type of its handler. Declarations are only added; every path that stays as it is is
told of.
-/

set_option autoImplicit false
set_option relaxedAutoImplicit false

namespace TypedRoutes.Route

open Declaration (Import Interface Namespace Property Statement Tree TypeAlias TypeExpr)
open Options (Config)

/-- The descriptor of a path: the data of its operation as string literals, then one member per
category, optional where it is the placeholder. -/
def descriptor (container : String) (config : Config) (path : Namespace) (record : Record) :
    Interface :=
  let literals := record.fields.map fun field =>
    { name := field.1, type := .stringLiteral field.2 : Property }
  let categories := Category.all.map fun category =>
    let type := resolve container path config.placeholder category
    { name := category.member, optional := type == placeholderType config.placeholder,
      type := type : Property }
  { name := Options.descriptorName, members := literals ++ categories }

def handlerAlias (container : String) (config : Config) (path : Namespace) (name : String) :
    TypeAlias :=
  { name := name,
    type := .generic Options.handlerName (handlerArgs container path config.placeholder) }

/-- The declarations that a path gets, or why it gets none. -/
def additions (container : String) (table : Table) (config : Config) (path : Namespace) :
    Except Diagnostic (List Statement) :=
  match path.body with
  | none => .error (.bodyMissing container path.name)
  | some [] => .error (.bodyEmpty container path.name)
  | some (_ :: _) =>
    match table.lookup? path.name with
    | none => .error (.recordMissing container path.name)
    | some record =>
      .ok (.interfaceDecl (descriptor container config path record) ::
        (config.routeTypeName.map fun name =>
          Statement.aliasDecl (handlerAlias container config path name)).toList)

/-- A path with its additions behind its other declarations. -/
def appendToPath (container : String) (table : Table) (config : Config) (path : Namespace) :
    Logged Namespace :=
  match additions container table config path with
  | .ok statements => ⟨{ path with body := path.body.map fun body => body ++ statements }, []⟩
  | .error reason => ⟨path, [reason]⟩

/-- A statement of a container, with its additions if it is a path. -/
def appendToMember (container : String) (table : Table) (config : Config) :
    Statement → Logged Statement
  | .namespaceDecl path =>
    (appendToPath container table config path).andThen fun path => ⟨.namespaceDecl path, []⟩
  | statement => ⟨statement, []⟩

def appendToContainer (table : Table) (config : Config) (container : Namespace) :
    Logged Namespace :=
  ⟨{ container with
      body := container.body.map fun body =>
        body.map fun statement => (appendToMember container.name table config statement).value },
    container.statements.flatMap fun statement =>
      (appendToMember container.name table config statement).log⟩

def isContainer : Statement → Bool
  | .namespaceDecl decl => decl.name == containerName
  | _ => false

/-- A top-level statement, with the additions of its paths if it is a container of them. -/
def appendToStatement (table : Table) (config : Config) : Statement → Logged Statement
  | .namespaceDecl decl =>
    if decl.name = containerName then
      (appendToContainer table config decl).andThen fun decl => ⟨.namespaceDecl decl, []⟩
    else ⟨.namespaceDecl decl, []⟩
  | statement => ⟨statement, []⟩

def handlerModule : String := "express"

def handlerImport : Import := { source := handlerModule, named := [Options.handlerName] }

/-- The import that an alias needs; none without an alias. -/
def aliasImports (config : Config) : List Statement :=
  match config.routeTypeName with
  | some _ => [.importDecl handlerImport]
  | none => []

/-- What decides on additions: the configuration and the table of operations. -/
structure Transformer where
  config : Config
  table : Table

def Transformer.transform (transformer : Transformer) (tree : Tree) : Logged Tree :=
  let extend := appendToStatement transformer.table transformer.config
  ⟨⟨aliasImports transformer.config ++
      tree.statements.map fun statement => (extend statement).value⟩,
    (tree.statements.flatMap fun statement => (extend statement).log) ++
      (if tree.statements.any isContainer then [] else [.containerMissing])⟩

end TypedRoutes.Route
