import TypedRoutes.Declaration.Type

/-!
Declaration trees: the statements of a declaration file.
-/

set_option autoImplicit false
set_option relaxedAutoImplicit false

namespace TypedRoutes.Declaration

structure Interface where
  name : String
  exported : Bool := false
  members : List Property := []
  deriving BEq, Repr

/-- A type alias; the comment stands at its line's end. -/
structure TypeAlias where
  name : String
  exported : Bool := false
  type : TypeExpr
  comment : Option String := none
  deriving BEq, Repr

/-- An import of a module: its default export, some of its named exports, or its effects only. -/
structure Import where
  source : String
  default : Option String := none
  named : List String := []
  typeOnly : Bool := false
  deriving BEq, DecidableEq, Repr

mutual

/-- A statement of a file or of a namespace body; other constructs are carried along as text. -/
inductive Statement where
  | importDecl (decl : Import)
  | namespaceDecl (decl : Namespace)
  | interfaceDecl (decl : Interface)
  | aliasDecl (decl : TypeAlias)
  | verbatim (text : String)

/-- A namespace; one without a body is a shorthand declaration. -/
structure Namespace where
  name : String
  declared : Bool := false
  exported : Bool := false
  body : Option (List Statement) := some []

end

deriving instance BEq, Repr for Statement, Namespace

structure Tree where
  statements : List Statement := []
  deriving BEq, Repr

namespace Statement

def declaredName? : Statement → Option String
  | .namespaceDecl decl => some decl.name
  | .interfaceDecl decl => some decl.name
  | .aliasDecl decl => some decl.name
  | .importDecl _ => none
  | .verbatim _ => none

def isNamedType : Statement → Bool
  | .interfaceDecl _ => true
  | .aliasDecl _ => true
  | _ => false

def asNamespace? : Statement → Option Namespace
  | .namespaceDecl decl => some decl
  | _ => none

end Statement

namespace Namespace

/-- The statements of the body; none without a body. -/
def statements (decl : Namespace) : List Statement := decl.body.getD []

/-- The namespace with a statement added, in a new body if it has none. -/
def append (decl : Namespace) (statement : Statement) : Namespace :=
  { decl with body := some (decl.statements ++ [statement]) }

end Namespace

def Interface.append (decl : Interface) (member : Property) : Interface :=
  { decl with members := decl.members ++ [member] }

end TypedRoutes.Declaration
