import TypedRoutes.Declaration.Tree

/-!
The six kinds of type that a route descriptor carries, and the declarations that they are looked
up under.
-/

set_option autoImplicit false
set_option relaxedAutoImplicit false

namespace TypedRoutes.Route

open Declaration (Statement)

/-- The kinds of type of a route. The success responses are a part of the responses. -/
inductive Category where
  | pathParameters
  | responses
  | successResponses
  | requestBody
  | queryParameters
  | headerParameters
  deriving DecidableEq, Repr

namespace Category

def all : List Category :=
  [.pathParameters, .responses, .successResponses, .requestBody, .queryParameters,
    .headerParameters]

def name : Category → String
  | .pathParameters => "PathParameters"
  | .responses => "Responses"
  | .successResponses => "SuccessResponses"
  | .requestBody => "RequestBody"
  | .queryParameters => "QueryParameters"
  | .headerParameters => "HeaderParameters"

def lookupName : Category → String
  | .successResponses => Category.responses.name
  | category => category.name

def member : Category → String
  | .pathParameters => "pathParams"
  | .responses => "responses"
  | .successResponses => "successResponses"
  | .requestBody => "requestBody"
  | .queryParameters => "queryParams"
  | .headerParameters => "headers"

def isResponse : Category → Bool
  | .responses => true
  | .successResponses => true
  | _ => false

end Category

/-- The first namespace, interface or type alias with a name. -/
def findDeclaration? (name : String) (scope : List Statement) : Option Statement :=
  scope.find? fun statement => statement.declaredName? == some name

/-- The interfaces and type aliases directly in the body of a namespace. -/
def namedTypes : Statement → List Statement
  | .namespaceDecl decl => decl.statements.filter Statement.isNamedType
  | _ => []

end TypedRoutes.Route
