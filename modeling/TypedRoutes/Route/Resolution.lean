import TypedRoutes.Options.Basic
import TypedRoutes.Route.Category

/-!
The types of a path, as references from the container of the paths. What a path does not declare
is the placeholder.
-/

set_option autoImplicit false
set_option relaxedAutoImplicit false

namespace TypedRoutes.Route

open Declaration (Namespace Property TypeExpr)
open Options (Placeholder)

/-- Whether a response is named after a status code that tells of success: `$200` to `$299`. -/
def isSuccessName (name : String) : Bool :=
  match name.toList with
  | ['$', '2', tens, units] => tens.isDigit && units.isDigit
  | _ => false

def placeholderType : Placeholder → TypeExpr
  | .any => .keyword .any
  | .unknown => .keyword .unknown

/-- The names of the responses that count for a category, in source order. -/
def responseNames (category : Category) (declaration : Declaration.Statement) : List String :=
  ((namedTypes declaration).filterMap Declaration.Statement.declaredName?).filter fun name =>
    category != .successResponses || isSuccessName name

def reference (container : String) (path : Namespace) (tail : List String) : TypeExpr :=
  TypeExpr.named (container :: path.name :: tail)

def resolve (container : String) (path : Namespace) (placeholder : Placeholder)
    (category : Category) : TypeExpr :=
  match findDeclaration? category.lookupName path.statements with
  | none => placeholderType placeholder
  | some declaration =>
    if category.isResponse then
      match responseNames category declaration with
      | [] => placeholderType placeholder
      | names =>
        .union (names.map fun name => reference container path [category.lookupName, name])
    else reference container path [category.lookupName]

/-- The categories that the handler of a route is typed with, in order. -/
def handlerCategories : List Category :=
  [.pathParameters, .responses, .requestBody, .queryParameters]

def handlerArgs (container : String) (path : Namespace) (placeholder : Placeholder) :
    List TypeExpr :=
  handlerCategories.map (resolve container path placeholder)

end TypedRoutes.Route
