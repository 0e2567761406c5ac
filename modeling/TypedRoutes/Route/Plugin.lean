import TypedRoutes.Route.Completion
import TypedRoutes.Route.Appending

/-!
The two hooks of a host: before it generates declarations, its documents are completed; afterwards
its declaration tree gets the route declarations.
-/

set_option autoImplicit false
set_option relaxedAutoImplicit false

namespace TypedRoutes.Route

open Declaration (Tree)
open OpenApi (Schema)
open Options (Config PluginOption)

namespace Plugin

def name : String := "routegen-codegen"

def version : String := "0.3.0"

def description : String :=
  "Route descriptor synthesis over OpenAPI-derived declaration trees"

/-- The findings about an option: its name for the alias may be rejected. -/
def optionFindings : Option PluginOption → List Diagnostic
  | none => []
  | some option =>
    match option.check with
    | .ok () => []
    | .error error => [.nameRejected error]

def preProcess (schemas : List Schema) : Logged (List Schema) := completeSchemas schemas

/-- The second hook: what decides on the additions to the tree; nothing if the option switches
the generator off. -/
def postProcess (option : Option PluginOption) (inputs : Inputs) :
    Logged (Option Transformer) :=
  Logged.andThen ⟨(), optionFindings option⟩ fun () =>
    match Config.ofOption? option with
    | none => ⟨none, [.disabled]⟩
    | some config =>
      (Table.ofInputs config.selection inputs).andThen fun table => ⟨some ⟨config, table⟩, []⟩

/-- Adds to a tree, or leaves it as it is if the option switches the generator off. -/
def transform (option : Option PluginOption) (inputs : Inputs) (tree : Tree) : Logged Tree :=
  (postProcess option inputs).andThen fun transformer =>
    match transformer with
    | some transformer => transformer.transform tree
    | none => ⟨tree, []⟩

end Plugin

end TypedRoutes.Route
