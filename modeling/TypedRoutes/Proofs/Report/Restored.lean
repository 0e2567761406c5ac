import TypedRoutes.Proofs.Declaration.Parsing
import TypedRoutes.Proofs.Pipeline.Hooks
import TypedRoutes.Report.Operations

/-!
Generated trees that are read back. A tree is restored from its JSON text, so a tree that was
generated as JSON is printed, once it is read, as the declarations that would have been generated.
-/

set_option autoImplicit false
set_option relaxedAutoImplicit false

namespace TypedRoutes.Report

open Declaration (Tree)
open OpenApi (Schema)
open Options (PluginOption)
open Pipeline (Phase)
open Route (Inputs)

/-- The tree that is generated from a tree and documents. -/
def generatedTree (option : PluginOption) (schemas : List Schema) (tree : Tree) : Tree :=
  (Route.Plugin.transform (some option)
    (.ofSchemas (Route.Plugin.preProcess schemas).value) tree).value

/-- Generating never fails, and the tree that it writes does not depend on the format. -/
theorem generate_eq (option : PluginOption) (schemas : List Schema) (tree : Tree)
    (format : TreeFormat) :
    let completed := Route.Plugin.preProcess schemas
    let inputs := Inputs.ofSchemas completed.value
    generate option schemas tree format = .ok
      { content := format.write (generatedTree option schemas tree)
        diagnostics := completed.log ++ (Route.Plugin.transform (some option) inputs tree).log
        operations := (Route.Plugin.postProcess (some option) inputs).value.map
          fun transformer => transformer.table.size } := by
  intro completed inputs
  have ran := @Pipeline.run_all_of_tree
    { option := some option, schemas := schemas, tree := some tree } tree rfl
  rw [generate, ran]
  rfl

/--
A tree whose JSON form is nested less deeply than the limit is restored from its pretty and from its
compact text. So whatever is generated from an option, documents and a tree, reading the JSON text
and printing the tree gives the declarations that are generated, within that limit.
-/
theorem tree_restored_from_text :
    (∀ tree : Tree, tree.toJson.depth < Json.nestingLimit →
      Tree.parse tree.toJson.pretty = .ok tree ∧ Tree.parse tree.toJson.compact = .ok tree) ∧
    ∀ (option : PluginOption) (schemas : List Schema) (tree : Tree), ∃ json declarations,
      generate option schemas tree .json = .ok json ∧
      generate option schemas tree .declarations = .ok declarations ∧
      json.content = (generatedTree option schemas tree).toJson.pretty ∧
      ((generatedTree option schemas tree).toJson.depth < Json.nestingLimit →
        ∃ read, Tree.parse json.content = .ok read ∧ read.print = declarations.content) := by
  refine ⟨fun tree deep => Tree.parse_text deep, fun option schemas tree => ?_⟩
  have generated := generate_eq option schemas tree
  refine ⟨_, _, generated .json, generated .declarations, rfl, fun deep => ?_⟩
  exact ⟨generatedTree option schemas tree, (Tree.parse_text deep).1, rfl⟩

/-- A namespace without a body, one with an empty body, and one that stands for an operation. -/
def restoredTree : Tree :=
  ⟨[.namespaceDecl { name := "Shorthand", body := none }, .namespaceDecl { name := "Empty" },
    .namespaceDecl { name := "Paths", body := some [.namespaceDecl
      { name := "FindPets", body := some [.interfaceDecl { name := "QueryParameters" },
        .aliasDecl
          { name := "Pet", type := .array (.union [.keyword .null, .named ["Cat"]]) }] }] }]⟩

def restoredSchemas : List Schema :=
  [⟨"pets.json", ⟨.empty, .ofList [("/pets", ⟨[.operation .get (.withId "findPets")]⟩)]⟩⟩]

theorem tree_restored_from_text_pets :
    Tree.parse restoredTree.toJson.pretty = .ok restoredTree ∧
    ∃ json declarations read,
      generate (.toggle true) restoredSchemas restoredTree .json = .ok json ∧
      generate (.toggle true) restoredSchemas restoredTree .declarations = .ok declarations ∧
      Tree.parse json.content = .ok read ∧ read.print = declarations.content := by
  obtain ⟨texts, generated⟩ := tree_restored_from_text
  obtain ⟨json, declarations, first, second, -, restored⟩ :=
    generated (.toggle true) restoredSchemas restoredTree
  obtain ⟨read, parsed, printed⟩ := restored (by decide +kernel)
  exact ⟨(texts restoredTree (by decide)).1, json, declarations, read, first, second, parsed,
    printed⟩

end TypedRoutes.Report
