import TypedRoutes.Pipeline

/-!
A full run and the two hooks of a host. The phases hand documents, transformer and tree on through a
context, the hooks through their results; on every tree both come to the same documents, the same
tree and the same findings in the same order.
-/

set_option autoImplicit false
set_option relaxedAutoImplicit false

namespace TypedRoutes

open Declaration (Tree)
open OpenApi (Schema)
open Options (Config PluginOption)
open Route (Inputs Logged Transformer)

namespace Route.Plugin

/-- What a tree becomes under a transformer, or under none if the generator is switched off. -/
def extend (transformer : Option Transformer) (tree : Tree) : Logged Tree :=
  match transformer with
  | some transformer => transformer.transform tree
  | none => ⟨tree, []⟩

private theorem config_postProcess (option : Option PluginOption) (inputs : Inputs) :
    (postProcess option inputs).value.map Transformer.config = Config.ofOption? option := by
  unfold postProcess Logged.andThen
  cases Config.ofOption? option with
  | none => rfl
  | some config => rfl

end Route.Plugin

namespace Pipeline

private theorem run_cons {context next : Context} {phase : Phase} (phases : List Phase)
    (ran : phase.run context = .ok next) : run context (phase :: phases) = run next phases := by
  rw [run, ran]

theorem Phase.run_append {context : Context} {tree : Tree} (attached : context.tree = some tree) :
    Phase.append.run context = .ok { context with
      tree := some (Route.Plugin.extend context.transformer tree).value
      diagnostics :=
        context.diagnostics ++ (Route.Plugin.extend context.transformer tree).log } := by
  obtain ⟨option, schemas, _, transformer, diagnostics⟩ := context
  obtain rfl := attached
  cases transformer with
  | none => simp [Phase.run, Route.Plugin.extend]
  | some transformer => rfl

/--
A full run on a tree never fails. It completes the documents, keeps the transformer of the second
hook, and adds the findings of both hooks behind those that were there.
-/
theorem run_all_of_tree {context : Context} {tree : Tree} (attached : context.tree = some tree) :
    let completed := Route.Plugin.preProcess context.schemas
    let inputs := Inputs.ofSchemas completed.value
    let extended := Route.Plugin.transform context.option inputs tree
    run context Phase.all = .ok
      { option := context.option
        schemas := completed.value
        tree := some extended.value
        transformer := (Route.Plugin.postProcess context.option inputs).value
        diagnostics := context.diagnostics ++ completed.log ++ extended.log } := by
  intro completed inputs extended
  let hook := Route.Plugin.postProcess context.option inputs
  let completedContext : Context := { context with
    schemas := completed.value, diagnostics := context.diagnostics ++ completed.log }
  let decidedContext : Context := { completedContext with
    transformer := hook.value, diagnostics := completedContext.diagnostics ++ hook.log }
  have first : Phase.preProcess.run context = .ok completedContext := rfl
  have second : Phase.metadata.run completedContext = .ok decidedContext := rfl
  have third := @Phase.run_append decidedContext tree attached
  have findings : extended.log = hook.log ++ (Route.Plugin.extend hook.value tree).log := rfl
  rw [Phase.all, run_cons _ first, run_cons _ second, run_cons _ third, run, findings,
    ← List.append_assoc]
  rfl

/--
A full run from a new context with a tree succeeds, and comes to the documents, the tree and the
findings of the two hooks: the first completes the documents, and the second extends the tree by
what it finds in the completed ones. A transformer is left exactly if the option resolves to a
configuration.
-/
theorem run_all_eq_hooks (option : Option PluginOption) (schemas : List Schema) (tree : Tree) :
    let completed := Route.Plugin.preProcess schemas
    let extended := Route.Plugin.transform option (Inputs.ofSchemas completed.value) tree
    ∃ result, run { option := option, schemas := schemas, tree := some tree } Phase.all =
        .ok result ∧
      result.schemas = completed.value ∧
      result.tree = some extended.value ∧
      result.diagnostics = completed.log ++ extended.log ∧
      (result.transformer.isSome ↔ (Config.ofOption? option).isSome) ∧
      result.transformer.map Transformer.config = Config.ofOption? option := by
  intro completed extended
  have ran := @run_all_of_tree { option := option, schemas := schemas, tree := some tree } tree rfl
  have config := Route.Plugin.config_postProcess option (Inputs.ofSchemas completed.value)
  refine ⟨_, ran, rfl, rfl, rfl, ?_, config⟩
  rw [← config, Option.isSome_map]

end Pipeline

end TypedRoutes
