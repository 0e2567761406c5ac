import TypedRoutes.Proofs.Report.Disabled
import TypedRoutes.Proofs.Report.Restored
import TypedRoutes.Proofs.Route.Findings

/-!
A check and what is generated after it. The check runs the first two phases on a context without a
tree, and says what generating will say before it comes to the tree; the tree then adds no errors.
-/

set_option autoImplicit false
set_option relaxedAutoImplicit false

namespace TypedRoutes

open Declaration (Tree)
open OpenApi (Schema)
open Options (PluginOption)
open Route (Diagnostic Inputs Logged Table Transformer)

namespace Route

private theorem map_size_eq (transformer : Option Transformer) :
    transformer.map (fun transformer => transformer.table.size) =
      (transformer.map fun transformer => transformer.config).map fun _ =>
        (match transformer with
          | some transformer => transformer.table.records
          | none => []).length := by
  cases transformer with
  | none => rfl
  | some transformer =>
    have listed : transformer.table.records.length = transformer.table.size := List.length_map _
    exact congrArg some listed.symm

theorem Plugin.log_transform (option : Option PluginOption) (inputs : Inputs) (tree : Tree) :
    (transform option inputs tree).log = (postProcess option inputs).log ++
      (extend (postProcess option inputs).value tree).log :=
  rfl

private theorem Plugin.phase_severity_of_mem_log_extend {transformer : Option Transformer}
    {tree : Tree} {finding : Diagnostic} (h : finding ∈ (extend transformer tree).log) :
    finding.phase = "rewrite" ∧ finding.severity ≠ .error := by
  cases transformer with
  | none => cases h
  | some transformer => exact phase_severity_of_mem_log_transform h

theorem Diagnostic.any_isError_eq_false_iff {findings : List Diagnostic} :
    findings.any Diagnostic.isError = false ↔ ∀ finding ∈ findings, finding.severity ≠ .error := by
  simp [Diagnostic.isError]

end Route

namespace Report

/--
Generating never fails, and a check of the same option and documents foretells it, whatever the tree
and the format are: its findings come first and only the last phase adds to them, without errors;
it lists as many operations as are counted, if it has a configuration, and none are counted if it
has none; and it is valid exactly if no error is found while generating.
-/
theorem check_previews_generate (option : PluginOption) (schemas : List Schema) (tree : Tree)
    (format : TreeFormat) (source : String) :
    ∃ generated checked, generate option schemas tree format = .ok generated ∧
      check option schemas source = .ok checked ∧
      (∃ later, generated.diagnostics = checked.diagnostics ++ later ∧
        ∀ finding ∈ later, finding.phase = "rewrite" ∧ finding.severity ≠ .error) ∧
      generated.operations = checked.config.map (fun _ => checked.operations.length) ∧
      (checked.isValid ↔ ∀ finding ∈ generated.diagnostics, finding.severity ≠ .error) := by
  let completed := Route.Plugin.preProcess schemas
  let hook := Route.Plugin.postProcess (some option) (Inputs.ofSchemas completed.value)
  let extended := Route.Plugin.extend hook.value tree
  have harmless : ∀ finding ∈ extended.log, finding.phase = "rewrite" ∧ finding.severity ≠ .error :=
    fun finding h => Route.Plugin.phase_severity_of_mem_log_extend h
  have findings : completed.log ++ (hook.log ++ extended.log) =
      (completed.log ++ hook.log) ++ extended.log := (List.append_assoc ..).symm
  refine ⟨_, _, generate_eq option schemas tree format, check_eq option schemas source,
    ⟨extended.log, findings, harmless⟩, Route.map_size_eq hook.value, ?_⟩
  have valid : (!(completed.log ++ hook.log).any Diagnostic.isError) = true ↔
      ∀ finding ∈ completed.log ++ hook.log, finding.severity ≠ .error := by
    rw [Bool.not_eq_true', Diagnostic.any_isError_eq_false_iff]
  refine valid.trans ?_
  show _ ↔ ∀ finding ∈ completed.log ++ (hook.log ++ extended.log), finding.severity ≠ .error
  rw [findings]
  have later : ∀ finding ∈ extended.log, finding.severity ≠ .error :=
    fun finding h => (harmless finding h).2
  exact (and_iff_left later).symm.trans List.forall_mem_append.symm

end Report

end TypedRoutes
