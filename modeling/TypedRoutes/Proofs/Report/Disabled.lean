import TypedRoutes.Proofs.Route.Tally
import TypedRoutes.Report.Operations

/-!
A generator that is switched off. It leaves every tree as it is and says so. The option is looked at
first, though, whether it switches the generator on or off: a rejected name for the alias is an
error all the same.
-/

set_option autoImplicit false
set_option relaxedAutoImplicit false

namespace TypedRoutes

open Declaration (Tree)
open OpenApi (Schema)
open Options (Config NameError PluginOption)
open Route (Diagnostic Inputs Logged)

namespace Route.Plugin

private theorem optionFindings_of_ok {option : Option PluginOption}
    (accepted : ∀ written, option = some written → written.check = .ok ()) :
    optionFindings option = [] := by
  cases option with
  | none => rfl
  | some written => simp only [optionFindings, accepted written rfl]

theorem optionFindings_of_error {written : PluginOption} {error : NameError}
    (rejected : written.check = .error error) :
    optionFindings (some written) = [.nameRejected error] := by
  simp only [optionFindings, rejected]

private theorem any_isError_optionFindings (written : PluginOption) :
    (optionFindings (some written)).any Diagnostic.isError = false ↔ written.check = .ok () := by
  cases h : written.check with
  | ok => simp [optionFindings, h]
  | error error => simp [optionFindings, h, Diagnostic.isError, Diagnostic.severity]

private theorem postProcess_of_off {option : Option PluginOption}
    (off : Config.ofOption? option = none) (inputs : Inputs) :
    postProcess option inputs = ⟨none, optionFindings option ++ [.disabled]⟩ := by
  simp [postProcess, Logged.andThen, off]

private theorem transform_of_off {option : Option PluginOption}
    (off : Config.ofOption? option = none) (inputs : Inputs) (tree : Tree) :
    transform option inputs tree = ⟨tree, optionFindings option ++ [.disabled]⟩ := by
  unfold transform
  rw [postProcess_of_off off]
  simp [Logged.andThen]

end Route.Plugin

private theorem Route.any_isError_completeSchemas (schemas : List Schema) :
    (completeSchemas schemas).log.any Diagnostic.isError = false := by
  refine List.any_eq_false.mpr fun finding h => ?_
  obtain ⟨operation, rfl⟩ := exists_of_mem_log_completeSchemas h
  exact Bool.false_ne_true

namespace Report

theorem check_eq (option : PluginOption) (schemas : List Schema) (source : String) :
    check option schemas source =
      let completed := Route.completeSchemas schemas
      let hook := Route.Plugin.postProcess (some option) (.ofSchemas completed.value)
      .ok ⟨source, hook.value.map fun transformer => transformer.config,
        match hook.value with
        | some transformer => transformer.table.records
        | none => [],
        completed.log ++ hook.log⟩ := by
  rfl

private theorem check_of_off {option : PluginOption} (off : Config.ofOption? (some option) = none)
    (schemas : List Schema) (source : String) :
    check option schemas source = .ok ⟨source, none, [], (Route.completeSchemas schemas).log ++
      (Route.Plugin.optionFindings (some option) ++ [.disabled])⟩ := by
  simp only [check_eq, Route.Plugin.postProcess_of_off off, Option.map_none]

/--
Whatever switches the generator off, a tree stays as it is. That it is off is the last finding, and
the only one unless the name that the option gives to the alias is rejected; then the error about
the name stands in front. A check has no configuration and no operations to show, and finds no
error exactly if the name is not rejected.
-/
theorem transform_disabled {option : Option PluginOption} (off : Config.ofOption? option = none)
    (inputs : Inputs) (tree : Tree) :
    (Route.Plugin.transform option inputs tree).value = tree ∧
      ((∀ written, option = some written → written.check = .ok ()) →
        (Route.Plugin.transform option inputs tree).log = [.disabled]) ∧
      (∀ written error, option = some written → written.check = .error error →
        (Route.Plugin.transform option inputs tree).log = [.nameRejected error, .disabled] ∧
        (Diagnostic.nameRejected error).severity = .error ∧
        (Diagnostic.nameRejected error).phase = "config" ∧
        (Diagnostic.nameRejected error).location? = some "routeTypeName") ∧
      Diagnostic.disabled.severity = .info ∧ Diagnostic.disabled.phase = "config" ∧
      Diagnostic.disabled.message = "plugin disabled by configuration" ∧
      ∀ written, option = some written → ∀ schemas source, ∃ checked,
        check written schemas source = .ok checked ∧
        checked.config = none ∧ checked.operations = [] ∧
        checked.diagnostics = (Route.completeSchemas schemas).log ++
          (Route.Plugin.transform option inputs tree).log ∧
        (checked.isValid ↔ written.check = .ok ()) := by
  rw [Route.Plugin.transform_of_off off]
  refine ⟨rfl, fun accepted => ?_, ?_, rfl, rfl, rfl, ?_⟩
  · rw [Route.Plugin.optionFindings_of_ok accepted]
    rfl
  · rintro written error rfl rejected
    rw [Route.Plugin.optionFindings_of_error rejected]
    exact ⟨rfl, rfl, rfl, rfl⟩
  · rintro written rfl schemas source
    refine ⟨_, check_of_off off schemas source, rfl, rfl, rfl, ?_⟩
    rw [← Route.Plugin.any_isError_optionFindings]
    simp [Checked.isValid, Route.any_isError_completeSchemas, Diagnostic.isError, Diagnostic.severity]

/-- Options that switch the generator off and name the alias. -/
def disabledOption (name : String) : PluginOption :=
  .options { enabled := some false, routeTypeName := some (.name name) }

theorem transform_disabled_handlers :
    ((Route.Plugin.transform (some (disabledOption "Handlers")) (.ofSchemas []) {}).log =
        [.disabled] ∧
      ∃ checked, check (disabledOption "Handlers") [] "routegen.toml" = .ok checked ∧
        checked.config = none ∧ checked.isValid) ∧
    (Route.Plugin.transform (some (disabledOption "my route")) (.ofSchemas []) {}).value = {} ∧
    (Route.Plugin.transform (some (disabledOption "my route")) (.ofSchemas []) {}).log =
        [.nameRejected (.notTypeName "my route"), .disabled] ∧
    ∃ checked, check (disabledOption "my route") [] "routegen.toml" = .ok checked ∧
      checked.config = none ∧ checked.operations = [] ∧ ¬ checked.isValid := by
  have off (name : String) : Config.ofOption? (some (disabledOption name)) = none := rfl
  have accepted : (disabledOption "Handlers").check = .ok () := rfl
  have rejected : (disabledOption "my route").check = .error (.notTypeName "my route") := rfl
  obtain ⟨-, only, -, -, -, -, checks⟩ := transform_disabled (off "Handlers") (.ofSchemas []) {}
  obtain ⟨checked, ran, config, -, -, valid⟩ := checks _ rfl [] "routegen.toml"
  obtain ⟨same, -, both, -, -, -, refuses⟩ :=
    transform_disabled (off "my route") (.ofSchemas []) {}
  obtain ⟨refused, ranToo, noConfig, nothing, -, invalid⟩ := refuses _ rfl [] "routegen.toml"
  refine ⟨⟨only fun written h => ?_, checked, ran, config, valid.mpr accepted⟩, same,
    (both _ _ rfl rejected).1, refused, ranToo, noConfig, nothing, fun held => ?_⟩
  · obtain rfl := Option.some.inj h
    exact accepted
  · exact absurd (rejected.symm.trans (invalid.mp held)) (by decide)

/-- A rejected alias of a generator that is switched off is an error. -/
theorem transform_disabled_rejects_name :
    Config.ofOption? (some (disabledOption "my route")) = none ∧
      (Route.Plugin.transform (some (disabledOption "my route")) (.ofSchemas []) {}).log =
        [.nameRejected (.notTypeName "my route"), .disabled] ∧
      ∃ checked, check (disabledOption "my route") [] "routegen.toml" = .ok checked ∧
        checked.isValid = false := by
  have off : Config.ofOption? (some (disabledOption "my route")) = none := rfl
  have rejected : (disabledOption "my route").check = .error (.notTypeName "my route") := rfl
  rw [Route.Plugin.transform_of_off off, Route.Plugin.optionFindings_of_error rejected]
  refine ⟨off, rfl, _, check_of_off off [] "routegen.toml", ?_⟩
  rw [Route.Plugin.optionFindings_of_error rejected]
  decide

end Report

end TypedRoutes
