import TypedRoutes.Options.Loading
import TypedRoutes.Proofs.Options.Resolution
import TypedRoutes.Proofs.Report.Disabled
import TypedRoutes.Proofs.Route.Accounting
import TypedRoutes.Proofs.Route.Findings
import TypedRoutes.Proofs.Text.Literal

/-!
Names for the alias that are rejected. A name is judged by its code points and by the names that the
generator uses itself. The options, what is loaded from a file, the second hook and the configuration
all come to that judgement, and the printer to the same one about code points.
-/

set_option autoImplicit false
set_option relaxedAutoImplicit false

namespace TypedRoutes

namespace Options

/-- Whether the code points of a text are those of a name. -/
def hasNameCodes (text : String) : Bool :=
  text.toList.head?.any (fun c => Text.inRanges Text.nameStartRanges c.toNat) &&
    text.toList.tail.all fun c => Text.inRanges Text.nameRestRanges c.toNat

/-- What is rejected: a text that names no type, or that names one of the generator. -/
def IsRejected (text : String) : Prop :=
  text ≠ "" ∧ (hasNameCodes text = false ∨ text = "Config" ∨ text = "RequestHandler")

private theorem isIdentifier_eq_hasNameCodes (text : String) :
    Text.isIdentifier text = hasNameCodes text := by
  unfold Text.isIdentifier hasNameCodes
  cases text.toList with
  | nil => rfl
  | cons c rest =>
    simp only [List.head?_cons, Option.any_some, List.tail_cons, Text.isNameStart_eq,
      funext Text.isNameRest_eq]

private theorem isRejected_iff {text : String} : IsRejected text ↔ text ≠ "" ∧ ¬IsAlias text := by
  have accepted : IsAlias text ↔
      ¬(hasNameCodes text = false ∨ text = "Config" ∨ text = "RequestHandler") := by
    rw [← isIdentifier_eq_hasNameCodes]
    constructor
    · rintro ⟨identifier, notDescriptor, notHandler⟩ (bad | used | used)
      · rw [identifier] at bad
        cases bad
      · exact notDescriptor used
      · exact notHandler used
    · intro h
      obtain ⟨identifier, free⟩ := not_or.mp h
      obtain ⟨notDescriptor, notHandler⟩ := not_or.mp free
      exact ⟨Bool.not_eq_false _ ▸ identifier, notDescriptor, notHandler⟩
  rw [accepted, not_not, IsRejected]

private theorem RouteTypeName.exists_error_iff {text : String} :
    (∃ error, (RouteTypeName.name text).check = .error error) ↔ IsRejected text := by
  rw [isRejected_iff, ← not_or, ← check_name_eq_ok_iff]
  cases (RouteTypeName.name text).check with
  | ok => simp
  | error error => simp

private theorem OptionSet.exists_error_iff {set : OptionSet} :
    (∃ error, set.check = .error error) ↔
      ∃ text, set.routeTypeName = some (.name text) ∧ IsRejected text := by
  unfold OptionSet.check
  cases set.routeTypeName with
  | none => simp
  | some written =>
    cases written with
    | toggle on => simp [RouteTypeName.check]
    | name text =>
      have rejected := @RouteTypeName.exists_error_iff text
      cases judged : (RouteTypeName.name text).check with
      | ok => simpa [judged] using rejected
      | error error => simpa [judged] using rejected

/-- A written name stands for no alias exactly if it switches the alias off, or is empty or
rejected. -/
private theorem RouteTypeName.resolve_eq_none_iff {written : RouteTypeName} :
    written.resolve = none ↔
      written = .toggle false ∨ written = .name "" ∨
        ∃ text, written = .name text ∧ IsRejected text := by
  cases written with
  | toggle on => cases on <;> simp [resolve]
  | name text =>
    by_cases empty : text = ""
    · simp [resolve, empty]
    · have rejected := @exists_error_iff text
      rw [resolve, if_neg empty]
      cases judged : (RouteTypeName.name text).check with
      | ok => simpa [judged, empty] using rejected
      | error error => simpa [judged, empty] using rejected

private theorem RouteTypeName.eq_of_resolve {written : RouteTypeName} {name : String}
    (h : written.resolve = some name) :
    written = .name name ∨ written = .toggle true ∧ name = defaultAlias := by
  cases written with
  | toggle on =>
    cases on with
    | false => cases h
    | true => exact .inr ⟨rfl, (Option.some.inj h).symm⟩
  | name text =>
    rw [resolve] at h
    split at h
    · cases h
    · split at h
      · exact .inl (congrArg _ (Option.some.inj h))
      · cases h

private theorem OptionSet.resolve_of_error {set : OptionSet} {error : NameError}
    (h : set.check = .error error) :
    set.resolve = { set with routeTypeName := none }.resolve := by
  obtain ⟨text, named, rejected⟩ := exists_error_iff.mp ⟨error, h⟩
  have noAlias : (RouteTypeName.name text).resolve = none :=
    RouteTypeName.resolve_eq_none_iff.mpr (.inr (.inr ⟨text, rfl, rejected⟩))
  simp [resolve, named, noAlias]

def PluginOption.routeTypeName? : PluginOption → Option RouteTypeName
  | .toggle _ => none
  | .options set => set.routeTypeName

private theorem Config.routeTypeName_eq {option : PluginOption} {config : Config}
    (enabled : Config.ofOption? (some option) = some config) :
    config.routeTypeName = option.routeTypeName?.bind RouteTypeName.resolve := by
  rw [Config.ofOption?, Option.bind_some] at enabled
  cases option with
  | toggle on =>
    cases on with
    | false => cases enabled
    | true =>
      cases enabled
      rfl
  | options set =>
    simp only [PluginOption.resolve, OptionSet.resolve] at enabled
    split at enabled
    · cases enabled
    · cases enabled
      rfl

end Options

namespace Route

open Options

private theorem Table.isError_of_mem_log_ofInputs {selection : Selection} {inputs : Inputs}
    {finding : Diagnostic} (h : finding ∈ (Table.ofInputs selection inputs).log) :
    finding.isError = false := by
  obtain collecting | taking := List.mem_append.mp h
  · rw [eq_of_mem_log_collectFrom collecting]
    rfl
  · rw [Table.ofPaths_eq] at taking
    have warning := Table.isWarning_of_mem_log_takeAll taking
    simp only [Diagnostic.isWarning, beq_iff_eq] at warning
    simp [Diagnostic.isError, warning]

private theorem Plugin.filter_isError_postProcess (option : PluginOption) (inputs : Inputs) :
    (postProcess (some option) inputs).log.filter Diagnostic.isError =
      optionFindings (some option) := by
  have all : (optionFindings (some option)).filter Diagnostic.isError =
      optionFindings (some option) := by
    cases judged : option.check with
    | ok => simp [optionFindings, judged]
    | error error => simp [optionFindings, judged, Diagnostic.isError, Diagnostic.severity]
  cases resolved : Config.ofOption? (some option) with
  | none =>
    have log : (postProcess (some option) inputs).log =
        optionFindings (some option) ++ [.disabled] := by
      rw [postProcess, resolved]
      rfl
    have quiet : [Diagnostic.disabled].filter Diagnostic.isError = [] := rfl
    rw [log, List.filter_append, all, quiet, List.append_nil]
  | some config =>
    have log : (postProcess (some option) inputs).log =
        optionFindings (some option) ++ (Table.ofInputs config.selection inputs).log := by
      rw [postProcess, resolved]
      exact congrArg (optionFindings (some option) ++ ·) (List.append_nil _)
    have quiet : (Table.ofInputs config.selection inputs).log.filter Diagnostic.isError = [] := by
      refine List.filter_eq_nil_iff.mpr fun finding taking => ?_
      rw [Table.isError_of_mem_log_ofInputs taking]
      decide
    rw [log, List.filter_append, all, quiet, List.append_nil]

/--
Names for the alias are judged alike everywhere. What the options take for a name is what the
printer takes for one, and is told by code points. Options fail their check exactly if they give a
rejected name: as an option of a host, at the end of a file, where the file is refused for it, and
in the second hook, where it is the only error. The alias of a configuration is a name that is free,
the written one or the default one; there is none exactly if the option gives no name, or one that
is switched off, empty or rejected; and a rejected name is of no consequence to the rest of the
configuration.
-/
theorem rejected_names_are_judged_alike :
    (∀ text, isTypeName text = Text.isIdentifier text ∧
      Text.isIdentifier text = hasNameCodes text) ∧
    (∀ set : OptionSet,
      ((∃ error, set.check = .error error) ↔
        ∃ text, set.routeTypeName = some (.name text) ∧ IsRejected text) ∧
      (∀ error, set.check = .error error ↔ (PluginOption.options set).check = .error error) ∧
      (∀ source, OptionSet.ofToml? source = some set →
        ((∃ failure, OptionSet.load source = .error failure) ↔
          ∃ error, (PluginOption.options set).check = .error error) ∧
        ∀ error, (PluginOption.options set).check = .error error →
          OptionSet.load source =
            .error (.refused (.locate source "routeTypeName" error.message))) ∧
      ∀ inputs,
        ((∃ finding ∈ (Plugin.postProcess (some (.options set)) inputs).log,
            finding.isError = true) ↔
          ∃ error, (PluginOption.options set).check = .error error) ∧
        ∀ error, (PluginOption.options set).check = .error error →
          (Plugin.postProcess (some (.options set)) inputs).log.filter Diagnostic.isError =
              [.nameRejected error] ∧
            (Diagnostic.nameRejected error).location? = some "routeTypeName") ∧
    (∀ option config, Config.ofOption? (some option) = some config →
      (∀ name, config.routeTypeName = some name →
        Text.isIdentifier name = true ∧ name ≠ "Config" ∧ name ≠ "RequestHandler" ∧
          (option.routeTypeName? = some (.name name) ∨
            option.routeTypeName? = some (.toggle true) ∧ name = "Route")) ∧
      (config.routeTypeName = none ↔
        option.routeTypeName? = none ∨ option.routeTypeName? = some (.toggle false) ∨
          option.routeTypeName? = some (.name "") ∨
          ∃ text, option.routeTypeName? = some (.name text) ∧ IsRejected text)) ∧
    ∀ (set : OptionSet) error, set.check = .error error →
      set.resolve = { set with routeTypeName := none }.resolve := by
  refine ⟨fun text => ⟨isTypeName_eq_isIdentifier text, isIdentifier_eq_hasNameCodes text⟩,
    fun set => ⟨OptionSet.exists_error_iff, ?alike, fun source decoded => ?loaded,
      fun inputs => ?hook⟩,
    fun option config enabled => ⟨?named, ?unnamed⟩, fun _ _ => OptionSet.resolve_of_error⟩
  case alike =>
    intro error
    rw [PluginOption.check_options]
  case loaded =>
    rw [PluginOption.check_options, OptionSet.load, decoded]
    cases judged : set.check with
    | ok => simp [judged]
    | error error => simp [judged, Key.name]
  case hook =>
    have errors := Plugin.filter_isError_postProcess (.options set) inputs
    refine ⟨?_, fun error rejected => ⟨?_, rfl⟩⟩
    · have inLog : (∃ finding ∈ (Plugin.postProcess (some (.options set)) inputs).log,
          finding.isError = true) ↔
            ∃ finding, finding ∈ Plugin.optionFindings (some (.options set)) := by
        simp only [← errors, List.mem_filter]
      rw [inLog]
      cases judged : (PluginOption.options set).check with
      | ok => simp [Plugin.optionFindings, judged]
      | error error => simp [Plugin.optionFindings, judged]
    · rw [errors, Plugin.optionFindings_of_error rejected]
  case named =>
    intro name configured
    obtain ⟨identifier, notDescriptor, notHandler⟩ :=
      Config.isAlias_of_ofOption? enabled configured
    rw [Config.routeTypeName_eq enabled] at configured
    obtain ⟨written, given, resolved⟩ := Option.bind_eq_some_iff.mp configured
    refine ⟨identifier, notDescriptor, notHandler, ?_⟩
    rw [given]
    obtain rfl | ⟨rfl, rfl⟩ := RouteTypeName.eq_of_resolve resolved
    · exact .inl rfl
    · exact .inr ⟨rfl, rfl⟩
  case unnamed =>
    rw [Config.routeTypeName_eq enabled]
    cases given : option.routeTypeName? with
    | none => simp
    | some written => simpa using @RouteTypeName.resolve_eq_none_iff written

def blankNameFile : String := "schemaSelection = \"last\"\nrouteTypeName = \"my route\"\n"

def blankNameOptions : OptionSet :=
  { routeTypeName := some (.name "my route"), selection := some .last }

theorem rejected_names_are_judged_alike_blankName :
    OptionSet.ofToml? blankNameFile = some blankNameOptions ∧
    blankNameOptions.check = .error (.notTypeName "my route") ∧
    OptionSet.load blankNameFile = .error (.refused
      (.locate blankNameFile "routeTypeName" "'my route' is not a valid type name")) ∧
    (Plugin.postProcess (some (.options blankNameOptions)) (.ofSchemas [])).log.filter
      Diagnostic.isError = [.nameRejected (.notTypeName "my route")] ∧
    (∃ text, blankNameOptions.routeTypeName = some (.name text) ∧ IsRejected text) ∧
    blankNameOptions.resolve = { blankNameOptions with routeTypeName := none }.resolve ∧
    Config.ofOption? (some (.options { routeTypeName := some (.toggle true) })) =
      some { routeTypeName := some "Route" } ∧
    Text.isIdentifier "Route" = true := by
  have decoded : OptionSet.ofToml? blankNameFile = some blankNameOptions := by decide +kernel
  have rejected : blankNameOptions.check = .error (.notTypeName "my route") := by decide
  have enabled : Config.ofOption? (some (.options { routeTypeName := some (.toggle true) })) =
      some { routeTypeName := some "Route" } := by decide
  obtain ⟨-, judged, configured, without⟩ := rejected_names_are_judged_alike
  obtain ⟨cause, -, file, hook⟩ := judged blankNameOptions
  exact ⟨decoded, rejected, (file _ decoded).2 _ rejected, ((hook _).2 _ rejected).1,
    cause.mp ⟨_, rejected⟩, without _ _ rejected, enabled, ((configured _ _ enabled).1 _ rfl).1⟩

end Route

end TypedRoutes
