import TypedRoutes.Options.Basic
import TypedRoutes.Text.Quoted

/-!
What options resolve to. The options and the printer each have a judgement about names, and two
checks go by the first; they agree. So whatever is written, a configuration only ever has an alias
that can stand beside the declarations that the generator makes.
-/

set_option autoImplicit false
set_option relaxedAutoImplicit false

namespace TypedRoutes.Options

/-- A name that can be written bare and that the generator does not use for anything else. -/
structure IsAlias (name : String) : Prop where
  isIdentifier : Text.isIdentifier name = true
  notDescriptor : name ≠ "Config"
  notHandler : name ≠ "RequestHandler"

private theorem isAlias_defaultAlias : IsAlias defaultAlias where
  isIdentifier := by decide
  notDescriptor := by decide
  notHandler := by decide

theorem isTypeName_eq_isIdentifier (name : String) : isTypeName name = Text.isIdentifier name := by
  unfold isTypeName Text.isIdentifier
  cases name.toList with
  | nil => rfl
  | cons c rest => rfl

theorem PluginOption.check_options (set : OptionSet) :
    (PluginOption.options set).check = set.check := by
  obtain ⟨enabled, placeholder, routeTypeName, selection⟩ := set
  cases routeTypeName with
  | none => rfl
  | some written =>
    simp only [check, OptionSet.check, Option.map_some]
    cases written.check with
    | ok => rfl
    | error error => rfl

namespace RouteTypeName

theorem check_name_eq_ok_iff {text : String} :
    (RouteTypeName.name text).check = .ok () ↔ text = "" ∨ IsAlias text := by
  constructor
  · intro h
    by_cases empty : text = ""
    · exact .inl empty
    · have judged := isTypeName_eq_isIdentifier text
      cases identifier : Text.isIdentifier text with
      | false =>
        rw [identifier] at judged
        simp [check, empty, judged] at h
      | true =>
        have free : ¬(text = descriptorName ∨ text = handlerName) := by
          intro used
          rw [identifier] at judged
          simp [check, empty, judged, used] at h
        obtain ⟨notDescriptor, notHandler⟩ := not_or.mp free
        exact .inr ⟨identifier, notDescriptor, notHandler⟩
  · rintro (rfl | isAlias)
    · rfl
    · have free : ¬(text = descriptorName ∨ text = handlerName) :=
        not_or.mpr ⟨isAlias.notDescriptor, isAlias.notHandler⟩
      simp [check, isTypeName_eq_isIdentifier, isAlias.isIdentifier, free]

private theorem isAlias_of_resolve {written : RouteTypeName} {name : String}
    (h : written.resolve = some name) : IsAlias name := by
  cases written with
  | toggle on =>
    cases on with
    | false => cases h
    | true =>
      obtain rfl : defaultAlias = name := Option.some.inj h
      exact isAlias_defaultAlias
  | name text =>
    simp only [resolve] at h
    split at h
    case isTrue => cases h
    case isFalse nonempty =>
      split at h
      case h_1 accepted =>
        obtain rfl : text = name := Option.some.inj h
        exact (check_name_eq_ok_iff.mp accepted).resolve_left nonempty
      case h_2 => cases h

end RouteTypeName

theorem Config.isAlias_of_ofOption? {option : Option PluginOption} {config : Config}
    (enabled : Config.ofOption? option = some config) {name : String}
    (configured : config.routeTypeName = some name) : IsAlias name := by
  obtain ⟨written, -, resolved⟩ := Option.bind_eq_some_iff.mp enabled
  cases written with
  | toggle on =>
    cases on with
    | false => cases resolved
    | true =>
      cases resolved
      cases configured
  | options set =>
    simp only [PluginOption.resolve, OptionSet.resolve] at resolved
    split at resolved
    case isTrue => cases resolved
    case isFalse =>
      cases resolved
      obtain ⟨routeTypeName, -, h⟩ := Option.bind_eq_some_iff.mp configured
      exact RouteTypeName.isAlias_of_resolve h

end TypedRoutes.Options
