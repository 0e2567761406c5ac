import TypedRoutes.Options.Basic

/-!
The keys under which options are written. How the values are written depends on the format.
-/

set_option autoImplicit false
set_option relaxedAutoImplicit false

namespace TypedRoutes.Options

inductive Key where
  | enabled
  | placeholder
  | routeTypeName
  | selection
  deriving DecidableEq, Repr

/--
How the values of options are read in a format. The outer result is none for a value of the wrong
kind, the inner one for a value that says that nothing is written.
-/
structure ValueForm (Value : Type) where
  switch? : Value → Option (Option Bool)
  word? : Value → Option (Option String)
  alias? : Value → Option (Option RouteTypeName)

def named? {α : Type} (ofWord? : String → Option α) : Option String → Option (Option α)
  | none => some none
  | some word => (ofWord? word).map some

namespace Key

def all : List Key := [.enabled, .placeholder, .routeTypeName, .selection]

def name : Key → String
  | .enabled => "enabled"
  | .placeholder => "placeholderType"
  | .routeTypeName => "routeTypeName"
  | .selection => "schemaSelection"

def ofName? (name : String) : Option Key := all.find? fun key => key.name == name

def take? {Value : Type} (form : ValueForm Value) (key : Key) (value : Value) (set : OptionSet) :
    Option OptionSet :=
  match key with
  | .enabled => (form.switch? value).map fun v => { set with enabled := v }
  | .placeholder =>
    ((form.word? value).bind (named? Placeholder.ofWord?)).map fun v =>
      { set with placeholder := v }
  | .routeTypeName => (form.alias? value).map fun v => { set with routeTypeName := v }
  | .selection =>
    ((form.word? value).bind (named? Selection.ofWord?)).map fun v => { set with selection := v }

end Key

/-- Takes options by their keys; unknown and repeated keys are refused. -/
def OptionSet.ofFields? {Value : Type} (form : ValueForm Value) (taken : List Key)
    (set : OptionSet) : List (String × Value) → Option OptionSet
  | [] => some set
  | (name, value) :: rest =>
    (Key.ofName? name).bind fun key =>
      if key ∈ taken then none
      else (key.take? form value set).bind fun set => ofFields? form (key :: taken) set rest

end TypedRoutes.Options
