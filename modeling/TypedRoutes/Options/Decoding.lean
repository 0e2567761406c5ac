import TypedRoutes.Json.Reader
import TypedRoutes.Options.Key

/-!
Options from JSON and their JSON form. Options are an object, or an array of their values in
order; null stands for a value that is not written. Whatever is wrong with them, the message is
the same.
-/

set_option autoImplicit false
set_option relaxedAutoImplicit false

namespace TypedRoutes.Options

open Json (Mismatch ReadError)

/-- The values of options in JSON. A word is a string, or the only key of an object and its value
is null. -/
def jsonForm : ValueForm Json where
  switch?
    | .null => some none
    | .bool on => some (some on)
    | _ => none
  word?
    | .null => some none
    | .string word => some (some word)
    | .object [(word, .null)] => some (some word)
    | _ => none
  alias?
    | .null => some none
    | .bool on => some (some (.toggle on))
    | .string text => some (some (.name text))
    | _ => none

namespace OptionSet

def ofItems? (set : OptionSet) : List Key → List Json → Option OptionSet
  | _, [] => some set
  | [], _ :: _ => none
  | key :: keys, value :: rest =>
    (key.take? jsonForm value set).bind fun set => ofItems? set keys rest

def ofJson? : Json → Option OptionSet
  | .object fields => ofFields? jsonForm [] {} fields
  | .array items => ofItems? {} Key.all items
  | _ => none

/-- The JSON form of options; what is not written is left out. -/
def toJson (set : OptionSet) : Json :=
  let field {α : Type} (key : Key) (value : Option α) (encode : α → Json) :
      List (String × Json) :=
    (value.map fun v => (key.name, encode v)).toList
  .object (field .enabled set.enabled .bool ++
    field .placeholder set.placeholder (fun v => .string v.word) ++
    field .routeTypeName set.routeTypeName (fun v =>
      match v with
      | .toggle on => .bool on
      | .name text => .string text) ++
    field .selection set.selection (fun v => .string v.word))

end OptionSet

namespace PluginOption

def ofJson : Json → Except Mismatch PluginOption
  | .bool on => .ok (.toggle on)
  | value =>
    match OptionSet.ofJson? value with
    | some set => .ok (.options set)
    | none => .error (.noVariantFits "PluginOption")

def parse (text : String) : Except ReadError PluginOption :=
  Json.decodeText (fun _ => false)
    (fun reading => do
      let value ← reading.toJson
      (ofJson value).mapError .mismatch)
    text

def toJson : PluginOption → Json
  | .toggle on => .bool on
  | .options set => set.toJson

end PluginOption

end TypedRoutes.Options
