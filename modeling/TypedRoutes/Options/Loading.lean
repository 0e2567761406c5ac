import TypedRoutes.Options.Key
import TypedRoutes.Text.Lines
import TypedRoutes.Toml.Reader

/-!
Options from the text of an option file, which is TOML, and what is told about a bad one.
-/

set_option autoImplicit false
set_option relaxedAutoImplicit false

namespace TypedRoutes.Options

/-- The values of options in TOML. A word is a string, or the only key of a table and its value is
empty. -/
def tomlForm : ValueForm Toml.Value where
  switch?
    | .bool on => some (some on)
    | _ => none
  word?
    | .text word => some (some word)
    | .table _ [(word, .emptyList)] => some (some word)
    | .table _ [(word, .table _ [])] => some (some word)
    | _ => none
  alias?
    | .bool on => some (some (.toggle on))
    | .text text => some (some (.name text))
    | _ => none

/-- A value that is refused, and the place of its key in the text that it comes from, as byte
offset and byte length. -/
structure Refusal where
  key : String
  reason : String
  place : Option (Nat × Nat)
  deriving DecidableEq, Repr

namespace Refusal

/-- A refusal that points at the first place where the text holds the key. -/
def locate (text key reason : String) : Refusal :=
  ⟨key, reason, (Text.offsetOf? key.toList text.toList).map fun offset =>
    (offset, Text.utf8Length key.toList)⟩

def message (refusal : Refusal) : String :=
  "invalid option '" ++ refusal.key ++ "': " ++ refusal.reason

def code : String := "routegen::invalid_option"

def help : String :=
  "routeTypeName must be a TypeScript identifier other than Config or RequestHandler, " ++
    "or false to disable"

end Refusal

inductive FileError where
  | malformed
  | refused (refusal : Refusal)
  deriving DecidableEq, Repr

def FileError.message : FileError → String
  | .malformed => "failed to parse routegen.toml"
  | .refused refusal => refusal.message

def FileError.code : FileError → String
  | .malformed => "routegen::toml"
  | .refused _ => Refusal.code

namespace OptionSet

def ofToml? (text : String) : Option OptionSet :=
  (Toml.parse? text).bind (ofFields? tomlForm [] {})

def load (text : String) : Except FileError OptionSet :=
  match ofToml? text with
  | none => .error .malformed
  | some set =>
    match set.check with
    | .ok () => .ok set
    | .error cause =>
      .error (.refused (.locate text Key.routeTypeName.name cause.message))

end OptionSet

end TypedRoutes.Options
