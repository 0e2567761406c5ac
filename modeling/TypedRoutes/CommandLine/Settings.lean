import TypedRoutes.Options.Basic

/-!
The switches of the command line, and reading them into settings. A switch takes its value from
behind an equals sign, from the rest of its own argument or from the next argument.
-/

set_option autoImplicit false
set_option relaxedAutoImplicit false

namespace TypedRoutes.CommandLine

open Options (Placeholder Selection)

inductive Switch where
  | tree
  | schema
  | config
  | placeholder
  | routeTypeName
  | selection
  | output
  | json
  | verbose
  deriving DecidableEq, Repr

namespace Switch

def long : Switch → String
  | .tree => "tree"
  | .schema => "schema"
  | .config => "config"
  | .placeholder => "placeholder"
  | .routeTypeName => "route-type-name"
  | .selection => "schema-selection"
  | .output => "output"
  | .json => "json"
  | .verbose => "verbose"

def letter? : Switch → Option Char
  | .tree => some 't'
  | .schema => some 's'
  | .config => some 'c'
  | .placeholder => some 'p'
  | .routeTypeName => some 'r'
  | .selection => none
  | .output => some 'o'
  | .json => none
  | .verbose => some 'v'

/-- Whether a switch is only set, without a value. -/
def isFlag : Switch → Bool
  | .json => true
  | .verbose => true
  | _ => false

def purpose : Switch → String
  | .tree => "Declaration tree (JSON)"
  | .schema => "OpenAPI document (JSON or YAML)"
  | .config => "Path to routegen.toml (defaults to ./routegen.toml when present)"
  | .placeholder => "Type for categories a path does not declare (any, unknown)"
  | .routeTypeName => "Name of the route-handler alias; an empty name disables it"
  | .selection => "How paths are gathered from several schemas (merge, last)"
  | .output => "Write the result to a file instead of stdout"
  | .json => "Emit the tree as JSON instead of declarations"
  | .verbose => "Also show informational diagnostics"

end Switch

/-- What the switches of one command line say. -/
structure Settings where
  tree : Option String := none
  schemas : List String := []
  config : Option String := none
  placeholder : Option Placeholder := none
  routeTypeName : Option String := none
  selection : Option Selection := none
  output : Option String := none
  json : Bool := false
  verbose : Bool := false
  deriving DecidableEq, Repr

/-- Why a command line is not followed: it asks for help, or it is wrong. -/
inductive Stop where
  | help
  | misuse
  deriving DecidableEq, Repr

/-- A value for a place that is still empty; paths have at least one character. -/
def fill {α : Type} (place : Option α) (value : Option α) : Except Stop (Option α) :=
  match place, value with
  | none, some value => .ok (some value)
  | _, _ => .error .misuse

def path? (text : String) : Option String := if text = "" then none else some text

namespace Settings

/-- Takes a switch with its value. Only schemas may be given more than once, and only to a command
that takes several. -/
def take (many : Bool) (switch : Switch) (value : String) (settings : Settings) :
    Except Stop Settings :=
  match switch with
  | .tree => do .ok { settings with tree := ← fill settings.tree (path? value) }
  | .schema =>
    match path? value with
    | none => .error .misuse
    | some path =>
      if many ∨ settings.schemas = [] then
        .ok { settings with schemas := settings.schemas ++ [path] }
      else .error .misuse
  | .config => do .ok { settings with config := ← fill settings.config (path? value) }
  | .placeholder => do
    .ok { settings with
      placeholder := ← fill settings.placeholder (Placeholder.ofWord? value) }
  | .routeTypeName => do
    .ok { settings with routeTypeName := ← fill settings.routeTypeName (some value) }
  | .selection => do
    .ok { settings with selection := ← fill settings.selection (Selection.ofWord? value) }
  | .output => do .ok { settings with output := ← fill settings.output (path? value) }
  | .json => if settings.json then .error .misuse else .ok { settings with json := true }
  | .verbose => if settings.verbose then .error .misuse else .ok { settings with verbose := true }

end Settings

/-- Whether an argument is read as switches and never as a value. -/
def isSwitchLike (argument : List Char) : Bool :=
  match argument with
  | '-' :: _ :: _ => true
  | _ => false

/-- The switches that a command knows, and whether it takes several schemas. -/
structure Grammar where
  switches : List Switch
  many : Bool

namespace Grammar

/-- Reads the letters of an argument behind its hyphen. The last of them may be a switch that
awaits its value from the next argument. -/
def readLetters (grammar : Grammar) (settings : Settings) :
    List Char → Except Stop (Settings × Option Switch)
  | [] => .ok (settings, none)
  | letter :: rest =>
    if letter = 'h' then .error .help
    else
      match grammar.switches.find? fun switch => switch.letter? == some letter with
      | none => .error .misuse
      | some switch =>
        if switch.isFlag then do
          let settings ← settings.take grammar.many switch ""
          grammar.readLetters settings rest
        else
          match rest with
          | [] => .ok (settings, some switch)
          | '=' :: value => do
            .ok (← settings.take grammar.many switch (String.ofList value), none)
          | value => do
            .ok (← settings.take grammar.many switch (String.ofList value), none)

def readLong (grammar : Grammar) (settings : Settings) (argument : List Char) :
    Except Stop (Settings × Option Switch) :=
  let (name, behind) := argument.span fun c => c != '='
  if argument = "help".toList then .error .help
  else
    match grammar.switches.find? fun switch => switch.long.toList == name with
    | none => .error .misuse
    | some switch =>
      match behind, switch.isFlag with
      | [], true => do .ok (← settings.take grammar.many switch "", none)
      | [], false => .ok (settings, some switch)
      | _ :: _, true => .error .misuse
      | _ :: value, false => do
        .ok (← settings.take grammar.many switch (String.ofList value), none)

/-- Reads all arguments. Two hyphens alone end the switches, and nothing may follow them. -/
def read (grammar : Grammar) (settings : Settings) : List String → Except Stop Settings
  | [] => .ok settings
  | argument :: rest => do
    if argument = "--" then
      if rest = [] then .ok settings else .error .misuse
    else
      let (settings, awaiting) ←
        match argument.toList with
        | '-' :: '-' :: long => grammar.readLong settings long
        | '-' :: c :: letters => grammar.readLetters settings (c :: letters)
        | _ => .error .misuse
      match awaiting, rest with
      | none, rest => grammar.read settings rest
      | some _, [] => .error .misuse
      | some switch, value :: rest =>
        if isSwitchLike value.toList then .error .misuse
        else do
          let settings ← settings.take grammar.many switch value
          grammar.read settings rest

end Grammar

end TypedRoutes.CommandLine
