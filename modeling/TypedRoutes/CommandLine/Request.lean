import TypedRoutes.CommandLine.Settings

/-!
What a command line asks for.
-/

set_option autoImplicit false
set_option relaxedAutoImplicit false

namespace TypedRoutes.CommandLine

open Options (OptionSet Placeholder Selection)

inductive Verb where
  | generate
  | ensureIds
  | check
  | info
  | completions
  deriving DecidableEq, Repr

namespace Verb

def all : List Verb := [.generate, .ensureIds, .check, .info, .completions]

def word : Verb → String
  | .generate => "generate"
  | .ensureIds => "ensure-ids"
  | .check => "check"
  | .info => "info"
  | .completions => "completions"

def purpose : Verb → String
  | .generate => "Append route descriptors to a declaration tree"
  | .ensureIds => "Fill in missing operationIds of an OpenAPI document"
  | .check => "Validate options and list the operation metadata"
  | .info => "Show plugin information"
  | .completions => "Generate shell completions"

def ofWord? (word : String) : Option Verb := all.find? fun verb => verb.word == word

def grammar : Verb → Grammar
  | .generate => ⟨[.tree, .schema, .config, .placeholder, .routeTypeName, .selection, .output,
      .json, .verbose], true⟩
  | .ensureIds => ⟨[.schema, .output, .verbose], false⟩
  | .check => ⟨[.schema, .config, .placeholder, .routeTypeName, .selection, .verbose], true⟩
  | .info => ⟨[], false⟩
  | .completions => ⟨[], false⟩

end Verb

inductive Shell where
  | bash
  | elvish
  | fish
  | powershell
  | zsh
  deriving DecidableEq, Repr

def Shell.all : List Shell := [.bash, .elvish, .fish, .powershell, .zsh]

def Shell.word : Shell → String
  | .bash => "bash"
  | .elvish => "elvish"
  | .fish => "fish"
  | .powershell => "powershell"
  | .zsh => "zsh"

def Shell.ofWord? (word : String) : Option Shell := Shell.all.find? fun shell => shell.word == word

/-- Where options come from: a file, and what overrides it. -/
structure OptionChoice where
  config : Option String
  placeholder : Option Placeholder
  routeTypeName : Option String
  selection : Option Selection
  deriving DecidableEq, Repr

def Settings.choice (settings : Settings) : OptionChoice :=
  ⟨settings.config, settings.placeholder, settings.routeTypeName, settings.selection⟩

def OptionChoice.override (choice : OptionChoice) (set : OptionSet) : OptionSet :=
  { set with
    placeholder := choice.placeholder.or set.placeholder
    routeTypeName := (choice.routeTypeName.map .name).or set.routeTypeName
    selection := choice.selection.or set.selection }

inductive Request where
  | version
  | help (verb : Option Verb)
  | completions (shell : Shell)
  | info
  | generate (tree : String) (schemas : List String) (choice : OptionChoice)
      (output : Option String) (json : Bool) (verbose : Bool)
  | ensureIds (schema : String) (output : Option String) (verbose : Bool)
  | check (schemas : List String) (choice : OptionChoice) (verbose : Bool)
  deriving DecidableEq, Repr

def helpWord : String := "help"

def readShell (shell : Option Shell) : List String → Except Stop Shell
  | [] =>
    match shell with
    | some shell => .ok shell
    | none => .error .misuse
  | argument :: rest =>
    if argument = "--" then
      match shell, rest with
      | some shell, [] => .ok shell
      | none, [word] => (Shell.ofWord? word).elim (.error .misuse) .ok
      | _, _ => .error .misuse
    else if argument = "--help" ∨ ['-', 'h'].isPrefixOf argument.toList then .error .help
    else
      match shell, Shell.ofWord? argument with
      | none, some shell => readShell (some shell) rest
      | _, _ => .error .misuse

namespace Request

/-- The request of a command with its settings, if all that the command needs is there. -/
def ofSettings (verb : Verb) (settings : Settings) : Except Stop Request :=
  match verb with
  | .generate =>
    match settings.tree, settings.schemas with
    | some tree, schema :: more =>
      .ok (.generate tree (schema :: more) settings.choice settings.output settings.json
        settings.verbose)
    | _, _ => .error .misuse
  | .ensureIds =>
    match settings.schemas with
    | [schema] => .ok (.ensureIds schema settings.output settings.verbose)
    | _ => .error .misuse
  | .check => .ok (.check settings.schemas settings.choice settings.verbose)
  | .info => .ok .info
  | .completions => .error .misuse

def ofArguments (verb : Verb) (arguments : List String) : Except Stop Request :=
  match verb with
  | .completions => (readShell none arguments).map .completions
  | verb => do ofSettings verb (← verb.grammar.read {} arguments)

def ofHelpWords? : List String → Option Request
  | [] => some (.help none)
  | [word] => if word = helpWord then some (.help none) else (Verb.ofWord? word).map (.help ∘ some)
  | _ => none

/-- What a command line asks for; none if it is wrong. -/
def parse? : List String → Option Request
  | [] => none
  | argument :: rest =>
    if argument = "--version" ∨ ['-', 'V'].isPrefixOf argument.toList then some .version
    else if argument = "--help" ∨ ['-', 'h'].isPrefixOf argument.toList then some (.help none)
    else if argument = helpWord then ofHelpWords? rest
    else
      (Verb.ofWord? argument).bind fun verb =>
        match ofArguments verb rest with
        | .ok request => some request
        | .error .help => some (.help (some verb))
        | .error .misuse => none

end Request

end TypedRoutes.CommandLine
