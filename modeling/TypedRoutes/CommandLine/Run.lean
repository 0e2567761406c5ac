import TypedRoutes.CommandLine.Files
import TypedRoutes.CommandLine.Request
import TypedRoutes.Declaration.Decoding
import TypedRoutes.OpenApi.Loading
import TypedRoutes.Options.Loading
import TypedRoutes.Report.Operations

/-!
Runs of the program: a command line and files in, an outcome out.
-/

set_option autoImplicit false
set_option relaxedAutoImplicit false

namespace TypedRoutes.CommandLine

open Declaration (Tree)
open OpenApi (Format Schema)
open Options (OptionSet)
open Report (Terminal)

def programName : String := "routegen"

def programVersion : String := "0.3.0"

/-- The options file that is read when none is chosen. -/
def defaultConfig : String := "routegen.toml"

inductive Failure where
  | unreadable (path : String)
  | options (path : String) (error : Options.FileError)
  | schema (path : String) (error : OpenApi.LoadError)
  | unreadableTree (path : String)
  | tree (path : String) (error : Json.ReadError)
  | operation (chain : Report.Failed)
  | unwritable (path : String)

/-- The texts of a failure, from the outermost to the cause. -/
def Failure.chain : Failure → List String
  | .unreadable path => ["failed to read '" ++ path ++ "'"]
  | .options _ error => [error.message]
  | .schema _ error => [error.message]
  | .unreadableTree path => ["Failed to read " ++ path]
  | .tree path error => ["Failed to parse declaration tree " ++ path, error.message]
  | .operation chain => chain
  | .unwritable path => ["Failed to write " ++ path]

/-- What comes of a run: the command line is wrong, a text is told, the run breaks off, or a report
is given, with the verdict of the operation. -/
inductive Outcome where
  | misuse
  | told (text : String)
  | failed (failure : Failure)
  | reported (terminal : Terminal) (passed : Bool)

namespace Outcome

def status : Outcome → Nat
  | .misuse => 2
  | .told _ => 0
  | .failed _ => 1
  | .reported _ passed => if passed then 0 else 1

def terminal : Outcome → Terminal
  | .misuse => { notices := "Usage: " ++ programName ++ " <COMMAND>\n" }
  | .told text => { results := text }
  | .failed failure => { notices := "Error: " ++ "\n  ".intercalate failure.chain ++ "\n" }
  | .reported terminal _ => terminal

end Outcome

def Verb.help (verb : Verb) : String :=
  "Usage: " ++ programName ++ " " ++ verb.word ++ " [OPTIONS]\n" ++
    String.join (verb.grammar.switches.map fun switch =>
      "  " ++ (match switch.letter? with
        | some letter => String.ofList ['-', letter, ',', ' ']
        | none => "    ") ++ "--" ++ switch.long ++ ": " ++ switch.purpose ++ "\n")

def helpText : Option Verb → String
  | some verb => verb.help
  | none =>
    "Usage: " ++ programName ++ " <COMMAND>\n" ++
      String.join (Verb.all.map fun verb => "  " ++ verb.word ++ ": " ++ verb.purpose ++ "\n")

def completionText (shell : Shell) : String :=
  let words := " ".intercalate (Verb.all.map Verb.word)
  (match shell with
    | .bash => "complete -W \"" ++ words ++ "\" " ++ programName
    | .elvish =>
      "set edit:completion:arg-completer[" ++ programName ++ "] = \x7b|@_| put " ++ words ++ " \x7d"
    | .fish => "complete -c " ++ programName ++ " -f -a \"" ++ words ++ "\""
    | .powershell =>
      "Register-ArgumentCompleter -Native -CommandName " ++ programName ++
        " -ScriptBlock \x7b -split \"" ++ words ++ "\" \x7d"
    | .zsh => "compdef \"_values command " ++ words ++ "\" " ++ programName) ++ "\n"

variable {m : Type → Type} [Monad m]

/-- The path of the options file: the chosen one, or the default one if it is a file. -/
def configPath? (files : FileAccess m) (choice : OptionChoice) : m (Option String) :=
  match choice.config with
  | some path => return some path
  | none => do return if ← files.isFile defaultConfig then some defaultConfig else none

def readText (files : FileAccess m) (failure : Failure) (path : String) :
    ExceptT Failure m String := do
  match ← files.read path with
  | some text => return text
  | none => throw failure

def loadOptions (files : FileAccess m) (choice : OptionChoice) :
    ExceptT Failure m (OptionSet × String) := do
  match ← (configPath? files choice : m (Option String)) with
  | none => return (choice.override {}, "defaults")
  | some path =>
    let text ← readText files (.unreadable path) path
    match OptionSet.load text with
    | .ok set => return (choice.override set, path)
    | .error error => throw (.options path error)

def loadSchema (files : FileAccess m) (path : String) : ExceptT Failure m Schema := do
  let text ← readText files (.unreadable path) path
  match Schema.parse (Format.ofPath path) path text with
  | .ok schema => return schema
  | .error error => throw (.schema path error)

def loadTree (files : FileAccess m) (path : String) : ExceptT Failure m Tree := do
  let text ← readText files (.unreadableTree path) path
  match Tree.parse text with
  | .ok tree => return tree
  | .error error => throw (.tree path error)

def orFail {α : Type} (result : Except Report.Failed α) : ExceptT Failure m α :=
  match result with
  | .ok value => return value
  | .error chain => throw (.operation chain)

def writeOutput (files : FileAccess m) (output : Option String) (content : String) :
    ExceptT Failure m Unit := do
  match output with
  | none => return
  | some path => if ← files.write path content then return else throw (.unwritable path)

/-- Follows a request. Options are read before documents, and documents before the tree; a result
is written before anything is reported. -/
def Request.follow (files : FileAccess m) : Request → ExceptT Failure m Outcome
  | .version => return .told (programName ++ " " ++ programVersion ++ "\n")
  | .help verb => return .told (helpText verb)
  | .completions shell => return .told (completionText shell)
  | .info => return .reported (Report.render Report.info) true
  | .generate tree schemas choice output json verbose => do
    let (set, _) ← loadOptions files choice
    let schemas ← schemas.mapM (loadSchema files)
    let tree ← loadTree files tree
    let format := if json then Report.TreeFormat.json else .declarations
    let generated ← orFail (Report.generate (.options set) schemas tree format)
    writeOutput files output generated.content
    return .reported (Report.render (generated.report verbose output)) true
  | .ensureIds schema output verbose => do
    let schema ← loadSchema files schema
    let completed := Report.complete schema
    writeOutput files output completed.content
    return .reported (Report.render (completed.report verbose output)) true
  | .check schemas choice verbose => do
    let (set, source) ← loadOptions files choice
    let schemas ← schemas.mapM (loadSchema files)
    let checked ← orFail (Report.check (.options set) schemas source)
    return .reported (Report.render (checked.report verbose)) checked.isValid

def run (files : FileAccess m) (arguments : List String) : m Outcome := do
  match Request.parse? arguments with
  | none => return .misuse
  | some request =>
    match ← (request.follow files).run with
    | .ok outcome => return outcome
    | .error failure => return .failed failure

end TypedRoutes.CommandLine
