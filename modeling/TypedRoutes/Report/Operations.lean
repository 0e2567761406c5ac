import TypedRoutes.Declaration.Encoding
import TypedRoutes.Declaration.Printer
import TypedRoutes.Pipeline
import TypedRoutes.Report.Output

/-!
The operations of the program and their reports: generating declarations, completing a document,
checking options and documents, and telling about the program.
-/

set_option autoImplicit false
set_option relaxedAutoImplicit false

namespace TypedRoutes.Report

open Declaration (Tree)
open OpenApi (Schema)
open Options (Config PluginOption)
open Pipeline (Context Phase)
open Route (Diagnostic Record)

/-- The lines of findings; informational ones only on demand. -/
def findings (verbose : Bool) (diagnostics : List Diagnostic) : List Line :=
  (diagnostics.filter fun diagnostic => verbose || diagnostic.severity != .info).map
    fun diagnostic =>
      match diagnostic.severity with
      | .error => .error diagnostic.located
      | .warning => .warning diagnostic.located
      | .info => .note diagnostic.located

def counted (count : Nat) (name : String) : String :=
  toString count ++ " " ++ name ++ (if count = 1 then "" else "s")

def wroteTo (path : String) : Line := .text ("✓ wrote " ++ path)

inductive TreeFormat where
  | declarations
  | json
  deriving DecidableEq, Repr

def TreeFormat.write (tree : Tree) : TreeFormat → String
  | .declarations => tree.print
  | .json => tree.toJson.pretty

/-- A generated tree, with the number of its operations unless the generator is switched off. -/
structure Generated where
  content : String
  diagnostics : List Diagnostic
  operations : Option Nat

/-- The texts of a failed operation, from the outermost to the cause. -/
abbrev Failed := List String

def generate (option : PluginOption) (schemas : List Schema) (tree : Tree)
    (format : TreeFormat) : Except Failed Generated :=
  match Pipeline.run { option := some option, schemas := schemas, tree := some tree } Phase.all with
  | .error error => .error ("Generation failed" :: error.chain)
  | .ok context =>
    match context.tree with
    | none => .error ["pipeline did not return a declaration tree"]
    | some tree =>
      .ok ⟨format.write tree, context.diagnostics,
        context.transformer.map fun transformer => transformer.table.size⟩

def dropTrailingLineFeeds (text : String) : String :=
  String.ofList ((text.toList.reverse.dropWhile fun c => c == '\n').reverse)

def Generated.report (verbose : Bool) (outputPath : Option String) (generated : Generated) :
    List Line :=
  findings verbose generated.diagnostics ++
    [match generated.operations with
      | some count => .note (counted count "operation" ++ " in metadata table")
      | none => .note "plugin disabled, tree left unchanged",
    match outputPath with
      | some path => wroteTo path
      | none => .text (dropTrailingLineFeeds generated.content)]

/-- A completed document, with the number of ids that it got. -/
structure Completed where
  content : String
  synthesized : Nat
  diagnostics : List Diagnostic

def complete (schema : Schema) : Completed :=
  let (document, tally) := Route.tallyDocument schema.content []
  ⟨document.toJson.pretty, tally.made, tally.log⟩

def Completed.report (verbose : Bool) (outputPath : Option String) (completed : Completed) :
    List Line :=
  findings verbose completed.diagnostics ++
    [.note ("synthesized " ++ counted completed.synthesized "operationId"),
    match outputPath with
      | some path => wroteTo path
      | none => .text completed.content]

/-- The outcome of a check: the configuration, unless the generator is switched off, and the
operations. -/
structure Checked where
  source : String
  config : Option Config
  operations : List Record
  diagnostics : List Diagnostic

/-- Checks options and documents without a tree. -/
def check (option : PluginOption) (schemas : List Schema) (source : String) :
    Except Failed Checked :=
  match Pipeline.run { option := some option, schemas := schemas } [.preProcess, .metadata] with
  | .error error => .error ("Validation failed" :: error.chain)
  | .ok context =>
    .ok ⟨source, context.transformer.map fun transformer => transformer.config,
      match context.transformer with
      | some transformer => transformer.table.records
      | none => [],
      context.diagnostics⟩

def Checked.isValid (checked : Checked) : Bool := !checked.diagnostics.any Diagnostic.isError

def configLines (config : Config) : List Line :=
  [.heading "Options",
    .keyValue "placeholderType" config.placeholder.word,
    .keyValue "routeTypeName" (config.routeTypeName.getD "(none)"),
    .keyValue "schemaSelection" config.selection.word,
    .newline]

def operationLines (operations : List Record) : List Line :=
  .heading (counted operations.length "operation") ::
    operations.map fun record =>
      .item (record.method.key.map Char.toUpper ++ " " ++ record.expressPath ++ " -> " ++
        record.operationId)

/-- The report of a check; behind an error it says nothing more. -/
def Checked.report (verbose : Bool) (checked : Checked) : List Line :=
  findings verbose checked.diagnostics ++
    if checked.isValid then
      (if checked.diagnostics.any Diagnostic.isWarning then [.newline] else []) ++
        [.text ("✓ options are valid (" ++ checked.source ++ ")"), .newline] ++
        match checked.config with
        | none => [.text "  plugin disabled by configuration"]
        | some config => configLines config ++ operationLines checked.operations
    else []

def info : List Line :=
  [.title (Route.Plugin.name ++ " " ++ Route.Plugin.version),
    .text Route.Plugin.description,
    .newline,
    .heading "Phases"] ++
    Phase.all.map fun phase => .keyValue phase.name phase.description

end TypedRoutes.Report
