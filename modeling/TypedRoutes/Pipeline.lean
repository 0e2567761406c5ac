import TypedRoutes.Route.Plugin

/-!
The pipeline: a context that carries the inputs and results of a run, and the phases that work on
it. Only one thing can stop a run: no tree where one is to be added to.
-/

set_option autoImplicit false
set_option relaxedAutoImplicit false

namespace TypedRoutes

open Declaration (Tree)
open OpenApi (Schema)
open Options (PluginOption)
open Route (Diagnostic Transformer)

namespace Pipeline

structure Context where
  option : Option PluginOption := none
  schemas : List Schema := []
  tree : Option Tree := none
  transformer : Option Transformer := none
  diagnostics : List Diagnostic := []

inductive Phase where
  | preProcess
  | metadata
  | append
  deriving DecidableEq, Repr

inductive Failure where
  | noTree
  deriving DecidableEq, Repr

def Failure.message : Failure → String
  | .noTree => "no declaration tree to rewrite"

namespace Phase

def all : List Phase := [.preProcess, .metadata, .append]

def name : Phase → String
  | .preProcess => "pre-process"
  | .metadata => "metadata"
  | .append => "rewrite"

def description : Phase → String
  | .preProcess => "Synthesize missing operation ids"
  | .metadata => "Resolve configuration and collect operation metadata"
  | .append => "Append route descriptors to path declarations"

def ofName? (name : String) : Option Phase := all.find? fun phase => phase.name == name

def run (context : Context) : Phase → Except Failure Context
  | .preProcess =>
    let schemas := Route.Plugin.preProcess context.schemas
    .ok { context with
      schemas := schemas.value, diagnostics := context.diagnostics ++ schemas.log }
  | .metadata =>
    let transformer := Route.Plugin.postProcess context.option
      (Route.Inputs.ofSchemas context.schemas)
    .ok { context with
      transformer := transformer.value, diagnostics := context.diagnostics ++ transformer.log }
  | .append =>
    match context.tree, context.transformer with
    | none, _ => .error .noTree
    | some _, none => .ok context
    | some tree, some transformer =>
      let extended := transformer.transform tree
      .ok { context with
        tree := some extended.value, diagnostics := context.diagnostics ++ extended.log }

end Phase

/-- A failed run: the phase that failed, and why. -/
structure Error where
  phase : Phase
  cause : Failure
  deriving DecidableEq, Repr

/-- The texts of a failed run, from the outermost to the cause. -/
def Error.chain (error : Error) : List String :=
  [error.phase.name ++ " phase failed", error.cause.message]

/-- Runs phases in order, up to the first that fails. -/
def run (context : Context) : List Phase → Except Error Context
  | [] => .ok context
  | phase :: rest =>
    match phase.run context with
    | .ok context => run context rest
    | .error cause => .error ⟨phase, cause⟩

namespace Context

def hasErrors (context : Context) : Bool := context.diagnostics.any Diagnostic.isError

def warnings (context : Context) : List Diagnostic :=
  context.diagnostics.filter Diagnostic.isWarning

def report (context : Context) (diagnostic : Diagnostic) : Context :=
  { context with diagnostics := context.diagnostics ++ [diagnostic] }

end Context

end Pipeline

end TypedRoutes
