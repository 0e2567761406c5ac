import TypedRoutes.Options.Basic
import TypedRoutes.Route.Template

/-!
What a run has to say: every finding with its severity, the phase that made it, its text and the
place that it is about.
-/

set_option autoImplicit false
set_option relaxedAutoImplicit false

namespace TypedRoutes.Route

open OpenApi (Method)

structure Record where
  operationId : String
  method : Method
  template : String
  deriving DecidableEq, Repr

namespace Record

def expressPath (record : Record) : String := Route.expressPath record.template

def fields (record : Record) : List (String × String) :=
  [("operationId", record.operationId), ("method", record.method.key),
    ("expressPath", record.expressPath), ("openapiPath", record.template)]

end Record

inductive Severity where
  | error
  | warning
  | info
  deriving DecidableEq, Repr

def Severity.word : Severity → String
  | .error => "error"
  | .warning => "warning"
  | .info => "info"

def Severity.ofWord? (word : String) : Option Severity :=
  [Severity.error, .warning, .info].find? fun severity => severity.word == word

def inputLimit : Nat := 1024

/-- The name of the top-level namespace that holds one namespace per path. -/
def containerName : String := "Paths"

inductive Diagnostic where
  /-- An operation got an id. -/
  | idSynthesized (method : Method) (template : String) (id : String)
  /-- An operation without an id is passed over. -/
  | idMissing (method : Method) (template : String)
  /-- A record takes the place of another one. -/
  | idCollision (record : Record) (displaced : Record)
  /-- There are more inputs than are read. -/
  | inputsUnfinished
  /-- The name of the alias is rejected. -/
  | nameRejected (error : Options.NameError)
  /-- The generator is switched off. -/
  | disabled
  /-- A path is declared without a body. -/
  | bodyMissing (container name : String)
  /-- The body of a path is empty. -/
  | bodyEmpty (container name : String)
  /-- A path has no record. -/
  | recordMissing (container name : String)
  /-- There are no paths at all. -/
  | containerMissing
  /-- A finding of somebody else. -/
  | external (severity : Severity) (phase message : String) (location : Option String)
  deriving DecidableEq, Repr

namespace Diagnostic

def severity : Diagnostic → Severity
  | .idSynthesized _ _ _ => .info
  | .idMissing _ _ => .warning
  | .idCollision _ _ => .warning
  | .inputsUnfinished => .warning
  | .nameRejected _ => .error
  | .disabled => .info
  | .bodyMissing _ _ => .info
  | .bodyEmpty _ _ => .info
  | .recordMissing _ _ => .warning
  | .containerMissing => .info
  | .external severity _ _ _ => severity

def phase : Diagnostic → String
  | .idSynthesized _ _ _ => "pre-process"
  | .idMissing _ _ => "metadata"
  | .idCollision _ _ => "metadata"
  | .inputsUnfinished => "metadata"
  | .nameRejected _ => "config"
  | .disabled => "config"
  | .bodyMissing _ _ => "rewrite"
  | .bodyEmpty _ _ => "rewrite"
  | .recordMissing _ _ => "rewrite"
  | .containerMissing => "rewrite"
  | .external _ phase _ _ => phase

def message : Diagnostic → String
  | .idSynthesized _ _ id => "synthesized operationId '" ++ id ++ "'"
  | .idMissing method template =>
    "couldn't extract operationId for " ++ method.key ++ " " ++ template
  | .idCollision record displaced =>
    "operationId '" ++ record.operationId ++ "' collides with '" ++ displaced.operationId ++
      "' (" ++ displaced.method.key ++ " " ++ displaced.template ++ "); keeping the later one"
  | .inputsUnfinished =>
    "schema iterator did not finish after " ++ toString inputLimit ++ " values; ignoring the rest"
  | .nameRejected error => error.message ++ "; route alias not emitted"
  | .disabled => "plugin disabled by configuration"
  | .bodyMissing _ _ => "path declaration has no body; left unchanged"
  | .bodyEmpty _ _ => "path declaration has an empty body; left unchanged"
  | .recordMissing _ name => "no operation metadata for '" ++ name ++ "'; left unchanged"
  | .containerMissing => "no top-level '" ++ containerName ++ "' namespace; nothing to rewrite"
  | .external _ _ message _ => message

def location? : Diagnostic → Option String
  | .idSynthesized method template _ => some (method.key ++ " " ++ template)
  | .idMissing method template => some (method.key ++ " " ++ template)
  | .idCollision record _ => some (record.method.key ++ " " ++ record.template)
  | .inputsUnfinished => none
  | .nameRejected _ => some "routeTypeName"
  | .disabled => none
  | .bodyMissing container name => some (container ++ "." ++ name)
  | .bodyEmpty container name => some (container ++ "." ++ name)
  | .recordMissing container name => some (container ++ "." ++ name)
  | .containerMissing => none
  | .external _ _ _ location => location

def located (diagnostic : Diagnostic) : String :=
  match diagnostic.location? with
  | some location => diagnostic.message ++ " (at " ++ location ++ ")"
  | none => diagnostic.message

def display (diagnostic : Diagnostic) : String :=
  diagnostic.severity.word ++ ": " ++ diagnostic.located

def isError (diagnostic : Diagnostic) : Bool := diagnostic.severity == .error

def isWarning (diagnostic : Diagnostic) : Bool := diagnostic.severity == .warning

end Diagnostic

/-- A result together with the findings made on the way to it. -/
structure Logged (α : Type) where
  value : α
  log : List Diagnostic := []

def Logged.andThen {α β : Type} (first : Logged α) (next : α → Logged β) : Logged β :=
  ⟨(next first.value).value, first.log ++ (next first.value).log⟩

end TypedRoutes.Route
