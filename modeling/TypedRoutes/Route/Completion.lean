import TypedRoutes.OpenApi.Document
import TypedRoutes.Route.Diagnostic

/-!
Completion of documents: every operation without an id gets one, and nothing else changes.
-/

set_option autoImplicit false
set_option relaxedAutoImplicit false

namespace TypedRoutes.Route

open OpenApi (Document Method Operation PathItem Paths Schema)

/-- What is kept while ids are made: the findings, and the number of the ids. -/
structure Tally where
  log : List Diagnostic := []
  made : Nat := 0

/-- Gives an operation an id if it has none; the id is told and counted. -/
def tallyOperation (template : String) (method : Method) (operation : Operation)
    (tally : Tally) : Operation × Tally :=
  if operation.id?.isSome then (operation, tally)
  else
    let id := synthesizeId method template
    (operation.setId id, ⟨tally.log ++ [.idSynthesized method template id], tally.made + 1⟩)

/-- Gives an id to every operation of a document that has none. There may be findings already; the
ids are counted from zero. -/
def tallyDocument (document : Document) (log : List Diagnostic) : Document × Tally :=
  let (paths, tally) := document.paths.visitItems
    (fun template item => item.visitOperations (tallyOperation template)) { log := log }
  ({ document with paths := paths }, tally)

def completeDocument (document : Document) : Logged Document :=
  let (document, tally) := tallyDocument document []
  ⟨document, tally.log⟩

def tallySchema (schema : Schema) (log : List Diagnostic) : Schema × List Diagnostic :=
  let (content, tally) := tallyDocument schema.content log
  ({ schema with content := content }, tally.log)

def completeSchemas (schemas : List Schema) : Logged (List Schema) :=
  let (schemas, log) := visitAll tallySchema schemas []
  ⟨schemas, log⟩

end TypedRoutes.Route
