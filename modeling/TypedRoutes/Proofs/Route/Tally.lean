import TypedRoutes.Proofs.OpenApi.Paths
import TypedRoutes.Route.Completion

/-!
The loop that makes ids, taken apart: what becomes of the operations does not depend on the findings
that there are, every id that is made is told once, and as many are counted as are told.
-/

set_option autoImplicit false
set_option relaxedAutoImplicit false

namespace TypedRoutes.Route

open OpenApi (Document Method Operation PathItem Paths Schema)

/-- An operation with an id: its own, or one made from method and template. -/
def completeOperation (template : String) (method : Method) (operation : Operation) : Operation :=
  if operation.id?.isSome then operation else operation.setId (synthesizeId method template)

def completePaths (paths : Paths) : Paths :=
  paths.mapItems fun template item => item.mapOperations (completeOperation template)

/-- The operations without an id, with their templates, in document order. -/
def operationsWithoutId (paths : Paths) : List (String × Method × Operation) :=
  paths.operations.filter fun operation => operation.2.2.id?.isNone

def completionFinding (operation : String × Method × Operation) : Diagnostic :=
  .idSynthesized operation.2.1 operation.1 (synthesizeId operation.2.1 operation.1)

def completionFindings (operation : String × Method × Operation) : List Diagnostic :=
  if operation.2.2.id?.isSome then [] else [completionFinding operation]

private theorem flatMap_completionFindings (paths : Paths) :
    paths.operations.flatMap completionFindings =
      (operationsWithoutId paths).map completionFinding := by
  unfold operationsWithoutId completionFindings
  induction paths.operations with
  | nil => rfl
  | cons operation rest ih =>
    rw [List.flatMap_cons, ih]
    cases h : operation.2.2.id? <;> simp [h]

def Tally.add (tally : Tally) (told : List Diagnostic) : Tally :=
  ⟨tally.log ++ told, tally.made + told.length⟩

private theorem Tally.gathers_add : Gathers Tally.add where
  nil tally := congrArg (Tally.mk · _) (List.append_nil _)
  append tally front back := by
    simp only [add, List.append_assoc, List.length_append, Nat.add_assoc]

private theorem tallyOperation_eq (template : String) (method : Method) (operation : Operation)
    (tally : Tally) :
    tallyOperation template method operation tally =
      (completeOperation template method operation,
        tally.add (completionFindings (template, method, operation))) := by
  unfold tallyOperation completeOperation completionFindings
  split
  · exact congrArg (Prod.mk _) (Tally.gathers_add.nil tally).symm
  · rfl

/-- The loop makes an id for each operation without one, tells of it, and counts it. -/
theorem tallyDocument_eq (document : Document) (log : List Diagnostic) :
    tallyDocument document log =
      (document.mapPaths completePaths,
        ⟨log ++ (operationsWithoutId document.paths).map completionFinding,
          (operationsWithoutId document.paths).length⟩) := by
  have ofItem (template : String) (item : PathItem) (tally : Tally) :=
    PathItem.visitOperations_eq Tally.gathers_add (tallyOperation_eq template) item tally
  -- the operations are visited as they are listed: item by item
  have all := flatMap_completionFindings document.paths
  unfold Paths.operations at all
  rw [List.flatMap_assoc] at all
  simp only [List.flatMap_map] at all
  rw [tallyDocument, Paths.visitItems_eq Tally.gathers_add ofItem, all]
  simp only [Tally.add, List.length_map, Nat.zero_add]
  rfl

theorem completeDocument_eq (document : Document) :
    completeDocument document =
      ⟨document.mapPaths completePaths,
        (operationsWithoutId document.paths).map completionFinding⟩ := by
  rw [completeDocument, tallyDocument_eq]
  rfl

theorem made_tallyDocument (document : Document) :
    (tallyDocument document []).2.made = (completeDocument document).log.length := by
  rw [completeDocument_eq, tallyDocument_eq, List.length_map]

theorem completeSchemas_eq (schemas : List Schema) :
    completeSchemas schemas =
      ⟨schemas.map fun schema => { schema with content := (completeDocument schema.content).value },
        schemas.flatMap fun schema => (completeDocument schema.content).log⟩ := by
  have gathers : Gathers (fun log told : List Diagnostic => log ++ told) :=
    ⟨List.append_nil, fun log front back => (List.append_assoc log front back).symm⟩
  have step (schema : Schema) (log : List Diagnostic) :
      tallySchema schema log = ({ schema with content := (completeDocument schema.content).value },
        log ++ (completeDocument schema.content).log) := by
    rw [tallySchema, tallyDocument_eq, completeDocument_eq]
  rw [completeSchemas, visitAll_eq gathers step]
  rfl

theorem exists_of_mem_log_completeSchemas {schemas : List Schema} {finding : Diagnostic}
    (h : finding ∈ (completeSchemas schemas).log) :
    ∃ operation, finding = completionFinding operation := by
  rw [completeSchemas_eq] at h
  obtain ⟨schema, -, h⟩ := List.mem_flatMap.mp h
  rw [completeDocument_eq] at h
  obtain ⟨operation, -, rfl⟩ := List.mem_map.mp h
  exact ⟨operation, rfl⟩

end TypedRoutes.Route
