import Mathlib.Data.List.Nodup
import TypedRoutes.Proofs.Pipeline
import TypedRoutes.Proofs.Route.Collision
import TypedRoutes.Proofs.Route.Findings

/-!
Documents that are read in another order. Where they share no template and no two operations share
a lookup key, their order is of no consequence: the merged operations are the same but for their
order, a name is answered by at most one of them, and a tree gets what the answers say.
-/

set_option autoImplicit false
set_option relaxedAutoImplicit false

namespace TypedRoutes

namespace Route

open Declaration (Statement Tree)
open OpenApi (Document Method Operation PathItem Paths Schema)
open Options (Config)

def templates (document : Document) : List String := document.paths.items.map Prod.fst

/-- Whether no two of some documents have a template in common. -/
def TemplatesApart (schemas : List Schema) : Prop :=
  schemas.Pairwise fun schema other => (templates schema.content).Disjoint (templates other.content)

/-- Whether documents are others in some order, each with its path items in some order. -/
def Reordered (schemas reordered : List Schema) : Prop :=
  ∃ arranged, schemas.Perm arranged ∧
    List.Forall₂ (fun schema other =>
      schema.content.paths.items.Perm other.content.paths.items) arranged reordered

/-- The path items of some documents, one document behind the other. -/
def allItems (schemas : List Schema) : List (String × PathItem) :=
  schemas.flatMap fun schema => schema.content.paths.items

/-- The operations of some documents, one document behind the other. -/
def allOperations (schemas : List Schema) : List (String × Method × Operation) :=
  schemas.flatMap fun schema => schema.content.paths.operations

private theorem allOperations_eq (schemas : List Schema) :
    allOperations schemas = (allItems schemas).flatMap fun item =>
      item.2.operations.map fun operation => (item.1, operation.1, operation.2) :=
  List.flatMap_assoc.symm

private theorem allItems_completeSchemas (schemas : List Schema) :
    allItems (completeSchemas schemas).value = (allItems schemas).map fun item =>
      (item.1, item.2.mapOperations (completeOperation item.1)) := by
  unfold allItems
  rw [completeSchemas_eq, List.flatMap_map, List.map_flatMap]
  refine List.flatMap_congr fun schema _ => ?_
  rw [completeDocument_eq]
  exact Paths.items_mapItems _ schema.content.paths

private theorem nodup_allItems_of_apart {schemas : List Schema} (apart : TemplatesApart schemas) :
    ((allItems schemas).map Prod.fst).Nodup := by
  unfold allItems
  rw [List.map_flatMap, List.nodup_flatMap]
  exact ⟨fun schema _ => schema.content.paths.nodup_items, apart⟩

namespace Reordered

variable {schemas reordered : List Schema}

theorem length_eq (h : Reordered schemas reordered) : reordered.length = schemas.length := by
  obtain ⟨arranged, perm, inside⟩ := h
  exact inside.length_eq.symm.trans perm.length_eq.symm

private theorem allItems_perm (h : Reordered schemas reordered) :
    (allItems schemas).Perm (allItems reordered) := by
  obtain ⟨arranged, perm, inside⟩ := h
  have documents : (allItems schemas).Perm (allItems arranged) := perm.flatMap_right _
  refine documents.trans ?_
  clear perm documents
  -- The documents now stand in their new order; within each the items are rearranged in turn.
  induction inside with
  | nil => exact .nil
  | cons items _ ih => exact items.append ih

private theorem completed_perm (h : Reordered schemas reordered) :
    (allItems (completeSchemas schemas).value).Perm (allItems (completeSchemas reordered).value) := by
  rw [allItems_completeSchemas, allItems_completeSchemas]
  exact h.allItems_perm.map _

end Reordered

private theorem answersTo_iff {name : String} {operation : String × Method × Operation} :
    answersTo name operation ↔
      ∃ id, operation.2.2.id? = some id ∧ lookupKey id = lookupKey name := by
  unfold answersTo
  cases operation.2.2.id? <;> simp

private theorem length_filter_answersTo_le_one {operations : List (String × Method × Operation)}
    (apart : (operationKeys operations).Nodup) (name : String) :
    (operations.filter (answersTo name)).length ≤ 1 := by
  have keys : operationKeys (operations.filter (answersTo name)) =
      List.replicate (operations.filter (answersTo name)).length (lookupKey name) := by
    unfold operationKeys
    rw [← List.map_const', ← List.filterMap_eq_map]
    refine List.filterMap_congr fun operation hm => ?_
    obtain ⟨id, hid, same⟩ := answersTo_iff.mp (List.mem_filter.mp hm).2
    rw [hid, Option.map_some, same]
    rfl
  have inside : (operationKeys (operations.filter (answersTo name))).Sublist
      (operationKeys operations) := List.filter_sublist.filterMap _
  have nodup := apart.sublist inside
  rw [keys] at nodup
  exact List.nodup_replicate.mp nodup

private theorem lastOperation?_eq_of_perm
    {operations reordered : List (String × Method × Operation)}
    (apart : (operationKeys operations).Nodup) (perm : operations.Perm reordered)
    (name : String) : lastOperation? name operations = lastOperation? name reordered := by
  have answering := perm.filter (answersTo name)
  have single := length_filter_answersTo_le_one apart name
  unfold lastOperation?
  generalize operations.filter (answersTo name) = found at answering single
  match found with
  | [] => rw [answering.nil_eq]
  | [operation] => rw [List.singleton_perm.mp answering]
  | _ :: _ :: _ => simp at single

private theorem transform_eq_of_lookup?_eq (config : Config) {table other : Table}
    (same : ∀ name, table.lookup? name = other.lookup? name) (tree : Tree) :
    Transformer.transform ⟨config, table⟩ tree = Transformer.transform ⟨config, other⟩ tree := by
  have path (container : String) : appendToPath container table config =
      appendToPath container other config := by
    funext path
    simp only [appendToPath, additions, same]
  have member (container : String) : appendToMember container table config =
      appendToMember container other config := by
    funext statement
    cases statement <;> simp only [appendToMember, path]
  have container : appendToContainer table config = appendToContainer other config := by
    funext container
    simp only [appendToContainer, member]
  have statement : appendToStatement table config = appendToStatement other config := by
    funext statement
    cases statement <;> simp only [appendToStatement, container]
  simp only [Transformer.transform, statement]

end Route

namespace Pipeline

open Declaration (Tree)
open OpenApi (Schema)
open Options (Config)
open Route (Diagnostic Table Transformer)

def Context.appendFindings (context : Context) : List Diagnostic :=
  context.diagnostics.filter fun finding => finding.phase == Phase.append.name

private theorem filter_phase_eq_nil {findings : List Diagnostic} {phase : Phase}
    (others : ∀ finding ∈ findings, finding.phase ≠ phase.name) :
    findings.filter (fun finding => finding.phase == phase.name) = [] :=
  List.filter_eq_nil_iff.mpr fun finding hm same => others finding hm (beq_iff_eq.mp same)

private theorem appendFindings_run_all {context result : Context} {config : Config} {tree : Tree}
    (enabled : Config.ofOption? context.option = some config)
    (attached : context.tree = some tree) (ran : run context Phase.all = .ok result) :
    result.appendFindings = context.appendFindings ++
      ((transformerOf config context.schemas).transform tree).log.filter fun finding =>
        finding.phase == Phase.append.name := by
  have transformer := value_postProcess enabled
    (Route.Inputs.ofSchemas (Route.Plugin.preProcess context.schemas).value)
  have completing : ∀ finding ∈ (Route.Plugin.preProcess context.schemas).log,
      finding.phase ≠ Phase.append.name := by
    intro finding hm
    rw [Route.phase_of_mem_log_completeSchemas hm]
    decide
  have resolving : ∀ finding ∈ (Route.Plugin.postProcess context.option (Route.Inputs.ofSchemas
      (Route.Plugin.preProcess context.schemas).value)).log,
        finding.phase ≠ Phase.append.name := by
    intro finding hm
    obtain phase | phase := Route.Plugin.phase_of_mem_log_postProcess hm
    · rw [phase]
      decide
    · rw [phase]
      decide
  simp only [run, Phase.all, Phase.run, attached, transformer, Except.ok.injEq] at ran
  subst ran
  simp only [Context.appendFindings, List.filter_append, filter_phase_eq_nil completing,
    filter_phase_eq_nil resolving, List.append_nil]
  rfl

private theorem lookup?_transformerOf_of_apart {config : Config} {schemas : List Schema}
    (merge : config.selection = .merge) (bounded : schemas.length ≤ 1024)
    (nodup : ((Route.allItems (Route.completeSchemas schemas).value).map Prod.fst).Nodup)
    (name : String) :
    (transformerOf config schemas).table.lookup? name =
      (Route.lastOperation? name
        (Route.allOperations (Route.completeSchemas schemas).value)).bind Route.recordOf? := by
  have items : (((Route.completeSchemas schemas).value.map Schema.content).flatMap
      fun document => document.paths.items).map Prod.fst =
        (Route.allItems (Route.completeSchemas schemas).value).map Prod.fst := by
    rw [List.flatMap_map]
    rfl
  rw [lookup?_transformerOf merge bounded, Route.mergedOperations_of_nodup (items ▸ nodup),
    List.flatMap_map]
  rfl

/--
The order of documents that have no template in common and whose completed operations have
different lookup keys is of no consequence, nor is the order of the templates within them: full runs
over the two make the same tree, find the same on additions, and leave tables that answer alike.
-/
theorem run_all_of_reordered {context : Context} {config : Config} {tree : Tree}
    {reordered : List Schema} (enabled : Config.ofOption? context.option = some config)
    (merge : config.selection = .merge) (attached : context.tree = some tree)
    (bounded : context.schemas.length ≤ 1024) (apart : Route.TemplatesApart context.schemas)
    (keys : (Route.operationKeys
      (Route.allOperations (Route.completeSchemas context.schemas).value)).Nodup)
    (order : Route.Reordered context.schemas reordered) :
    ∃ first second transformer transformer',
      run context Phase.all = .ok first ∧
      run { context with schemas := reordered } Phase.all = .ok second ∧
      first.tree.isSome ∧ first.tree = second.tree ∧
      first.appendFindings = second.appendFindings ∧
      first.transformer = some transformer ∧ second.transformer = some transformer' ∧
      ∀ name, transformer.table.lookup? name = transformer'.table.lookup? name := by
  obtain ⟨first, ran, -, transformer, extended⟩ := run_all enabled attached
  obtain ⟨second, ran', -, transformer', extended'⟩ :=
    @run_all { context with schemas := reordered } config tree enabled attached
  -- Completion writes ids and touches no template, so the documents stay apart.
  have templates : ((Route.allItems (Route.completeSchemas context.schemas).value).map
      Prod.fst).Nodup := by
    rw [Route.allItems_completeSchemas, List.map_map]
    exact Route.nodup_allItems_of_apart apart
  have items := order.completed_perm
  have operations : (Route.allOperations (Route.completeSchemas context.schemas).value).Perm
      (Route.allOperations (Route.completeSchemas reordered).value) := by
    rw [Route.allOperations_eq, Route.allOperations_eq]
    exact items.flatMap_right _
  have answers (name : String) : (transformerOf config context.schemas).table.lookup? name =
      (transformerOf config reordered).table.lookup? name := by
    rw [lookup?_transformerOf_of_apart merge bounded templates,
      lookup?_transformerOf_of_apart merge (order.length_eq ▸ bounded)
        ((items.map Prod.fst).nodup_iff.mp templates),
      Route.lastOperation?_eq_of_perm keys operations]
  have grown : (transformerOf config context.schemas).transform tree =
      (transformerOf config reordered).transform tree :=
    Route.transform_eq_of_lookup?_eq config answers tree
  refine ⟨first, second, _, _, ran, ran', ?_, ?_, ?_, transformer, transformer', answers⟩
  · rw [extended]
    rfl
  · rw [extended, extended', grown]
  · rw [appendFindings_run_all enabled attached ran,
      @appendFindings_run_all { context with schemas := reordered } second config tree enabled
        attached ran', grown]
    rfl

/-- Three templates in two documents; two of the operations get their ids on the way. -/
def orderedSchemas : List Schema :=
  [⟨"pets.json", ⟨.empty, .ofList [("/pets", ⟨[.operation .get (.withId "findPets")]⟩),
      ("/pets/{id}", ⟨[.operation .get {}]⟩)]⟩⟩,
    ⟨"stores.json", ⟨.empty, .ofList [("/stores", ⟨[.operation .put {}]⟩)]⟩⟩]

def reversedSchemas : List Schema :=
  [⟨"stores.json", ⟨.empty, .ofList [("/stores", ⟨[.operation .put {}]⟩)]⟩⟩,
    ⟨"pets.json", ⟨.empty, .ofList [("/pets/{id}", ⟨[.operation .get {}]⟩),
      ("/pets", ⟨[.operation .get (.withId "findPets")]⟩)]⟩⟩]

private theorem reordered_reversedSchemas : Route.Reordered orderedSchemas reversedSchemas := by
  refine ⟨_, .swap _ _ _, .cons (.refl _) (.cons ?_ .nil)⟩
  exact .swap _ _ _

theorem run_all_of_reordered_pets :
    Route.TemplatesApart orderedSchemas ∧
    (Route.operationKeys
      (Route.allOperations (Route.completeSchemas orderedSchemas).value)).Nodup ∧
    Route.Reordered orderedSchemas reversedSchemas ∧ ∃ first second,
      run { petsContext with schemas := orderedSchemas } Phase.all = .ok first ∧
      run { petsContext with schemas := reversedSchemas } Phase.all = .ok second ∧
      first.tree.isSome ∧ first.tree = second.tree ∧
      first.appendFindings = second.appendFindings := by
  have apart : Route.TemplatesApart orderedSchemas := by
    refine List.pairwise_pair.mpr fun template first second => ?_
    have others : ∀ template ∈ ["/pets", "/pets/{id}"], template ∉ ["/stores"] := by decide
    exact others template first second
  have keys : (Route.operationKeys
      (Route.allOperations (Route.completeSchemas orderedSchemas).value)).Nodup := by
    decide +kernel
  obtain ⟨first, second, _, _, ran, ran', made, sameTree, sameFindings, -⟩ :=
    @run_all_of_reordered { petsContext with schemas := orderedSchemas } {} _ reversedSchemas
      rfl rfl rfl (by decide) apart keys reordered_reversedSchemas
  exact ⟨apart, keys, reordered_reversedSchemas, first, second, ran, ran', made, sameTree,
    sameFindings⟩

end Pipeline

end TypedRoutes
