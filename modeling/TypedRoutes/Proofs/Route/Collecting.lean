import Mathlib.Logic.Function.Iterate
import TypedRoutes.Proofs.Route.Inputs
import TypedRoutes.Proofs.Route.Table

/-!
How far inputs are read, and what is left of them. A source is asked for one input after another;
how often is told by the number of inputs that are read. Of these only the documents with a path
item count, in their order.
-/

set_option autoImplicit false
set_option relaxedAutoImplicit false

namespace TypedRoutes.Route

open OpenApi (Document PathItem Paths Schema)
open Options (Selection)

/-- Something that is asked for one input after another, and may be another with each answer. -/
structure Source where
  State : Type
  start : State
  next : State → Option (Option Schema) × State

namespace Source

/-- The state of a source that has been asked so many times. -/
def after (source : Source) (asked : Nat) : source.State :=
  (fun state => (source.next state).2)^[asked] source.start

/-- The answers of a source, the first without an input being the end. -/
def inputs (source : Source) : Inputs := fun place => (source.next (source.after place)).1

/-- Collects the paths of at most `budget` inputs that a source still has. -/
def collect (source : Source) (selection : Selection) :
    (budget : Nat) → source.State → Paths → Logged Paths × source.State
  | 0, state, collected =>
    let answer := source.next state
    (⟨collected, if answer.1.isSome then [.inputsUnfinished] else []⟩, answer.2)
  | budget + 1, state, collected =>
    match source.next state with
    | (none, state) => (⟨collected, []⟩, state)
    | (some input, state) =>
      source.collect selection budget state (addInput selection collected input)

private theorem after_succ (source : Source) (asked : Nat) :
    source.after (asked + 1) = (source.next (source.after asked)).2 :=
  Function.iterate_succ_apply' _ asked source.start

end Source

namespace Inputs

/-- At most `budget` inputs from a place on, up to the first place without one. -/
def readFrom (inputs : Inputs) : (budget : Nat) → (place : Nat) → List (Option Schema)
  | 0, _ => []
  | budget + 1, place =>
    match inputs place with
    | none => []
    | some input => input :: inputs.readFrom budget (place + 1)

def read (inputs : Inputs) : List (Option Schema) := inputs.readFrom inputLimit 0

private theorem length_readFrom_le (inputs : Inputs) (budget place : Nat) :
    (inputs.readFrom budget place).length ≤ budget := by
  induction budget generalizing place with
  | zero => exact Nat.le_refl 0
  | succ budget ih =>
    rw [readFrom]
    split
    · exact Nat.zero_le _
    · rw [List.length_cons]
      exact Nat.succ_le_succ (ih (place + 1))

private theorem readFrom_congr {inputs other : Inputs} (budget place : Nat)
    (same : ∀ offset < budget, other (place + offset) = inputs (place + offset)) :
    other.readFrom budget place = inputs.readFrom budget place := by
  induction budget generalizing place with
  | zero => rfl
  | succ budget ih =>
    have here : other place = inputs place := same 0 (Nat.succ_pos budget)
    have later : other.readFrom budget (place + 1) = inputs.readFrom budget (place + 1) := by
      refine ih (place + 1) fun offset h => ?_
      have next := same (offset + 1) (Nat.succ_lt_succ h)
      rwa [Nat.add_comm offset 1, ← Nat.add_assoc] at next
    rw [readFrom, readFrom, here, later]

private theorem readFrom_ofList (inputs : List (Option Schema)) (budget place : Nat)
    (h : inputs.length ≤ place + budget) :
    (Inputs.ofList inputs).readFrom budget place = inputs.drop place := by
  induction budget generalizing place with
  | zero => exact (List.drop_eq_nil_of_le h).symm
  | succ budget ih =>
    unfold readFrom Inputs.ofList
    cases given : inputs[place]? with
    | none => exact (List.drop_eq_nil_of_le (List.getElem?_eq_none_iff.mp given)).symm
    | some input =>
      obtain ⟨inside, rfl⟩ := List.getElem?_eq_some_iff.mp given
      rw [List.drop_eq_getElem_cons inside]
      exact congrArg _ (ih (place + 1) (by omega))

end Inputs

private theorem Source.collect_eq (source : Source) (selection : Selection) (budget place : Nat)
    (collected : Paths) :
    source.collect selection budget (source.after place) collected =
      (collectFrom selection source.inputs budget place collected,
        source.after (place + (source.inputs.readFrom budget place).length + 1)) := by
  induction budget generalizing place collected with
  | zero =>
    rw [collect, collectFrom, Inputs.readFrom, List.length_nil, Nat.add_zero, after_succ]
    rfl
  | succ budget ih =>
    have input : source.inputs place = (source.next (source.after place)).1 := rfl
    have state : source.after (place + 1) = (source.next (source.after place)).2 :=
      source.after_succ place
    rw [collect, collectFrom, Inputs.readFrom, input]
    cases answer : source.next (source.after place) with
    | mk given next =>
      rw [answer] at state
      cases given with
      | none =>
        rw [List.length_nil, Nat.add_zero, state]
      | some schema =>
        have later := ih (place + 1) (addInput selection collected schema)
        rw [state] at later
        rw [List.length_cons, ← Nat.add_assoc, Nat.add_right_comm place _ 1]
        exact later

private theorem Inputs.forall_isSome_succ_iff (inputs : Inputs) (budget place : Nat) :
    (∀ offset ≤ budget + 1, (inputs (place + offset)).isSome) ↔
      (inputs place).isSome ∧ ∀ offset ≤ budget, (inputs (place + 1 + offset)).isSome := by
  constructor
  · intro all
    refine ⟨all 0 (Nat.zero_le _), fun offset h => ?_⟩
    rw [Nat.add_assoc, Nat.add_comm 1 offset]
    exact all (offset + 1) (Nat.succ_le_succ h)
  · rintro ⟨here, later⟩ offset h
    cases offset with
    | zero => exact here
    | succ offset =>
      have next := later offset (Nat.le_of_succ_le_succ h)
      rwa [Nat.add_assoc, Nat.add_comm 1 offset] at next

/-- What is collected comes from the inputs that are read, and more is told of exactly if there is
an input behind them. -/
private theorem collectFrom_eq (selection : Selection) (inputs : Inputs) (budget place : Nat)
    (collected : Paths) :
    collectFrom selection inputs budget place collected =
      ⟨(inputs.readFrom budget place).foldl (addInput selection) collected,
        if ∀ offset ≤ budget, (inputs (place + offset)).isSome then [.inputsUnfinished] else []⟩ := by
  induction budget generalizing place collected with
  | zero => simp [collectFrom, Inputs.readFrom]
  | succ budget ih =>
    rw [collectFrom, Inputs.readFrom]
    cases given : inputs place with
    | none =>
      have ends : ¬ ∀ offset ≤ budget + 1, (inputs (place + offset)).isSome := by
        intro all
        have here := ((inputs.forall_isSome_succ_iff budget place).mp all).1
        rw [given] at here
        cases here
      rw [if_neg ends]
      rfl
    | some input =>
      have goesOn : (∀ offset ≤ budget + 1, (inputs (place + offset)).isSome) ↔
          ∀ offset ≤ budget, (inputs (place + 1 + offset)).isSome := by
        rw [inputs.forall_isSome_succ_iff, given]
        exact and_iff_right rfl
      simp only [ih, List.foldl_cons, goesOn]

/-- The documents of some inputs that have a path item. -/
def documentsOf (inputs : List (Option Schema)) : List Document :=
  inputs.filterMap fun input =>
    (input.map Schema.content).filter fun document => !document.paths.isEmpty

/-- The documents with a path item among the inputs that are read. -/
def Inputs.documents (inputs : Inputs) : List Document := documentsOf inputs.read

/-- Adds the paths of a document that has a path item. -/
def addDocument (selection : Selection) (collected : Paths) (document : Document) : Paths :=
  match selection with
  | .merge => collected.insertMany document.paths.items
  | .last => document.paths

private theorem addInput_eq (selection : Selection) (collected : Paths) (input : Option Schema) :
    addInput selection collected input =
      match (input.map Schema.content).filter fun document => !document.paths.isEmpty with
      | some document => addDocument selection collected document
      | none => collected := by
  unfold addInput OpenApi.inputPaths?
  cases input with
  | none => rfl
  | some schema =>
    cases empty : schema.content.paths.isEmpty with
    | true => simp [Option.filter, empty]
    | false =>
      simp only [Option.map_some, Option.filter, empty, Bool.not_false, if_true]
      rfl

private theorem addInput_of_no_items (selection : Selection) (collected : Paths)
    {input : Option Schema}
    (no_items : ∀ schema, input = some schema → schema.content.paths.items = []) :
    addInput selection collected input = collected := by
  rw [addInput_eq]
  cases input with
  | none => rfl
  | some schema =>
    have empty : schema.content.paths.isEmpty = true :=
      List.isEmpty_iff.mpr (no_items schema rfl)
    simp [Option.filter, empty]

private theorem foldl_addInput (selection : Selection) (inputs : List (Option Schema))
    (collected : Paths) :
    inputs.foldl (addInput selection) collected =
      (documentsOf inputs).foldl (addDocument selection) collected := by
  rw [documentsOf, List.foldl_filterMap]
  refine congrArg (fun step => inputs.foldl step collected)
    (funext fun collected => funext fun input => ?_)
  rw [addInput_eq]
  cases (input.map Schema.content).filter fun document => !document.paths.isEmpty with
  | none => rfl
  | some document => rfl

private theorem foldl_addDocument_merge (documents : List Document) (collected : Paths) :
    documents.foldl (addDocument .merge) collected =
      collected.insertMany (documents.flatMap fun document => document.paths.items) := by
  induction documents generalizing collected with
  | nil => rfl
  | cons document rest ih =>
    rw [List.foldl_cons, ih, List.flatMap_cons]
    simp only [addDocument, Paths.insertMany, List.foldl_append]

private theorem foldl_addDocument_last (documents : List Document) (collected : Paths) :
    documents.foldl (addDocument .last) collected =
      (documents.getLast?.map Document.paths).getD collected := by
  induction documents generalizing collected with
  | nil => rfl
  | cons document rest ih =>
    rw [List.foldl_cons, ih, List.getLast?_cons]
    cases rest.getLast? with
    | none => rfl
    | some last => rfl

private theorem collectPaths_eq (selection : Selection) (inputs : Inputs) :
    collectPaths selection inputs =
      ⟨inputs.documents.foldl (addDocument selection) {},
        if ∀ place ≤ inputLimit, (inputs place).isSome then [.inputsUnfinished] else []⟩ := by
  have collected := collectFrom_eq selection inputs inputLimit 0 {}
  simp only [Nat.zero_add, foldl_addInput] at collected
  exact collected

theorem value_collectPaths_merge (inputs : Inputs) :
    (collectPaths .merge inputs).value =
      .ofList (inputs.documents.flatMap fun document => document.paths.items) := by
  rw [collectPaths_eq]
  exact foldl_addDocument_merge inputs.documents {}

private theorem flatMap_items_documentsOf (schemas : List Schema) :
    ((documentsOf (schemas.map some)).flatMap fun document => document.paths.items) =
      schemas.flatMap fun schema => schema.content.paths.items := by
  induction schemas with
  | nil => rfl
  | cons schema rest ih =>
    rw [List.flatMap_cons, ← ih]
    cases empty : schema.content.paths.isEmpty with
    | true =>
      have nothing : schema.content.paths.items = [] := List.isEmpty_iff.mp empty
      simp [documentsOf, Option.filter, empty, nothing]
    | false => simp [documentsOf, Option.filter, empty]

theorem operations_collectPaths_merge (schemas : List Schema)
    (h : schemas.length ≤ inputLimit) :
    (collectPaths .merge (Inputs.ofSchemas schemas)).value.operations =
      mergedOperations (schemas.map Schema.content) := by
  have read : (Inputs.ofSchemas schemas).read = schemas.map some := by
    refine (Inputs.readFrom_ofList (schemas.map some) inputLimit 0 ?_).trans List.drop_zero
    rwa [List.length_map, Nat.zero_add]
  have merged := items_ofList_flatMap (schemas.map Schema.content)
  rw [List.flatMap_map, ← flatMap_items_documentsOf, ← read] at merged
  unfold Paths.operations mergedOperations
  rw [value_collectPaths_merge, ← merged]
  rfl

theorem value_collectPaths_last (inputs : Inputs) :
    (collectPaths .last inputs).value =
      (inputs.documents.getLast?.map Document.paths).getD {} := by
  rw [collectPaths_eq]
  exact foldl_addDocument_last inputs.documents {}

theorem exists_of_mem_entries_ofList {items : List (String × PathItem)}
    {entry : String × Paths.Entry} (h : entry ∈ (Paths.ofList items).entries.entries) :
    ∃ item ∈ items, entry = (item.1, .item item.2) := by
  unfold Paths.ofList at h
  rw [entries_insertMany] at h
  obtain old | written := mem_writeAll h
  · cases old
  · obtain ⟨item, hm, rfl⟩ := List.mem_map.mp written
    exact ⟨item, hm, rfl⟩

private theorem operations_ofList_items (paths : Paths) :
    (Paths.ofList paths.items).operations = paths.operations := by
  unfold Paths.operations
  rw [items_ofList_of_nodup paths.nodup_items]

private theorem ofInputs_merge_eq_last {inputs : Inputs} (one : inputs.documents.length ≤ 1) :
    Table.ofInputs .merge inputs = Table.ofInputs .last inputs := by
  have operations : (collectPaths .merge inputs).value.operations =
      (collectPaths .last inputs).value.operations := by
    rw [value_collectPaths_merge, value_collectPaths_last]
    -- one document alone keeps its path items when they are written into empty paths
    cases documents : inputs.documents with
    | nil => rfl
    | cons document rest =>
      have alone : rest = [] := by
        rw [documents, List.length_cons] at one
        exact List.eq_nil_of_length_eq_zero (by omega)
      rw [alone, List.flatMap_singleton, operations_ofList_items]
      rfl
  have log : (collectPaths .merge inputs).log = (collectPaths .last inputs).log := by
    rw [collectPaths_eq, collectPaths_eq]
  simp only [Table.ofInputs, Logged.andThen, Table.ofPaths_eq, operations, log]

private theorem documents_congr {inputs other : Inputs}
    (same : ∀ place < inputLimit, other place = inputs place) :
    other.documents = inputs.documents := by
  have read : other.read = inputs.read := by
    refine Inputs.readFrom_congr inputLimit 0 fun offset h => ?_
    rw [Nat.zero_add]
    exact same offset h
  rw [Inputs.documents, Inputs.documents, read]

/--
A source is asked once for each input that is read, at most as many as the limit, and once more. What
is collected from it is told by the inputs before the limit. Merged, these are the path items of the
inputs, template by template as the templates first come, each as the last input has it, and no
extension is left; otherwise they are all paths of the last input with a path item. An input without
a path item changes nothing. That not all was read is told exactly if there is an input at the
limit. With no more than one document that has a path item, the selection does not matter.
-/
theorem collectPaths_reads_first_inputs (source : Source) :
    (∀ selection : Selection, source.collect selection inputLimit source.start {} =
      (collectPaths selection source.inputs, source.after (source.inputs.read.length + 1))) ∧
    source.inputs.read.length ≤ inputLimit ∧
    (∀ (selection : Selection) (other : Inputs),
      (∀ place < inputLimit, other place = source.inputs place) →
        (collectPaths selection other).value = (collectPaths selection source.inputs).value) ∧
    (collectPaths .merge source.inputs).value.items = mergedItems source.inputs.documents ∧
    (∀ entry ∈ (collectPaths .merge source.inputs).value.entries.entries,
      entry.2.isExtension = false) ∧
    (collectPaths .last source.inputs).value =
      (source.inputs.documents.getLast?.map Document.paths).getD {} ∧
    (∀ (selection : Selection) (collected : Paths) (input : Option Schema),
      (∀ schema, input = some schema → schema.content.paths.items = []) →
        addInput selection collected input = collected) ∧
    (∀ selection : Selection, (collectPaths selection source.inputs).log =
      if ∀ place ≤ inputLimit, (source.inputs place).isSome then [.inputsUnfinished] else []) ∧
    (source.inputs.documents.length ≤ 1 →
      Table.ofInputs .merge source.inputs = Table.ofInputs .last source.inputs) := by
  have items := items_ofList_flatMap source.inputs.documents
  rw [← value_collectPaths_merge] at items
  refine ⟨?asked, Inputs.length_readFrom_le _ _ _, ?first, items, ?items,
    value_collectPaths_last _, ?nothing, ?told, ofInputs_merge_eq_last⟩
  case asked =>
    intro selection
    have whole := source.collect_eq selection inputLimit 0 {}
    rwa [Nat.zero_add] at whole
  case first =>
    intro selection other same
    rw [collectPaths_eq, collectPaths_eq, documents_congr same]
  case items =>
    intro entry hm
    rw [value_collectPaths_merge] at hm
    obtain ⟨item, -, rfl⟩ := exists_of_mem_entries_ofList hm
    rfl
  case nothing =>
    intro selection collected input no_items
    exact addInput_of_no_items selection collected no_items
  case told =>
    intro selection
    rw [collectPaths_eq]

def Source.ofList (inputs : List (Option Schema)) : Source where
  State := List (Option Schema)
  start := inputs
  next rest := (rest.head?, rest.tail)

def notesSchema : Schema where
  id := "notes.json"
  content.paths.entries := .ofList [("x-note", .extension .null)]

def petsSchema : Schema where
  id := "pets.json"
  content.paths.entries := .ofList
    [("x-tags", .extension (.bool true)), ("/pets", .item ⟨[.operation .get (.withId "findPets")]⟩)]

/-- One document with a path item among inputs without any. -/
def petsSource : Source := .ofList [none, some notesSchema, some petsSchema, none]

/-- The inputs before the limit are those of the pets; behind it the inputs never end. -/
def petsInputsThenEndless : Inputs := fun place =>
  if place < inputLimit then petsSource.inputs place else some none

theorem collectPaths_reads_first_inputs_pets :
    (petsSource.collect .merge inputLimit petsSource.start {}).2 = petsSource.after 5 ∧
    (collectPaths .merge petsInputsThenEndless).value.items.map Prod.fst = ["/pets"] ∧
    (collectPaths .last petsInputsThenEndless).value = petsSchema.content.paths ∧
    (∀ collected : Paths, addInput .last collected (some notesSchema) = collected) ∧
    (collectPaths .last petsSource.inputs).log = [] ∧
    Table.ofInputs .merge petsSource.inputs = Table.ofInputs .last petsSource.inputs := by
  obtain ⟨asked, -, first, merged, -, last, nothing, told, same⟩ :=
    collectPaths_reads_first_inputs petsSource
  have agree : ∀ place < inputLimit, petsInputsThenEndless place = petsSource.inputs place :=
    fun place before => if_pos before
  have read : petsSource.inputs.read = [none, some notesSchema, some petsSchema, none] := rfl
  have documents : petsSource.inputs.documents = [petsSchema.content] := rfl
  have ends : ¬ ∀ place ≤ inputLimit, (petsSource.inputs place).isSome := by
    intro all
    have given := all 4 (by decide)
    cases given
  refine ⟨?_, ?_, ?_, fun collected => ?_, ?_, same (by rw [documents]; decide)⟩
  · rw [asked, read]
    rfl
  · rw [first .merge _ agree, merged, documents]
    decide +kernel
  · rw [first .last _ agree, last, documents]
    rfl
  · refine nothing .last collected _ fun schema given => ?_
    cases given
    rfl
  · rw [told, if_neg ends]

end TypedRoutes.Route
