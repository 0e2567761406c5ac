import TypedRoutes.Proofs.OpenApi.Fidelity

/-!
The methods of a path item. A decoded item has one operation for each key that names a method,
repeated keys included, and an operation that is written replaces the first one of its method only.
So a method stands in an item as often as its key stood in the object that the item comes from, and
writing operations adds no second one.
-/

set_option autoImplicit false
set_option relaxedAutoImplicit false

namespace TypedRoutes.OpenApi

open Json (Reading bind_eq_ok_iff map_eq_ok_iff)

namespace PathItem

def methods (item : PathItem) : List Method := item.operations.map Prod.fst

/-- Writes operations under their methods one after another. -/
def withOperations (item : PathItem) (writes : List (Method × Operation)) : PathItem :=
  writes.foldl (fun item write => item.withOperation write.1 write.2) item

/-- Entries before and after an operation is written: over the first of its method, or behind all
entries if none has that method. -/
inductive Writes (method : Method) (operation : Operation) : List Entry → List Entry → Prop
  | inPlace {front back : List Entry} (old : Operation)
      (first : ∀ entry ∈ front, entry.isOf method = false) :
      Writes method operation (front ++ .operation method old :: back)
        (front ++ .operation method operation :: back)
  | behind {entries : List Entry} (absent : ∀ entry ∈ entries, entry.isOf method = false) :
      Writes method operation entries (entries ++ [.operation method operation])

def operationsOf (item : PathItem) (method : Method) : List Operation :=
  (item.operations.filter fun operation => operation.1 == method).map Prod.snd

theorem operation?_eq_head? (item : PathItem) (method : Method) :
    item.operation? method = (item.operationsOf method).head? := by
  unfold operation? operationsOf
  rw [List.head?_map, List.head?_filter]

private theorem length_operationsOf (item : PathItem) (method : Method) :
    (item.operationsOf method).length = item.methods.count method := by
  unfold operationsOf methods
  rw [List.length_map, List.count, List.countP_map, List.countP_eq_length_filter]
  rfl

namespace Entry

private theorem isOf_eq_true_iff {entry : Entry} {method : Method} :
    entry.isOf method = true ↔ ∃ operation, entry = .operation method operation := by
  cases entry with
  | operation other operation =>
    constructor
    · intro h
      obtain rfl : other = method := beq_iff_eq.mp h
      exact ⟨operation, rfl⟩
    · rintro ⟨_, h⟩
      cases h
      exact beq_self_eq_true method
  | field key value no_method => simp [isOf]

private theorem filter_operations_eq_nil {entries : List Entry} {method : Method}
    (absent : ∀ entry ∈ entries, entry.isOf method = false) :
    (entries.filterMap operation?).filter (fun operation => operation.1 == method) = [] := by
  refine List.filter_eq_nil_iff.mpr fun operation hm => ?_
  obtain ⟨entry, hentry, shown⟩ := List.mem_filterMap.mp hm
  have other := absent entry hentry
  cases entry with
  | operation own content =>
    cases shown
    exact Bool.eq_false_iff.mp other
  | field key value no_method => cases shown

end Entry

theorem writes_writeOperation (method : Method) (operation : Operation) (entries : List Entry) :
    Writes method operation entries (writeOperation method operation entries) := by
  induction entries with
  | nil => exact Writes.behind fun entry none => nomatch none
  | cons entry rest ih =>
    unfold writeOperation
    split
    case isTrue own =>
      obtain ⟨old, rfl⟩ := Entry.isOf_eq_true_iff.mp own
      exact @Writes.inPlace method operation [] rest old fun entry none => nomatch none
    case isFalse other =>
      have other := Bool.eq_false_iff.mpr other
      generalize writeOperation method operation rest = after at ih
      cases ih with
      | inPlace old first => exact Writes.inPlace old (List.forall_mem_cons.mpr ⟨other, first⟩)
      | behind absent => exact Writes.behind (List.forall_mem_cons.mpr ⟨other, absent⟩)

/-- The written operation takes the place of the first of its method; the others of its method, if
there are any, stay behind it. -/
theorem operationsOf_withOperation (item : PathItem) (method : Method) (operation : Operation) :
    (item.withOperation method operation).operationsOf method =
      operation :: (item.operationsOf method).tail := by
  unfold operationsOf operations withOperation
  have written := writes_writeOperation method operation item.entries
  generalize item.entries = entries at written
  generalize writeOperation method operation entries = after at written
  cases written with
  | inPlace old first =>
    have front := Entry.filter_operations_eq_nil first
    simp [List.filterMap_append, List.filter_append, front, Entry.operation?]
  | behind absent =>
    have none := Entry.filter_operations_eq_nil absent
    simp [List.filterMap_append, List.filter_append, none, Entry.operation?]

theorem operationsOf_withOperation_eq_singleton_iff (item : PathItem) (method : Method)
    (operation : Operation) :
    (item.withOperation method operation).operationsOf method = [operation] ↔
      item.methods.count method ≤ 1 := by
  rw [operationsOf_withOperation, ← length_operationsOf]
  cases item.operationsOf method with
  | nil => simp
  | cons first others => simp [List.length_eq_zero_iff]

private theorem methods_withOperation (item : PathItem) (method : Method) (operation : Operation) :
    (item.withOperation method operation).methods =
      item.methods ++ if method ∈ item.methods then [] else [method] := by
  unfold methods operations withOperation
  have written := writes_writeOperation method operation item.entries
  generalize item.entries = entries at written
  generalize writeOperation method operation entries = after at written
  cases written with
  | inPlace old first => simp [List.filterMap_append, Entry.operation?]
  | behind absent =>
    have none := Entry.filter_operations_eq_nil absent
    have fresh : method ∉ (entries.filterMap Entry.operation?).map Prod.fst := by
      intro present
      obtain ⟨own, hm, same⟩ := List.mem_map.mp present
      exact List.filter_eq_nil_iff.mp none own hm (beq_iff_eq.mpr same)
    simp only [List.filterMap_append, List.map_append, if_neg fresh]
    rfl

private theorem nodup_methods_withOperation_iff (item : PathItem) (method : Method)
    (operation : Operation) :
    (item.withOperation method operation).methods.Nodup ↔ item.methods.Nodup := by
  rw [methods_withOperation]
  split
  case isTrue => rw [List.append_nil]
  case isFalse fresh =>
    rw [List.nodup_append]
    constructor
    · exact And.left
    · intro nodup
      refine ⟨nodup, by simp, fun own hm other hother same => ?_⟩
      rw [List.mem_singleton.mp hother] at same
      exact fresh (same ▸ hm)

/-- No sequence of writes makes or mends a repetition. -/
theorem nodup_methods_withOperations_iff (item : PathItem) (writes : List (Method × Operation)) :
    (item.withOperations writes).methods.Nodup ↔ item.methods.Nodup := by
  induction writes generalizing item with
  | nil => exact Iff.rfl
  | cons write rest ih =>
    exact (ih _).trans (nodup_methods_withOperation_iff item write.1 write.2)

theorem count_methods_withOperations (item : PathItem) (writes : List (Method × Operation))
    (method : Method) :
    (item.withOperations writes).methods.count method =
      max (item.methods.count method) (if method ∈ writes.map Prod.fst then 1 else 0) := by
  induction writes generalizing item with
  | nil => simp [withOperations]
  | cons write rest ih =>
    obtain ⟨own, operation⟩ := write
    refine (ih (item.withOperation own operation)).trans ?_
    rw [methods_withOperation, List.count_append, List.map_cons]
    by_cases same : method = own
    · subst same
      by_cases present : method ∈ item.methods
      · have once : 1 ≤ item.methods.count method := List.count_pos_iff.mpr present
        simp only [if_pos present, List.count_nil, List.mem_cons, true_or, if_true]
        split <;> omega
      · have absent : item.methods.count method = 0 := List.count_eq_zero.mpr present
        simp only [if_neg present, absent, List.count_singleton_self, List.mem_cons, true_or,
          if_true]
        split <;> omega
    · have other : (if own ∈ item.methods then [] else [own]).count method = 0 := by
        split
        · rfl
        · simp [Ne.symm same]
      simp only [other, Nat.add_zero, List.mem_cons, same, false_or]

private theorem methods_of_entriesOfReadings {fields : List (String × Reading)}
    {entries : List Entry} (reads : entriesOfReadings fields = .ok entries) :
    (PathItem.mk entries).methods = (fields.map Prod.fst).filterMap Method.ofKey? := by
  unfold methods operations
  induction fields generalizing entries with
  | nil =>
    cases reads
    rfl
  | cons field rest ih =>
    obtain ⟨key, reading⟩ := field
    obtain ⟨entry, first, reads⟩ := bind_eq_ok_iff.mp reads
    obtain ⟨others, later, last⟩ := bind_eq_ok_iff.mp reads
    cases last
    have tail := ih later
    cases named : Method.ofKey? key with
    | none =>
      rw [Entry.ofReading_of_none named] at first
      obtain ⟨value, -, rfl⟩ := map_eq_ok_iff.mp first
      exact tail.trans (List.filterMap_cons_none named).symm
    | some method =>
      rw [Entry.ofReading_of_some named] at first
      obtain ⟨operation, -, rfl⟩ := map_eq_ok_iff.mp first
      exact (congrArg (method :: ·) tail).trans (List.filterMap_cons_some named).symm

theorem methods_of_ofReading {fields : List (String × Reading)} {stop : Option Json.SyntaxError}
    {item : PathItem} (read : PathItem.ofReading (.object fields stop) = .ok item) :
    item.methods = (fields.map Prod.fst).filterMap Method.ofKey? := by
  obtain ⟨entries, reads, read⟩ := bind_eq_ok_iff.mp read
  obtain ⟨-, -, read⟩ := bind_eq_ok_iff.mp read
  cases read
  exact methods_of_entriesOfReadings reads

end PathItem

namespace Paths

/-- Whether an operation stands under a template and a method. -/
def isAt (template : String) (method : Method) (operation : String × Method × Operation) : Bool :=
  operation.1 == template && operation.2.1 == method

private theorem countP_isAt_map (template : String) (method : Method) (item : String × PathItem) :
    (item.2.operations.map fun operation => (item.1, operation.1, operation.2)).countP
        (isAt template method) =
      if item.1 == template then item.2.methods.count method else 0 := by
  rw [List.countP_map]
  cases same : item.1 == template with
  | true =>
    rw [if_pos rfl, PathItem.methods, List.count, List.countP_map]
    refine List.countP_congr fun operation _ => ?_
    simp [isAt, same]
  | false =>
    rw [if_neg Bool.false_ne_true, List.countP_eq_zero]
    intro operation _
    simp [isAt, same]

/-- The operations at a template and a method are those that the item of the template has of the
method. -/
theorem countP_operations {paths : Paths} {template : String} {item : PathItem}
    (held : paths.get? template = some item) (method : Method) :
    paths.operations.countP (isAt template method) = item.methods.count method := by
  have only : (paths.items.filter fun item => item.1 == template).map Prod.snd = [item] := by
    rw [values_items, held]
    rfl
  have total (items : List (String × PathItem)) :
      (items.flatMap fun item =>
        item.2.operations.map fun operation => (item.1, operation.1, operation.2)).countP
          (isAt template method) =
        (((items.filter fun item => item.1 == template).map Prod.snd).map fun item =>
          item.methods.count method).sum := by
    induction items with
    | nil => rfl
    | cons first rest ih =>
      rw [List.flatMap_cons, List.countP_append, countP_isAt_map, ih, List.filter_cons]
      split
      · rfl
      · rw [Nat.zero_add]
  unfold operations
  rw [total, only, List.map_singleton, List.sum_singleton]

end Paths

end TypedRoutes.OpenApi
