import Mathlib.Data.List.Perm.Basic
import TypedRoutes.Proofs.Route.Completion
import TypedRoutes.Proofs.Route.Identifier
import TypedRoutes.Proofs.Route.Table

/-!
Operations that share a lookup key. Taking an operation into a table adds a record in silence, or
it is told of; so a table has a record for every operation exactly if no two ids share a key. In a
completed document the made ids may share one with each other or with an id that was there: the
main statement says exactly when they do.
-/

set_option autoImplicit false
set_option relaxedAutoImplicit false

namespace TypedRoutes.Route

open OpenApi (Document Method Operation PathItem Paths)

def operationKeys (operations : List (String × Method × Operation)) : List String :=
  operations.filterMap fun operation => operation.2.2.id?.map lookupKey

private theorem operationKeys_completePaths (paths : Paths) :
    operationKeys (completePaths paths).operations = paths.operations.map fun operation =>
      lookupKey (operation.2.2.id?.getD (synthesizeId operation.2.1 operation.1)) := by
  unfold operationKeys completePaths
  rw [OpenApi.Paths.operations_mapItems, List.filterMap_map, ← List.filterMap_eq_map]
  refine List.filterMap_congr fun operation _ => ?_
  cases h : operation.2.2.id? with
  | some id => simp [completeOperation, h]
  | none =>
    have made := id?_setId operation.2.2 (synthesizeId_isEmpty operation.2.1 operation.1)
    simp [completeOperation, h, made]

namespace Table

private theorem lookup?_eq_none_iff {table : Table} {name : String} :
    table.lookup? name = none ↔ lookupKey name ∉ table.entries.entries.map Prod.fst :=
  entryValue?_eq_none_iff

theorem entries_insert_of_fresh {table : Table} (record : Record)
    (fresh : table.lookup? record.operationId = none) :
    (table.insert record).entries.entries =
      table.entries.entries ++ [(lookupKey record.operationId, record)] := by
  rw [insert_eq]
  exact writeEntry_of_not_mem record (lookup?_eq_none_iff.mp fresh)

private theorem size_insert (table : Table) (record : Record) :
    (table.insert record).size =
      table.size + if (table.lookup? record.operationId).isSome then 0 else 1 := by
  have keys := congrArg List.length
    (keys_writeEntry (lookupKey record.operationId) record table.entries.entries)
  have sizes : (table.insert record).size = table.size +
      (if lookupKey record.operationId ∈ table.entries.entries.map Prod.fst then []
        else [lookupKey record.operationId]).length := by
    simpa [size, insert_eq, OrderedMap.size] using keys
  rw [sizes]
  cases h : table.lookup? record.operationId with
  | none => simp [lookup?_eq_none_iff.mp h]
  | some displaced =>
    have present : lookupKey record.operationId ∈ table.entries.entries.map Prod.fst := by
      by_contra absent
      rw [lookup?_eq_none_iff.mpr absent] at h
      cases h
    simp [present]

private theorem size_take_add_length_log (table : Table) (operation : String × Method × Operation) :
    (table.take operation).value.size + (table.take operation).log.length = table.size + 1 := by
  obtain ⟨template, method, operation⟩ := operation
  simp only [take, getThenInsert?_eq]
  cases operation.id? with
  | none => rfl
  | some id =>
    have step := size_insert table ⟨id, method, template⟩
    cases h : table.lookup? id with
    | none => simpa [h] using step
    | some displaced => simpa [h] using step

theorem size_takeAll_add_length_log (table : Table)
    (operations : List (String × Method × Operation)) :
    (table.takeAll operations).value.size + (table.takeAll operations).log.length =
      table.size + operations.length := by
  induction operations generalizing table with
  | nil => rfl
  | cons operation rest ih =>
    have first := size_take_add_length_log table operation
    have later := ih (table.take operation).value
    simp only [takeAll, Logged.andThen, List.length_append, List.length_cons]
    omega

private theorem log_take_eq_nil_iff (table : Table) (operation : String × Method × Operation) :
    (table.take operation).log = [] ↔
      ∃ id, operation.2.2.id? = some id ∧ table.lookup? id = none := by
  obtain ⟨template, method, operation⟩ := operation
  simp only [take, getThenInsert?_eq]
  cases operation.id? with
  | none => simp
  | some id => cases h : table.lookup? id <;> simp [h]

private theorem value_take_of_id {table : Table} {operation : String × Method × Operation}
    {id : String} (hid : operation.2.2.id? = some id) :
    (table.take operation).value = table.insert ⟨id, operation.2.1, operation.1⟩ := by
  rw [value_take, recordOf?, hid]
  rfl

private theorem log_takeAll_eq_nil_iff {table : Table}
    {operations : List (String × Method × Operation)}
    (identified : ∀ operation ∈ operations, operation.2.2.id?.isSome) :
    (table.takeAll operations).log = [] ↔
      (table.entries.entries.map Prod.fst ++ operationKeys operations).Nodup := by
  induction operations generalizing table with
  | nil => simpa [takeAll, operationKeys] using table.entries.nodup
  | cons operation rest ih =>
    rw [List.forall_mem_cons] at identified
    obtain ⟨id, hid⟩ := Option.isSome_iff_exists.mp identified.1
    have keys : operationKeys (operation :: rest) = lookupKey id :: operationKeys rest := by
      simp [operationKeys, hid]
    have later := @ih (table.take operation).value identified.2
    rw [log_takeAll_cons, List.append_eq_nil_iff, log_take_eq_nil_iff, later, keys]
    by_cases fresh : table.lookup? id = none
    · have added : (table.take operation).value.entries.entries.map Prod.fst =
          table.entries.entries.map Prod.fst ++ [lookupKey id] := by
        rw [value_take_of_id hid, entries_insert_of_fresh ⟨id, operation.2.1, operation.1⟩ fresh,
          List.map_append]
        rfl
      rw [added, List.append_assoc, List.singleton_append]
      exact and_iff_right ⟨id, hid, fresh⟩
    · have old : lookupKey id ∈ table.entries.entries.map Prod.fst := by
        by_contra absent
        exact fresh (lookup?_eq_none_iff.mpr absent)
      constructor
      · rintro ⟨⟨other, hother, new⟩, -⟩
        obtain rfl : id = other := Option.some.inj (hid.symm.trans hother)
        exact absurd new fresh
      · intro nodup
        exact absurd rfl ((List.nodup_append.mp nodup).2.2 _ old _ List.mem_cons_self)

private theorem records_takeAll_of_log_eq_nil {table : Table}
    {operations : List (String × Method × Operation)}
    (silent : (table.takeAll operations).log = []) :
    (table.takeAll operations).value.records.map some =
      table.records.map some ++ operations.map recordOf? := by
  induction operations generalizing table with
  | nil => exact (List.append_nil _).symm
  | cons operation rest ih =>
    rw [log_takeAll_cons, List.append_eq_nil_iff, log_take_eq_nil_iff] at silent
    obtain ⟨⟨id, hid, fresh⟩, silent⟩ := silent
    have record : recordOf? operation = some ⟨id, operation.2.1, operation.1⟩ := by
      rw [recordOf?, hid]
      rfl
    have later := ih silent
    have first : (table.take operation).value.records =
        table.records ++ [⟨id, operation.2.1, operation.1⟩] := by
      rw [value_take_of_id hid, records,
        entries_insert_of_fresh ⟨id, operation.2.1, operation.1⟩ fresh, List.map_append]
      rfl
    rw [value_takeAll_cons, later, first, List.map_append, List.map_singleton, List.append_assoc,
      List.singleton_append, List.map_cons, record]

theorem isCollision_of_mem_log_takeAll {table : Table}
    {operations : List (String × Method × Operation)}
    (identified : ∀ operation ∈ operations, operation.2.2.id?.isSome) :
    ∀ finding ∈ (table.takeAll operations).log,
      ∃ record displaced, finding = .idCollision record displaced := by
  intro finding hm
  obtain ⟨before, operation, after, rfl, told⟩ := mem_log_takeAll_iff.mp hm
  obtain ⟨noId, -⟩ | ⟨record, displaced, -, -, rfl⟩ := mem_log_take_iff.mp told
  · have hasId := identified operation (List.mem_append_right before List.mem_cons_self)
    rw [recordOf?, Option.map_eq_none_iff] at noId
    simp [noId] at hasId
  · exact ⟨record, displaced, rfl⟩

end Table

private theorem nodup_map_iff_filter {α β : Type} (keep : α → Bool) (f : α → β) (items : List α) :
    (items.map f).Nodup ↔
      ((items.filter keep).map f).Nodup ∧ ((items.filter fun item => !keep item).map f).Nodup ∧
        ∀ item ∈ items.filter fun item => !keep item, f item ∉ (items.filter keep).map f := by
  have parts : (items.filter keep ++ items.filter fun item => !keep item).Perm items :=
    List.filter_append_perm keep items
  rw [← (parts.map f).nodup_iff, List.map_append, List.nodup_append]
  refine and_congr_right fun _ => and_congr_right fun _ => ?_
  constructor
  · intro apart item hm same
    exact apart _ same _ (List.mem_map_of_mem hm) rfl
  · intro apart value hvalue other hother same
    obtain ⟨item, hm, rfl⟩ := List.mem_map.mp hother
    exact apart item hm (same ▸ hvalue)

/-- The ids that are made for operations without one have lookup keys of their own. -/
structure MadeApart (paths : Paths) : Prop where
  /-- No two of them agree in method and word characters. -/
  fromEachOther : ((operationsWithoutId paths).map fun operation =>
    (operation.2.1, wordLetters operation.1)).Nodup
  /-- None has the key of an id that is there. -/
  fromPresent : ∀ operation ∈ operationsWithoutId paths,
    lookupKey (synthesizeId operation.2.1 operation.1) ∉ operationKeys paths.operations

private theorem nodup_operationKeys_completePaths_iff {paths : Paths}
    (apart : (operationKeys paths.operations).Nodup) :
    (operationKeys (completePaths paths).operations).Nodup ↔ MadeApart paths := by
  have present : (paths.operations.filter fun operation => operation.2.2.id?.isSome).map
      (fun operation => lookupKey (operation.2.2.id?.getD
        (synthesizeId operation.2.1 operation.1))) = operationKeys paths.operations := by
    unfold operationKeys
    induction paths.operations with
    | nil => rfl
    | cons operation rest ih => cases h : operation.2.2.id? <;> simp [h, ih]
  have missing : (paths.operations.filter fun operation => !operation.2.2.id?.isSome) =
      operationsWithoutId paths := by
    unfold operationsWithoutId
    refine List.filter_congr fun operation _ => ?_
    cases operation.2.2.id? <;> rfl
  have made : ∀ operation ∈ operationsWithoutId paths,
      lookupKey (operation.2.2.id?.getD (synthesizeId operation.2.1 operation.1)) =
        lookupKey (synthesizeId operation.2.1 operation.1) := by
    intro operation hm
    have noId := (List.mem_filter.mp hm).2
    rw [Option.isNone_iff_eq_none.mp noId]
    rfl
  have words : ((operationsWithoutId paths).map fun operation =>
      lookupKey (synthesizeId operation.2.1 operation.1)).Nodup ↔
        ((operationsWithoutId paths).map fun operation =>
          (operation.2.1, wordLetters operation.1)).Nodup := by
    unfold List.Nodup
    rw [List.pairwise_map, List.pairwise_map]
    simp only [ne_eq, lookupKey_synthesizeId_eq_iff]
  rw [operationKeys_completePaths, nodup_map_iff_filter fun operation => operation.2.2.id?.isSome,
    present, missing, List.map_congr_left made, words]
  constructor
  · rintro ⟨-, fromEachOther, fromPresent⟩
    exact ⟨fromEachOther, fun operation hm => made operation hm ▸ fromPresent operation hm⟩
  · rintro ⟨fromEachOther, fromPresent⟩
    exact ⟨apart, fromEachOther, fun operation hm =>
      (made operation hm).symm ▸ fromPresent operation hm⟩

private theorem Table.no_collision_iff {operations : List (String × Method × Operation)}
    (identified : ∀ operation ∈ operations, operation.2.2.id?.isSome) :
    (∀ record displaced, .idCollision record displaced ∉ (takeAll {} operations).log) ↔
      (operationKeys operations).Nodup := by
  have silent : (takeAll {} operations).log = [] ↔ (operationKeys operations).Nodup :=
    log_takeAll_eq_nil_iff identified
  rw [← silent]
  constructor
  · intro none
    refine List.eq_nil_iff_forall_not_mem.mpr fun finding hm => ?_
    obtain ⟨record, displaced, rfl⟩ := isCollision_of_mem_log_takeAll identified finding hm
    exact none record displaced hm
  · intro nothing record displaced hm
    rw [nothing] at hm
    cases hm

private theorem Table.record_each_iff {operations : List (String × Method × Operation)}
    (identified : ∀ operation ∈ operations, operation.2.2.id?.isSome) :
    (takeAll {} operations).value.records.map some = operations.map recordOf? ↔
      (operationKeys operations).Nodup := by
  have silent : (takeAll {} operations).log = [] ↔ (operationKeys operations).Nodup :=
    log_takeAll_eq_nil_iff identified
  rw [← silent]
  constructor
  · intro each
    have sizes : (takeAll {} operations).value.size = operations.length := by
      simpa [records, size, OrderedMap.size] using congrArg List.length each
    have counted : (takeAll {} operations).value.size + (takeAll {} operations).log.length =
        0 + operations.length := size_takeAll_add_length_log {} operations
    exact List.length_eq_zero_iff.mp (by omega)
  · exact records_takeAll_of_log_eq_nil

/--
Completion gives every operation an id. Where the ids that were there have different lookup keys,
all ids have different ones afterwards exactly if the made ones are apart. Exactly then the table of
the completed paths has a record for each operation, in their order, and exactly then none is told
to displace another one.
-/
theorem completion_keeps_every_operation_iff (document : Document)
    (apart : (operationKeys document.paths.operations).Nodup) :
    (∀ operation ∈ (completeDocument document).value.paths.operations,
      operation.2.2.id?.isSome) ∧
    ((operationKeys (completeDocument document).value.paths.operations).Nodup ↔
      MadeApart document.paths) ∧
    ((Table.ofPaths (completeDocument document).value.paths).value.records.map some =
        (completeDocument document).value.paths.operations.map recordOf? ↔
      MadeApart document.paths) ∧
    ((∀ record displaced, .idCollision record displaced ∉
        (Table.ofPaths (completeDocument document).value.paths).log) ↔
      MadeApart document.paths) := by
  have completed : (completeDocument document).value.paths = completePaths document.paths := by
    rw [completeDocument_eq]
    rfl
  have identified : ∀ operation ∈ (completePaths document.paths).operations,
      operation.2.2.id?.isSome := fun _ => isSome_id?_of_mem_completePaths
  have made := nodup_operationKeys_completePaths_iff apart
  rw [completed, Table.ofPaths_eq]
  refine ⟨identified, made, ?_, ?_⟩
  · exact (Table.record_each_iff identified).trans made
  · exact (Table.no_collision_iff identified).trans made

def apartDocument : Document where
  paths := .ofList
    [("/pets", ⟨[.operation .get (.withId "findPets"), .operation .post {}]⟩),
      ("/pets/{id}", ⟨[.operation .get {}]⟩)]

theorem completion_keeps_every_operation_pets :
    (operationKeys apartDocument.paths.operations).Nodup ∧ MadeApart apartDocument.paths ∧
    (operationKeys (completeDocument apartDocument).value.paths.operations).Nodup ∧
    (Table.ofPaths (completeDocument apartDocument).value.paths).value.records =
      [⟨"findPets", .get, "/pets"⟩, ⟨"postPets", .post, "/pets"⟩,
        ⟨"getPetsid", .get, "/pets/{id}"⟩] ∧
    ∀ record displaced, .idCollision record displaced ∉
      (Table.ofPaths (completeDocument apartDocument).value.paths).log := by
  have apart : (operationKeys apartDocument.paths.operations).Nodup := by decide +kernel
  have made : MadeApart apartDocument.paths := ⟨by decide +kernel, by decide +kernel⟩
  obtain ⟨-, keys, records, silent⟩ := completion_keeps_every_operation_iff apartDocument apart
  have listed : (completeDocument apartDocument).value.paths.operations.map recordOf? =
      [⟨"findPets", .get, "/pets"⟩, ⟨"postPets", .post, "/pets"⟩,
        ⟨"getPetsid", .get, "/pets/{id}"⟩].map some := by decide +kernel
  have each := (records.mpr made).trans listed
  exact ⟨apart, made, keys.mpr made, (List.map_inj_right fun _ _ => Option.some.inj).mp each,
    silent.mpr made⟩

def collidingDocument : Document where
  paths := .ofList [("/a/b", ⟨[.operation .get {}]⟩), ("/ab", ⟨[.operation .get {}]⟩)]

/-- Made ids may collide although no method is repeated and no id was there. -/
theorem completion_costs_an_operation :
    (∀ item ∈ collidingDocument.paths.items, (item.2.operations.map Prod.fst).Nodup) ∧
    (operationKeys collidingDocument.paths.operations).Nodup ∧
    ¬ (operationKeys (completeDocument collidingDocument).value.paths.operations).Nodup ∧
    (completeDocument collidingDocument).value.paths.operations.length = 2 ∧
    (Table.ofPaths (completeDocument collidingDocument).value.paths).value.records =
      [⟨"getAb", .get, "/ab"⟩] ∧
    (Table.ofPaths (completeDocument collidingDocument).value.paths).log =
      [.idCollision ⟨"getAb", .get, "/ab"⟩ ⟨"getAb", .get, "/a/b"⟩] := by
  decide +kernel

end TypedRoutes.Route
