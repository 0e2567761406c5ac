import TypedRoutes.Proofs.OpenApi.Paths
import TypedRoutes.Route.Table

/-!
Tables through their lookups: a name finds the last of the operations whose ids have its key.
-/

set_option autoImplicit false
set_option relaxedAutoImplicit false

namespace TypedRoutes.Route

open OpenApi (Method Operation Paths)

/-- The record of an operation that has an id. -/
def recordOf? (operation : String × Method × Operation) : Option Record :=
  operation.2.2.id?.map fun id => ⟨id, operation.2.1, operation.1⟩

/-- Whether an operation has an id with the lookup key of a name. -/
def answersTo (name : String) (operation : String × Method × Operation) : Bool :=
  operation.2.2.id?.any fun id => lookupKey id == lookupKey name

/-- The last operation that answers to a name. -/
def lastOperation? (name : String) (operations : List (String × Method × Operation)) :
    Option (String × Method × Operation) :=
  (operations.filter (answersTo name)).getLast?

private theorem isSome_recordOf?_of_answersTo {name : String}
    {operation : String × Method × Operation}
    (h : answersTo name operation) : (recordOf? operation).isSome := by
  unfold answersTo at h
  unfold recordOf?
  cases hid : operation.2.2.id? with
  | none => simp [hid] at h
  | some id => rfl

theorem recordOf?_eq_some_iff {operation : String × Method × Operation} {record : Record} :
    recordOf? operation = some record ↔ ∃ id, operation.2.2.id? = some id ∧
      record = ⟨id, operation.2.1, operation.1⟩ := by
  unfold recordOf?
  rw [Option.map_eq_some_iff]
  exact exists_congr fun id => and_congr_right fun _ => eq_comm

theorem isSome_lastRecord_iff {name : String} {operations : List (String × Method × Operation)} :
    ((lastOperation? name operations).bind recordOf?).isSome ↔
      ∃ operation ∈ operations, answersTo name operation := by
  unfold lastOperation?
  constructor
  · intro h
    cases hlast : (operations.filter (answersTo name)).getLast? with
    | none => simp [hlast] at h
    | some last => exact ⟨last, List.mem_filter.mp (List.mem_of_getLast? hlast)⟩
  · rintro ⟨operation, hm, answers⟩
    cases hlast : (operations.filter (answersTo name)).getLast? with
    | none =>
      have nobody := List.getLast?_eq_none_iff.mp hlast
      exact absurd answers (List.filter_eq_nil_iff.mp nobody operation hm)
    | some last =>
      exact isSome_recordOf?_of_answersTo (List.mem_filter.mp (List.mem_of_getLast? hlast)).2

private theorem Logged.andThen_assoc {α β γ : Type} (first : Logged α) (next : α → Logged β)
    (last : β → Logged γ) :
    (first.andThen next).andThen last = first.andThen fun value => (next value).andThen last := by
  simp only [Logged.andThen, List.append_assoc]

namespace Table

theorem insert_eq (table : Table) (record : Record) :
    table.insert record = ⟨table.entries.insert (lookupKey record.operationId) record⟩ := rfl

theorem getThenInsert?_eq (table : Table) (record : Record) :
    table.getThenInsert? record = (table.lookup? record.operationId, table.insert record) := rfl

private theorem lookup?_insert (table : Table) (record : Record) (name : String) :
    (table.insert record).lookup? name =
      if lookupKey record.operationId = lookupKey name then some record
      else table.lookup? name :=
  OrderedMap.get?_insert _ _ _ _

theorem value_take (table : Table) (operation : String × Method × Operation) :
    (table.take operation).value = ((recordOf? operation).map table.insert).getD table := by
  obtain ⟨template, method, operation⟩ := operation
  simp only [take, recordOf?]
  cases operation.id? with
  | none => rfl
  | some id =>
    dsimp only [Option.map_some, Option.getD_some]
    rw [getThenInsert?_eq]
    cases table.lookup? id <;> rfl

private theorem lookup?_take (table : Table) (operation : String × Method × Operation)
    (name : String) :
    (table.take operation).value.lookup? name =
      (if answersTo name operation then recordOf? operation else none).or
        (table.lookup? name) := by
  rw [value_take]
  unfold recordOf? answersTo
  cases operation.2.2.id? with
  | none => simp
  | some id =>
    simp only [Option.map_some, Option.getD_some, lookup?_insert, Option.any_some, beq_iff_eq]
    by_cases h : lookupKey id = lookupKey name <;> simp [h]

def takeAll (table : Table) : List (String × Method × Operation) → Logged Table
  | [] => ⟨table, []⟩
  | operation :: rest => (table.take operation).andThen fun table => table.takeAll rest

theorem value_takeAll_cons (table : Table) (operation : String × Method × Operation)
    (rest : List (String × Method × Operation)) :
    (table.takeAll (operation :: rest)).value = ((table.take operation).value.takeAll rest).value :=
  rfl

theorem log_takeAll_cons (table : Table) (operation : String × Method × Operation)
    (rest : List (String × Method × Operation)) :
    (table.takeAll (operation :: rest)).log =
      (table.take operation).log ++ ((table.take operation).value.takeAll rest).log :=
  rfl

/-- A name finds the record of the last operation that answers to it. -/
theorem lookup?_takeAll (table : Table) (operations : List (String × Method × Operation))
    (name : String) :
    (table.takeAll operations).value.lookup? name =
      ((lastOperation? name operations).bind recordOf?).or (table.lookup? name) := by
  induction operations generalizing table with
  | nil => rfl
  | cons operation rest ih =>
    refine (ih (table.take operation).value).trans ?_
    rw [lookup?_take, ← Option.or_assoc]
    unfold lastOperation?
    rw [getLast?_filter_cons]
    cases h : (rest.filter (answersTo name)).getLast? with
    | none => by_cases answers : answersTo name operation <;> simp [answers]
    | some last =>
      have answers : answersTo name last := (List.mem_filter.mp (List.mem_of_getLast? h)).2
      have hasRecord : (recordOf? last).isSome := isSome_recordOf?_of_answersTo answers
      obtain ⟨record, hrecord⟩ := Option.isSome_iff_exists.mp hasRecord
      simp [hrecord]

theorem mem_log_take_iff {table : Table} {operation : String × Method × Operation}
    {finding : Diagnostic} :
    finding ∈ (table.take operation).log ↔
      (recordOf? operation = none ∧ finding = .idMissing operation.2.1 operation.1) ∨
      ∃ record displaced, recordOf? operation = some record ∧
        table.lookup? record.operationId = some displaced ∧
        finding = .idCollision record displaced := by
  obtain ⟨template, method, operation⟩ := operation
  simp only [take, recordOf?, getThenInsert?_eq]
  cases operation.id? with
  | none => simp
  | some id => cases held : table.lookup? id <;> simp [held]

/-- All that is said of operations is said of one of them, once those before it are taken. -/
theorem mem_log_takeAll_iff {table : Table} {operations : List (String × Method × Operation)}
    {finding : Diagnostic} :
    finding ∈ (table.takeAll operations).log ↔
      ∃ before operation after, operations = before ++ operation :: after ∧
        finding ∈ ((table.takeAll before).value.take operation).log := by
  induction operations generalizing table with
  | nil => simp [takeAll]
  | cons first rest ih =>
    rw [log_takeAll_cons, List.mem_append, ih]
    constructor
    · rintro (here | ⟨before, operation, after, rfl, later⟩)
      · exact ⟨[], first, rest, rfl, here⟩
      · exact ⟨first :: before, operation, after, rfl, later⟩
    · rintro ⟨before, operation, after, split, later⟩
      cases before with
      | nil =>
        obtain ⟨rfl, rfl⟩ := List.cons.inj split
        exact .inl later
      | cons _ before =>
        obtain ⟨rfl, rfl⟩ := List.cons.inj split
        exact .inr ⟨before, operation, after, rfl, later⟩

def insertAll (table : Table) (records : List Record) : Table := records.foldl insert table

private theorem value_takeAll (table : Table) (operations : List (String × Method × Operation)) :
    (table.takeAll operations).value = table.insertAll (operations.filterMap recordOf?) := by
  induction operations generalizing table with
  | nil => rfl
  | cons operation rest ih =>
    rw [value_takeAll_cons, ih, value_take]
    cases held : recordOf? operation with
    | none =>
      rw [List.filterMap_cons_none held]
      rfl
    | some record =>
      rw [List.filterMap_cons_some held]
      rfl

theorem entries_insertAll (table : Table) (records : List Record) :
    (table.insertAll records).entries.entries =
      writeAll table.entries.entries
        (records.map fun record => (lookupKey record.operationId, record)) := by
  induction records generalizing table with
  | nil => rfl
  | cons record rest ih => exact ih (table.insert record)

theorem entries_takeAll (table : Table) (operations : List (String × Method × Operation)) :
    (table.takeAll operations).value.entries.entries =
      writeAll table.entries.entries ((operations.filterMap recordOf?).map fun record =>
        (lookupKey record.operationId, record)) := by
  rw [value_takeAll, entries_insertAll]

private theorem foldl_take (built : Logged Table)
    (operations : List (String × Method × Operation)) :
    operations.foldl (fun built operation => built.andThen fun table => table.take operation)
      built = built.andThen fun table => table.takeAll operations := by
  induction operations generalizing built with
  | nil =>
    have nothing : built.log = built.log ++ [] := (List.append_nil _).symm
    exact congrArg (Logged.mk built.value) nothing
  | cons operation rest ih =>
    rw [List.foldl_cons, ih, Logged.andThen_assoc]
    rfl

/-- Taking the operations item by item is taking them all, one behind the other. -/
theorem build_eq (paths : Paths) (findings : List Diagnostic) :
    build paths findings =
      ⟨(takeAll {} paths.operations).value, findings ++ (takeAll {} paths.operations).log⟩ := by
  have nested : build paths findings =
      paths.operations.foldl (fun built operation => built.andThen fun table =>
        table.take operation) ⟨{}, findings⟩ := by
    unfold build Paths.operations
    rw [List.foldl_flatMap]
    simp only [List.foldl_map]
  rw [nested, foldl_take]
  rfl

theorem ofPaths_eq (paths : Paths) : ofPaths paths = takeAll {} paths.operations :=
  build_eq paths []

end Table

end TypedRoutes.Route
