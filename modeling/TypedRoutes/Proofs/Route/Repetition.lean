import Mathlib.Data.List.Perm.Subperm
import TypedRoutes.Proofs.OpenApi.Methods
import TypedRoutes.Proofs.Route.Table

/-!
Operations of one method in one path item. An item that is read from an object with a method key
twice has two operations of the method, and a table of its paths may have a record for each. The
main statement says that nothing else repeats a method.
-/

set_option autoImplicit false
set_option relaxedAutoImplicit false

namespace TypedRoutes.Route

open Json (Reading)
open OpenApi (Method Operation PathItem Paths)

/-- Whether a record is one of an operation at a template and a method. -/
def Record.isAt (template : String) (method : Method) (record : Record) : Bool :=
  record.template == template && record.method == method

namespace Table

private theorem records_insert_subperm (table : Table) (record : Record) :
    (table.insert record).records.Subperm (table.records ++ [record]) := by
  have written := (perm_writeEntry (lookupKey record.operationId) record
    table.entries.nodup).map Prod.snd
  have kept : ((table.entries.entries.filter fun entry =>
      entry.1 ≠ lookupKey record.operationId).map Prod.snd).Sublist table.records :=
    List.filter_sublist.map Prod.snd
  refine (written.subperm).trans ?_
  rw [List.map_cons]
  exact ((kept.cons_cons record).subperm).trans (List.perm_append_singleton _ _).symm.subperm

private theorem records_takeAll_subperm (table : Table)
    (operations : List (String × Method × Operation)) :
    (table.takeAll operations).value.records.Subperm
      (table.records ++ operations.filterMap recordOf?) := by
  induction operations generalizing table with
  | nil =>
    rw [List.filterMap_nil, List.append_nil]
    exact List.Subperm.refl _
  | cons operation rest ih =>
    refine (ih (table.take operation).value).trans ?_
    rw [value_take]
    cases held : recordOf? operation with
    | none =>
      rw [List.filterMap_cons_none held]
      exact List.Subperm.refl _
    | some record =>
      rw [List.filterMap_cons_some held, ← List.singleton_append, ← List.append_assoc]
      exact (List.subperm_append_right _).mpr (records_insert_subperm table record)

private theorem countP_records_ofPaths_le (paths : Paths) (template : String) (method : Method) :
    (ofPaths paths).value.records.countP (Record.isAt template method) ≤
      paths.operations.countP (Paths.isAt template method) := by
  rw [ofPaths_eq]
  refine Nat.le_trans (List.Subperm.countP_le _ (records_takeAll_subperm {} paths.operations)) ?_
  have none : ({} : Table).records = [] := rfl
  rw [none, List.nil_append, List.countP_filterMap]
  refine List.countP_mono_left fun operation _ at_place => ?_
  cases held : recordOf? operation with
  | none => simp [held] at at_place
  | some record =>
    obtain ⟨id, -, rfl⟩ := recordOf?_eq_some_iff.mp held
    simpa [held, Record.isAt, Paths.isAt] using at_place

end Table

/-- The methods that the keys of an object name, in the order of the keys. -/
def namedMethods (fields : List (String × Reading)) : List Method :=
  (fields.map Prod.fst).filterMap Method.ofKey?

/-- A method occurs twice in an item only if its key stands twice in the object that the item is
read from. Whatever is written afterwards, an operation that is written is the first of its method
and leaves all other entries as they are; it is the only one exactly if the key stood at most once.
A table has at most as many records at a method and a template as the key stood there, or one. -/
theorem method_repeats_only_if_key_repeats {fields : List (String × Reading)}
    {stop : Option Json.SyntaxError} {item : PathItem}
    (read : PathItem.ofReading (.object fields stop) = .ok item)
    (writes : List (Method × Operation)) :
    ((item.withOperations writes).methods.Nodup ↔ (namedMethods fields).Nodup) ∧
    (∀ (method : Method) (operation : Operation),
      let written := (item.withOperations writes).withOperation method operation
      written.operation? method = some operation ∧
      PathItem.Writes method operation (item.withOperations writes).entries written.entries ∧
      (written.operationsOf method = [operation] ↔ (namedMethods fields).count method ≤ 1)) ∧
    ∀ (paths : Paths) (template : String),
      paths.get? template = some (item.withOperations writes) → ∀ method : Method,
        (Table.ofPaths paths).value.records.countP (Record.isAt template method) ≤
          max 1 ((namedMethods fields).count method) := by
  have named : item.methods = namedMethods fields := PathItem.methods_of_ofReading read
  refine ⟨?_, fun method operation => ⟨?_, ?_, ?_⟩, fun paths template held method => ?_⟩
  · rw [PathItem.nodup_methods_withOperations_iff, named]
  · rw [PathItem.operation?_eq_head?, PathItem.operationsOf_withOperation, List.head?_cons]
  · exact PathItem.writes_writeOperation method operation _
  · rw [PathItem.operationsOf_withOperation_eq_singleton_iff,
      PathItem.count_methods_withOperations, named]
    split <;> omega
  · refine Nat.le_trans (Table.countP_records_ofPaths_le paths template method) ?_
    rw [Paths.countP_operations held, PathItem.count_methods_withOperations, named]
    split <;> omega

def petsMethods : List (String × Reading) :=
  [("get", .object [("operationId", .string "findPets")] none), ("summary", .string "Pets"),
    ("put", .object [] none)]

def petsWrites : List (Method × Operation) := [(.post, .withId "addPet"), (.get, {})]

theorem method_repeats_only_if_key_repeats_pets :
    ∃ item, PathItem.ofReading (.object petsMethods none) = .ok item ∧
      (item.withOperations petsWrites).methods.Nodup ∧
      ∀ method operation,
        ((item.withOperations petsWrites).withOperation method operation).operationsOf method =
          [operation] := by
  refine ⟨_, rfl, ?_⟩
  obtain ⟨nodup, written, -⟩ := method_repeats_only_if_key_repeats
    (rfl : PathItem.ofReading (.object petsMethods none) = .ok _) petsWrites
  have once (method : Method) : (namedMethods petsMethods).count method ≤ 1 := by
    cases method <;> decide
  exact ⟨nodup.mpr (by decide), fun method operation =>
    (written method operation).2.2.mpr (once method)⟩

def repeatedMethodText : String :=
  "\x7b\"get\":\x7b\"operationId\":\"a\"\x7d,\"get\":\x7b\"operationId\":\"b\"\x7d\x7d"

/-- An item with a repeated method keeps both operations, a written operation stands beside the
second one, and a table has a record for each. -/
theorem repeated_key_leaves_two_operations :
    ∃ item, Json.decodeText (fun _ => false) PathItem.ofReading repeatedMethodText = .ok item ∧
      item.methods = [.get, .get] ∧
      ((item.withOperation .get (.withId "c")).operationsOf .get).map Operation.id? =
        [some "c", some "b"] ∧
      (Table.ofPaths (.ofList [("/pets", item)])).value.records =
        [⟨"a", .get, "/pets"⟩, ⟨"b", .get, "/pets"⟩] := by
  have facts : (Json.decodeText (fun _ => false) PathItem.ofReading
      repeatedMethodText).toOption.map (fun item => (item.methods,
        ((item.withOperation .get (.withId "c")).operationsOf .get).map Operation.id?,
        (Table.ofPaths (.ofList [("/pets", item)])).value.records)) =
      some ([.get, .get], [some "c", some "b"], [⟨"a", .get, "/pets"⟩, ⟨"b", .get, "/pets"⟩]) := by
    decide +kernel
  cases decoded : Json.decodeText (fun _ => false) PathItem.ofReading repeatedMethodText with
  | error error => simp [decoded, Except.toOption] at facts
  | ok item =>
    rw [decoded] at facts
    obtain ⟨methods, facts⟩ := Prod.mk.inj (Option.some.inj facts)
    obtain ⟨operations, records⟩ := Prod.mk.inj facts
    exact ⟨item, rfl, methods, operations, records⟩

end TypedRoutes.Route
