import TypedRoutes.Proofs.Route.Identifier
import TypedRoutes.Proofs.Route.Table

/-!
Spellings of one name. Names that differ in the case of letters of ASCII only have one lookup key,
whatever other letters are in them, and so they find the same record in every table: the one that
was inserted last of those with their key.
-/

set_option autoImplicit false
set_option relaxedAutoImplicit false

namespace TypedRoutes.Route

/-- The last record whose id has the lookup key of a name. -/
def lastRecord? (name : String) (records : List Record) : Option Record :=
  (records.filter fun record => lookupKey record.operationId == lookupKey name).getLast?

private theorem lastRecord?_of_undisplaced {record : Record} (earlier : List Record)
    {later : List Record}
    (others : ∀ other ∈ later, lookupKey other.operationId ≠ lookupKey record.operationId) :
    lastRecord? record.operationId (earlier ++ record :: later) = some record := by
  have nobody : later.filter
      (fun other => lookupKey other.operationId == lookupKey record.operationId) = [] := by
    refine List.filter_eq_nil_iff.mpr fun other hm same => ?_
    exact others other hm (beq_iff_eq.mp same)
  simp [lastRecord?, List.filter_append, nobody]

private theorem Table.lookup?_insertAll (table : Table) (records : List Record) (name : String) :
    (table.insertAll records).lookup? name =
      (lastRecord? name records).or (table.lookup? name) := by
  have last : lastValue? (lookupKey name) (records.map fun record =>
      (lookupKey record.operationId, record)) = lastRecord? name records := by
    simp [lastValue?, lastRecord?, List.filter_map, Function.comp_def, List.getLast?_map]
  have found := entryValue?_writeAll (lookupKey name) table.entries.entries
    (records.map fun record => (lookupKey record.operationId, record))
  rw [last, ← entries_insertAll] at found
  exact found

private theorem Table.lookup?_eq_of_toLower_eq (table : Table) {first second : String}
    (h : first.toLower = second.toLower) : table.lookup? first = table.lookup? second := by
  rw [lookup?, lookup?, lookupKey, Text.lowercase_eq_of_toLower_eq h, lookupKey]

private theorem toLower_eq_iff {first second : String} : first.toLower = second.toLower ↔
    first.toList.map Char.toLower = second.toList.map Char.toLower := by
  rw [← String.toList_inj, Text.toList_toLower, Text.toList_toLower]

private theorem toLower_ofList_capitalize (name : String) :
    (String.ofList (capitalize name.toList)).toLower = name.toLower := by
  rw [toLower_eq_iff, String.toList_ofList, map_toLower_capitalize]

/--
Names that are equal once their letters of ASCII are in lower case have one lookup key. So they find
the same record in a table, which is the last of the inserted ones with their key. A record is found
under its id with the first letter capitalized until one with the same key is inserted.
-/
theorem lookup_ignores_case_of_ascii :
    (∀ first second : String, first.toLower = second.toLower →
      lookupKey first = lookupKey second) ∧
    (∀ (table : Table) (records : List Record) (first second : String),
      first.toLower = second.toLower →
      (table.insertAll records).lookup? first = (table.insertAll records).lookup? second) ∧
    (∀ (records : List Record) (name : String),
      (Table.insertAll {} records).lookup? name = lastRecord? name records) ∧
    ∀ (table : Table) (earlier : List Record) (record : Record) (later : List Record),
      (∀ other ∈ later, lookupKey other.operationId ≠ lookupKey record.operationId) →
      (table.insertAll (earlier ++ record :: later)).lookup?
        (String.ofList (capitalize record.operationId.toList)) = some record := by
  refine ⟨fun _ _ => Text.lowercase_eq_of_toLower_eq,
    fun table records _ _ => (table.insertAll records).lookup?_eq_of_toLower_eq, ?_, ?_⟩
  · intro records name
    have empty : Table.lookup? {} name = none := rfl
    rw [Table.lookup?_insertAll, empty, Option.or_none]
  · intro table earlier record later others
    rw [Table.lookup?_eq_of_toLower_eq _ (toLower_ofList_capitalize record.operationId),
      Table.lookup?_insertAll, lastRecord?_of_undisplaced earlier others, Option.some_or]

/-- Records of one key with another one between them; each id has a sigma behind a letter. -/
def streetRecords : List Record :=
  [⟨"openΣ", .get, "/open"⟩, ⟨"closeΣ", .delete, "/close"⟩, ⟨"OpenΣ", .put, "/street/open"⟩]

theorem lookup_ignores_case_of_ascii_street :
    "openΣ".toLower = "OPENΣ".toLower ∧ "OPENΣ" ≠ "openΣ" ∧
    lookupKey "openΣ" = lookupKey "OPENΣ" ∧ lookupKey "openΣ" = "openς" ∧
    (Table.insertAll {} streetRecords).lookup? "openΣ" =
      (Table.insertAll {} streetRecords).lookup? "OPENΣ" ∧
    (Table.insertAll {} streetRecords).lookup? "OPENΣ" =
      some ⟨"OpenΣ", .put, "/street/open"⟩ ∧
    (∀ other ∈ streetRecords.drop 2, lookupKey other.operationId ≠ lookupKey "closeΣ") ∧
    (Table.insertAll {} streetRecords).lookup? (String.ofList (capitalize "closeΣ".toList)) =
      some ⟨"closeΣ", .delete, "/close"⟩ := by
  have spelled : "openΣ".toLower = "OPENΣ".toLower := toLower_eq_iff.mpr (by decide)
  have others : ∀ other ∈ streetRecords.drop 2,
      lookupKey other.operationId ≠ lookupKey "closeΣ" := by decide +kernel
  obtain ⟨keys, answers, last, capitalized⟩ := lookup_ignores_case_of_ascii
  refine ⟨spelled, by decide, keys _ _ spelled, by decide +kernel,
    answers {} streetRecords _ _ spelled, (last streetRecords "OPENΣ").trans (by decide +kernel),
    others, ?_⟩
  exact capitalized {} (streetRecords.take 1) ⟨"closeΣ", .delete, "/close"⟩ (streetRecords.drop 2)
    others

end TypedRoutes.Route
