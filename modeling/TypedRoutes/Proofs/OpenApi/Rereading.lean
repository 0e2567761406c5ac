import TypedRoutes.Proofs.OpenApi.Fidelity

/-!
Paths that are written and read again. In memory no object repeats a key, but a path item may have
a method or a field twice; all of it is written, and all of it comes back. What comes back under a
key is told by the key alone, so paths come back exactly if each key holds what it stands for.
-/

set_option autoImplicit false
set_option relaxedAutoImplicit false

namespace TypedRoutes.OpenApi

open Json (Reading bind_eq_ok_iff map_eq_ok_iff)

namespace PathItem

/-- No object below the fields of a path item has a key twice. -/
def Distinct (item : PathItem) : Prop :=
  ∀ entry ∈ item.entries, entry.toField.2.distinctKeys

theorem distinct_empty : Distinct {} := fun _ none => nomatch none

end PathItem

private theorem distinctKeys_of_rawValue {reading : Reading} {value : Json}
    (read : rawValue reading = .ok value) : value.distinctKeys := by
  obtain ⟨whole, -, rfl⟩ := map_eq_ok_iff.mp read
  exact Json.distinctKeys_collapse whole

private theorem Operation.distinctKeys_of_ofReading {reading : Reading} {operation : Operation}
    (read : Operation.ofReading reading = .ok operation) : operation.toJson.distinctKeys := by
  unfold Operation.ofReading at read
  split at read
  case h_1 fields stop =>
    obtain ⟨whole, -, read⟩ := bind_eq_ok_iff.mp read
    obtain ⟨-, -, read⟩ := bind_eq_ok_iff.mp read
    cases read
    unfold Operation.toJson
    rw [OrderedMap.entries_ofList_eq_writeAll]
    exact Json.distinctKeys_writeAll fun field hm => by
      obtain ⟨source, -, rfl⟩ := List.mem_map.mp hm
      exact Json.distinctKeys_collapse source.2
  case h_2 => cases read

private theorem Operation.ofReading_toJson {operation : Operation}
    (distinct : operation.toJson.distinctKeys) :
    Operation.ofReading operation.toJson.toReading = .ok operation := by
  obtain ⟨other, read, same⟩ := Operation.ofReading_object distinct
  have entries : other.fields.entries = operation.fields.entries := Json.object.inj same
  have fields : other.fields = operation.fields := OrderedMap.ext_entries entries
  obtain ⟨_⟩ := operation
  obtain ⟨_⟩ := other
  cases fields
  exact read

namespace PathItem

private theorem Entry.distinctKeys_of_ofReading {key : String} {reading : Reading} {entry : Entry}
    (read : Entry.ofReading key reading = .ok entry) : entry.toField.2.distinctKeys := by
  cases named : Method.ofKey? key with
  | none =>
    rw [Entry.ofReading_of_none named] at read
    obtain ⟨value, raw, rfl⟩ := map_eq_ok_iff.mp read
    exact distinctKeys_of_rawValue raw
  | some method =>
    rw [Entry.ofReading_of_some named] at read
    obtain ⟨operation, inner, rfl⟩ := map_eq_ok_iff.mp read
    exact Operation.distinctKeys_of_ofReading inner

private theorem Entry.ofReading_toField {entry : Entry} (distinct : entry.toField.2.distinctKeys) :
    Entry.ofReading entry.toField.1 entry.toField.2.toReading = .ok entry := by
  cases entry with
  | operation method operation =>
    have named : Method.ofKey? method.key = some method := Method.ofKey?_key method
    have read : Operation.ofReading operation.toJson.toReading = .ok operation :=
      Operation.ofReading_toJson distinct
    refine (Entry.ofReading_of_some named _).trans ?_
    rw [Entry.toField, read]
    rfl
  | field key value no_method =>
    have read : rawValue value.toReading = .ok value := rawValue_toReading distinct
    refine (Entry.ofReading_of_none no_method _).trans ?_
    rw [Entry.toField, read]
    rfl

private theorem distinct_of_entriesOfReadings {fields : List (String × Reading)}
    {entries : List Entry}
    (reads : entriesOfReadings fields = .ok entries) : Distinct ⟨entries⟩ := by
  induction fields generalizing entries with
  | nil =>
    cases reads
    exact distinct_empty
  | cons field rest ih =>
    obtain ⟨key, reading⟩ := field
    obtain ⟨entry, first, reads⟩ := bind_eq_ok_iff.mp reads
    obtain ⟨others, later, last⟩ := bind_eq_ok_iff.mp reads
    cases last
    exact List.forall_mem_cons.mpr ⟨Entry.distinctKeys_of_ofReading first, ih later⟩

theorem distinct_of_ofReading {reading : Reading} {item : PathItem}
    (read : PathItem.ofReading reading = .ok item) : item.Distinct := by
  unfold PathItem.ofReading at read
  split at read
  case h_1 fields stop =>
    obtain ⟨entries, reads, read⟩ := bind_eq_ok_iff.mp read
    obtain ⟨-, -, read⟩ := bind_eq_ok_iff.mp read
    cases read
    exact distinct_of_entriesOfReadings reads
  case h_2 => cases read

private theorem entriesOfReadings_toField {entries : List Entry} (distinct : Distinct ⟨entries⟩) :
    entriesOfReadings (Json.fieldsToReading (entries.map Entry.toField)) = .ok entries := by
  induction entries with
  | nil => rfl
  | cons entry rest ih =>
    obtain ⟨here, others⟩ := List.forall_mem_cons.mp distinct
    have first := Entry.ofReading_toField here
    have later := ih others
    simp only [List.map_cons, Json.fieldsToReading, entriesOfReadings, first, later]
    rfl

private theorem ofReading_toJson {item : PathItem} (distinct : item.Distinct) :
    PathItem.ofReading item.toJson.toReading = .ok item :=
  ofReading_object_eq_ok_iff.mpr (entriesOfReadings_toField distinct)

end PathItem

namespace Paths

/-- No object below an entry of the paths has a key twice. -/
def Entry.Distinct : Entry → Prop
  | .item content => content.Distinct
  | .extension value => value.distinctKeys

/-- No object below the entries of the paths has a key twice. -/
def Distinct (paths : Paths) : Prop := ∀ entry ∈ paths.entries.entries, entry.2.Distinct

theorem Entry.distinct_of_ofReading {key : String} {reading : Reading} {entry : Entry}
    (read : Entry.ofReading key reading = .ok entry) : entry.Distinct := by
  unfold Entry.ofReading at read
  split at read
  · obtain ⟨value, raw, rfl⟩ := map_eq_ok_iff.mp read
    exact distinctKeys_of_rawValue raw
  · obtain ⟨item, inner, rfl⟩ := map_eq_ok_iff.mp read
    exact PathItem.distinct_of_ofReading inner

private theorem distinct_takeEntries {readings : List (String × Reading)}
    {taken result : OrderedMap Entry}
    (reads : takeEntries taken readings = .ok result) (distinct : Distinct ⟨taken⟩) :
    Distinct ⟨result⟩ := by
  induction readings generalizing taken with
  | nil =>
    cases reads
    exact distinct
  | cons field rest ih =>
    obtain ⟨key, reading⟩ := field
    obtain ⟨entry, read, reads⟩ := bind_eq_ok_iff.mp reads
    refine ih reads fun other hm => ?_
    obtain rfl | old := mem_writeEntry hm
    · exact Entry.distinct_of_ofReading read
    · exact distinct other old

theorem distinct_of_ofReading {reading : Reading} {paths : Paths}
    (read : Paths.ofReading reading = .ok paths) : paths.Distinct := by
  unfold Paths.ofReading at read
  split at read
  case h_1 fields stop =>
    obtain ⟨entries, reads, read⟩ := bind_eq_ok_iff.mp read
    obtain ⟨-, -, read⟩ := bind_eq_ok_iff.mp read
    cases read
    exact distinct_takeEntries reads fun _ none => nomatch none
  case h_2 => cases read

private theorem Entry.ofReading_toJson {key : String} {entry : Entry} (distinct : entry.Distinct)
    (keyed : entry.isExtension = isExtensionKey key) :
    Entry.ofReading key entry.toJson.toReading = .ok entry := by
  unfold Entry.ofReading
  rw [← keyed]
  cases entry with
  | item content =>
    have read : PathItem.ofReading content.toJson.toReading = .ok content :=
      PathItem.ofReading_toJson distinct
    rw [if_neg (by simp [isExtension]), toJson, read]
    rfl
  | extension value =>
    have read : rawValue value.toReading = .ok value := rawValue_toReading distinct
    rw [if_pos (by simp [isExtension]), toJson, read]
    rfl

private theorem takeEntries_toJson {taken : OrderedMap Entry} {entries : List (String × Entry)}
    (nodup : ((taken.entries ++ entries).map Prod.fst).Nodup)
    (good : ∀ entry ∈ entries, entry.2.Distinct ∧ entry.2.isExtension = isExtensionKey entry.1) :
    takeEntries taken (Json.fieldsToReading (entries.map fun entry => (entry.1, entry.2.toJson))) =
      .ok ⟨taken.entries ++ entries, nodup⟩ := by
  induction entries generalizing taken with
  | nil =>
    refine congrArg Except.ok (OrderedMap.ext_entries ?_)
    exact (List.append_nil _).symm
  | cons entry rest ih =>
    obtain ⟨key, entry⟩ := entry
    obtain ⟨⟨distinct, keyed⟩, others⟩ := List.forall_mem_cons.mp good
    have keys : (taken.entries.map Prod.fst ++ key :: rest.map Prod.fst).Nodup := by
      rwa [List.map_append, List.map_cons] at nodup
    obtain ⟨behind, fresh⟩ := OrderedMap.entries_insert_of_fresh keys entry
    have read : Entry.ofReading key entry.toJson.toReading = .ok entry :=
      Entry.ofReading_toJson distinct keyed
    have later := ih (by rwa [List.map_append]) others
    have regrouped : (taken.insert key entry).entries ++ rest =
        taken.entries ++ (key, entry) :: rest := by
      rw [behind, List.append_assoc, List.singleton_append]
    simp only [List.map_cons, Json.fieldsToReading, takeEntries, read]
    exact later.trans (congrArg Except.ok (OrderedMap.ext_entries regrouped))

/-- Paths come back as they were exactly if extensions stand under the keys of extensions only. -/
theorem ofReading_toJson_iff {paths : Paths} (distinct : paths.Distinct) :
    Paths.ofReading paths.toJson.toReading = .ok paths ↔ paths.WellKeyed := by
  constructor
  · exact wellKeyed_of_ofReading
  · intro keyed
    have reads := @takeEntries_toJson .empty paths.entries.entries paths.entries.nodup
      fun entry hm => ⟨distinct entry hm, keyed entry hm⟩
    exact ofReading_object_eq_ok_iff.mpr reads

end Paths

end TypedRoutes.OpenApi
