import TypedRoutes.Proofs.Json.Distinct
import TypedRoutes.Proofs.OpenApi.Paths

/-!
Which JSON values are documents, and what is written when a document is read and written again. A
document is told by the objects on the way to its operations; all of it comes back in its order,
and only null paths come back as an empty object.
-/

set_option autoImplicit false
set_option relaxedAutoImplicit false

namespace TypedRoutes

namespace Json

def isObject : Json → Bool
  | .object _ => true
  | _ => false

end Json

namespace OpenApi

open Json (Reading ReadError bind_eq_ok_iff map_eq_ok_iff)

def methodKeys : List String :=
  ["get", "put", "post", "delete", "options", "head", "patch", "trace"]

def isPathItem : Json → Bool
  | .object fields => fields.all fun field => field.1 ∉ methodKeys || field.2.isObject
  | _ => false

def isPaths : Json → Bool
  | .object fields => fields.all fun field =>
      ['x', '-'].isPrefixOf field.1.toList || isPathItem field.2
  | _ => false

def isDocument : Json → Bool
  | .object fields => fields.all fun field =>
      field.1 ≠ "paths" || (field.2.isNull || isPaths field.2)
  | _ => false

def withPathsObject : Json → Json
  | .object fields => .object (fields.map fun field =>
      if field.1 = "paths" ∧ field.2.isNull then (field.1, .object []) else field)
  | value => value

private theorem isSome_ofKey?_iff (key : String) :
    (Method.ofKey? key).isSome ↔ key ∈ methodKeys := by
  have keys : Method.all.map Method.key = methodKeys := rfl
  rw [← keys, List.mem_map, Method.ofKey?, List.find?_isSome]
  simp only [beq_iff_eq]

private theorem key_of_ofKey?_eq_some {key : String} {method : Method}
    (h : Method.ofKey? key = some method) : method.key = key := by
  have found := List.find?_some h
  exact beq_iff_eq.mp found

theorem rawValue_toReading {value : Json} (distinct : value.distinctKeys) :
    rawValue value.toReading = .ok value := by
  unfold rawValue
  rw [Json.toJson_toReading]
  exact congrArg Except.ok (Json.collapse_of_distinctKeys distinct)

namespace Operation

theorem ofReading_object {fields : List (String × Json)}
    (distinct : (Json.object fields).distinctKeys) :
    ∃ operation, Operation.ofReading (Json.object fields).toReading = .ok operation ∧
      operation.toJson = .object fields := by
  obtain ⟨nodup, values⟩ := Json.distinctKeys_object_iff.mp distinct
  have read : Operation.ofReading (Json.object fields).toReading =
      .ok ⟨OrderedMap.ofList (fields.map fun field => (field.1, field.2.collapse))⟩ := by
    simp only [Json.toReading, Operation.ofReading, Json.fieldsToJson_fieldsToReading]
    rfl
  refine ⟨_, read, ?_⟩
  rw [Json.map_collapse_of_distinctFields values, Operation.toJson,
    OrderedMap.entries_ofList nodup]

private theorem ofReading_toReading_iff {value : Json} (distinct : value.distinctKeys) :
    (∃ operation, Operation.ofReading value.toReading = .ok operation) ↔ value.isObject := by
  cases value with
  | object fields =>
    obtain ⟨operation, read, -⟩ := ofReading_object distinct
    exact ⟨fun _ => rfl, fun _ => ⟨operation, read⟩⟩
  | _ => simp [Json.toReading, Operation.ofReading, Json.isObject]

private theorem toJson_of_ofReading {value : Json} {operation : Operation}
    (distinct : value.distinctKeys) (h : Operation.ofReading value.toReading = .ok operation) :
    operation.toJson = value := by
  have accepted := (ofReading_toReading_iff distinct).mp ⟨operation, h⟩
  cases value with
  | object fields =>
    obtain ⟨other, read, written⟩ := ofReading_object distinct
    obtain rfl : other = operation := Except.ok.inj (read.symm.trans h)
    exact written
  | _ => simp [Json.isObject] at accepted

end Operation

namespace PathItem

theorem Entry.ofReading_of_some {key : String} {method : Method}
    (h : Method.ofKey? key = some method) (reading : Reading) :
    Entry.ofReading key reading = (Operation.ofReading reading).map (.operation method) := by
  unfold Entry.ofReading
  split
  case h_1 other hother =>
    obtain rfl : other = method := Option.some.inj (hother.symm.trans h)
    rfl
  case h_2 hnone => simp [hnone] at h

theorem Entry.ofReading_of_none {key : String} (h : Method.ofKey? key = none) (reading : Reading) :
    Entry.ofReading key reading = (rawValue reading).map fun value => .field key value h := by
  unfold Entry.ofReading
  split
  case h_1 method hsome => simp [hsome] at h
  case h_2 => rfl

private theorem Entry.ofReading_toReading_iff (key : String) {value : Json}
    (distinct : value.distinctKeys) :
    (∃ entry, Entry.ofReading key value.toReading = .ok entry) ↔
      key ∉ methodKeys ∨ value.isObject := by
  rw [← isSome_ofKey?_iff, ← Operation.ofReading_toReading_iff distinct]
  cases h : Method.ofKey? key with
  | none =>
    rw [Entry.ofReading_of_none h, rawValue_toReading distinct]
    simp [Except.map]
  | some method =>
    rw [Entry.ofReading_of_some h]
    simp [map_eq_ok_iff]

private theorem Entry.toField_of_ofReading {key : String} {value : Json} {entry : Entry}
    (distinct : value.distinctKeys) (h : Entry.ofReading key value.toReading = .ok entry) :
    entry.toField = (key, value) := by
  cases hkey : Method.ofKey? key with
  | none =>
    rw [Entry.ofReading_of_none hkey, rawValue_toReading distinct] at h
    cases h
    rfl
  | some method =>
    rw [Entry.ofReading_of_some hkey] at h
    obtain ⟨operation, read, rfl⟩ := map_eq_ok_iff.mp h
    exact Prod.ext (key_of_ofKey?_eq_some hkey) (Operation.toJson_of_ofReading distinct read)

private theorem entriesOfReadings_iff {fields : List (String × Json)}
    (distinct : Json.distinctFields fields) :
    (∃ entries, entriesOfReadings (Json.fieldsToReading fields) = .ok entries) ↔
      ∀ field ∈ fields, field.1 ∉ methodKeys ∨ field.2.isObject := by
  induction fields with
  | nil => simp [Json.fieldsToReading, entriesOfReadings]
  | cons field rest ih =>
    obtain ⟨key, value⟩ := field
    obtain ⟨ofValue, ofRest⟩ := Json.distinctFields_cons_iff.mp distinct
    rw [List.forall_mem_cons, ← Entry.ofReading_toReading_iff key ofValue, ← ih ofRest]
    simp only [Json.fieldsToReading, entriesOfReadings, bind_eq_ok_iff]
    constructor
    · rintro ⟨_, entry, read, entries, reads, -⟩
      exact ⟨⟨entry, read⟩, ⟨entries, reads⟩⟩
    · rintro ⟨⟨entry, read⟩, ⟨entries, reads⟩⟩
      exact ⟨_, entry, read, entries, reads, rfl⟩

private theorem map_toField_of_entriesOfReadings {fields : List (String × Json)}
    {entries : List Entry} (distinct : Json.distinctFields fields)
    (h : entriesOfReadings (Json.fieldsToReading fields) = .ok entries) :
    entries.map Entry.toField = fields := by
  induction fields generalizing entries with
  | nil =>
    cases h
    rfl
  | cons field rest ih =>
    obtain ⟨key, value⟩ := field
    obtain ⟨ofValue, ofRest⟩ := Json.distinctFields_cons_iff.mp distinct
    simp only [Json.fieldsToReading, entriesOfReadings, bind_eq_ok_iff] at h
    obtain ⟨entry, read, others, reads, h⟩ := h
    cases h
    rw [List.map_cons, Entry.toField_of_ofReading ofValue read, ih ofRest reads]

theorem ofReading_object_eq_ok_iff {fields : List (String × Json)} {item : PathItem} :
    PathItem.ofReading (Json.object fields).toReading = .ok item ↔
      entriesOfReadings (Json.fieldsToReading fields) = .ok item.entries := by
  simp only [Json.toReading, PathItem.ofReading, bind_eq_ok_iff]
  constructor
  · rintro ⟨entries, read, -, -, h⟩
    cases h
    exact read
  · intro read
    exact ⟨item.entries, read, (), rfl, rfl⟩

private theorem ofReading_toReading_iff {value : Json} (distinct : value.distinctKeys) :
    (∃ item, PathItem.ofReading value.toReading = .ok item) ↔ isPathItem value := by
  cases value with
  | object fields =>
    have entries := entriesOfReadings_iff (Json.distinctKeys_object_iff.mp distinct).2
    simp only [isPathItem, List.all_eq_true, Bool.or_eq_true, decide_eq_true_eq, ← entries,
      ofReading_object_eq_ok_iff]
    exact ⟨fun ⟨item, read⟩ => ⟨item.entries, read⟩, fun ⟨entries, read⟩ => ⟨⟨entries⟩, read⟩⟩
  | _ => simp [Json.toReading, PathItem.ofReading, isPathItem]

private theorem toJson_of_ofReading {value : Json} {item : PathItem} (distinct : value.distinctKeys)
    (h : PathItem.ofReading value.toReading = .ok item) : item.toJson = value := by
  cases value with
  | object fields =>
    obtain ⟨-, values⟩ := Json.distinctKeys_object_iff.mp distinct
    have read := ofReading_object_eq_ok_iff.mp h
    exact congrArg Json.object (map_toField_of_entriesOfReadings values read)
  | _ => simp [Json.toReading, PathItem.ofReading] at h

end PathItem

namespace Paths

private theorem Entry.ofReading_toReading_iff (key : String) {value : Json}
    (distinct : value.distinctKeys) :
    (∃ entry, Entry.ofReading key value.toReading = .ok entry) ↔
      ['x', '-'].isPrefixOf key.toList ∨ isPathItem value := by
  rw [← PathItem.ofReading_toReading_iff distinct]
  unfold Entry.ofReading isExtensionKey
  split
  case isTrue isExtension =>
    rw [rawValue_toReading distinct]
    simp [Except.map, isExtension]
  case isFalse isItem => simp [map_eq_ok_iff, isItem]

private theorem Entry.toJson_of_ofReading {key : String} {value : Json} {entry : Entry}
    (distinct : value.distinctKeys) (h : Entry.ofReading key value.toReading = .ok entry) :
    entry.toJson = value := by
  unfold Entry.ofReading at h
  split at h
  · rw [rawValue_toReading distinct] at h
    cases h
    rfl
  · obtain ⟨item, read, rfl⟩ := map_eq_ok_iff.mp h
    exact PathItem.toJson_of_ofReading distinct read

private theorem takeEntries_iff {fields : List (String × Json)} (taken : OrderedMap Entry)
    (distinct : Json.distinctFields fields) :
    (∃ entries, takeEntries taken (Json.fieldsToReading fields) = .ok entries) ↔
      ∀ field ∈ fields, ['x', '-'].isPrefixOf field.1.toList ∨ isPathItem field.2 := by
  induction fields generalizing taken with
  | nil => simp [Json.fieldsToReading, takeEntries]
  | cons field rest ih =>
    obtain ⟨key, value⟩ := field
    obtain ⟨ofValue, ofRest⟩ := Json.distinctFields_cons_iff.mp distinct
    rw [List.forall_mem_cons, ← Entry.ofReading_toReading_iff key ofValue]
    simp only [Json.fieldsToReading, takeEntries, bind_eq_ok_iff]
    constructor
    · rintro ⟨entries, entry, read, reads⟩
      exact ⟨⟨entry, read⟩, (ih _ ofRest).mp ⟨entries, reads⟩⟩
    · rintro ⟨⟨entry, read⟩, others⟩
      obtain ⟨entries, reads⟩ := (ih (taken.insert key entry) ofRest).mpr others
      exact ⟨entries, entry, read, reads⟩

private theorem map_toJson_of_takeEntries {fields : List (String × Json)}
    {taken entries : OrderedMap Entry} (distinct : Json.distinctFields fields)
    (nodup : (taken.entries.map Prod.fst ++ fields.map Prod.fst).Nodup)
    (h : takeEntries taken (Json.fieldsToReading fields) = .ok entries) :
    entries.entries.map (fun entry => (entry.1, entry.2.toJson)) =
      taken.entries.map (fun entry => (entry.1, entry.2.toJson)) ++ fields := by
  induction fields generalizing taken with
  | nil =>
    cases h
    exact (List.append_nil _).symm
  | cons field rest ih =>
    obtain ⟨key, value⟩ := field
    obtain ⟨ofValue, ofRest⟩ := Json.distinctFields_cons_iff.mp distinct
    simp only [Json.fieldsToReading, takeEntries, bind_eq_ok_iff] at h
    obtain ⟨entry, read, reads⟩ := h
    obtain ⟨behind, fresh⟩ := OrderedMap.entries_insert_of_fresh nodup entry
    rw [ih ofRest fresh reads, behind, List.map_append, List.map_singleton,
      Entry.toJson_of_ofReading ofValue read, List.append_assoc]
    rfl

theorem ofReading_object_eq_ok_iff {fields : List (String × Json)} {paths : Paths} :
    Paths.ofReading (Json.object fields).toReading = .ok paths ↔
      takeEntries .empty (Json.fieldsToReading fields) = .ok paths.entries := by
  simp only [Json.toReading, Paths.ofReading, bind_eq_ok_iff]
  constructor
  · rintro ⟨entries, read, -, -, h⟩
    cases h
    exact read
  · intro read
    exact ⟨paths.entries, read, (), rfl, rfl⟩

private theorem ofReading_toReading_iff {value : Json} (distinct : value.distinctKeys) :
    (∃ paths, Paths.ofReading value.toReading = .ok paths) ↔ isPaths value := by
  cases value with
  | object fields =>
    have entries := takeEntries_iff .empty (Json.distinctKeys_object_iff.mp distinct).2
    simp only [isPaths, List.all_eq_true, Bool.or_eq_true, ← entries, ofReading_object_eq_ok_iff]
    exact ⟨fun ⟨paths, read⟩ => ⟨paths.entries, read⟩, fun ⟨entries, read⟩ => ⟨⟨entries⟩, read⟩⟩
  | _ => simp [Json.toReading, Paths.ofReading, isPaths]

private theorem toJson_of_ofReading {value : Json} {paths : Paths} (distinct : value.distinctKeys)
    (h : Paths.ofReading value.toReading = .ok paths) : paths.toJson = value := by
  cases value with
  | object fields =>
    obtain ⟨nodup, values⟩ := Json.distinctKeys_object_iff.mp distinct
    have read := ofReading_object_eq_ok_iff.mp h
    have behindNothing : ((OrderedMap.empty (α := Entry)).entries.map Prod.fst ++
        fields.map Prod.fst).Nodup := nodup
    exact congrArg Json.object (map_toJson_of_takeEntries values behindNothing read)
  | _ => simp [Json.toReading, Paths.ofReading] at h

end Paths

namespace Document

private theorem pathsOfReading_toReading_iff {value : Json} (distinct : value.distinctKeys) :
    (∃ paths, pathsOfReading value.toReading = .ok paths) ↔ value.isNull ∨ isPaths value := by
  cases value with
  | null => simp [Json.toReading, pathsOfReading, Json.isNull]
  | _ =>
    rw [← Paths.ofReading_toReading_iff distinct]
    simp [Json.toReading, pathsOfReading, Json.isNull]

private theorem toJson_of_pathsOfReading {value : Json} {paths : Paths}
    (distinct : value.distinctKeys) (h : pathsOfReading value.toReading = .ok paths) :
    paths.toJson = if value.isNull then .object [] else value := by
  cases value with
  | null =>
    cases h
    rfl
  | _ => exact Paths.toJson_of_ofReading distinct h

private theorem takeFields_paths (taken : Document) (reading : Reading)
    (rest : List (String × Reading)) :
    takeFields taken (("paths", reading) :: rest) = (do
      let paths ← pathsOfReading reading
      takeFields ⟨taken.fields.insert "paths" .null, paths⟩ rest) := by
  rw [takeFields]
  exact if_pos rfl

private theorem takeFields_other {key : String} (h : key ≠ "paths") (taken : Document)
    (reading : Reading) (rest : List (String × Reading)) :
    takeFields taken ((key, reading) :: rest) = (do
      let value ← rawValue reading
      takeFields ⟨taken.fields.insert key value, taken.paths⟩ rest) := by
  rw [takeFields]
  exact if_neg h

private theorem takeFields_iff {fields : List (String × Json)} (taken : Document)
    (distinct : Json.distinctFields fields) :
    (∃ document, takeFields taken (Json.fieldsToReading fields) = .ok document) ↔
      ∀ field ∈ fields, field.1 ≠ "paths" ∨ (field.2.isNull ∨ isPaths field.2) := by
  induction fields generalizing taken with
  | nil => simp [Json.fieldsToReading, takeFields]
  | cons field rest ih =>
    obtain ⟨key, value⟩ := field
    obtain ⟨ofValue, ofRest⟩ := Json.distinctFields_cons_iff.mp distinct
    rw [List.forall_mem_cons, ← pathsOfReading_toReading_iff ofValue]
    rw [Json.fieldsToReading]
    by_cases h : key = "paths"
    · subst h
      simp only [takeFields_paths, bind_eq_ok_iff, ne_eq, not_true_eq_false, false_or]
      constructor
      · rintro ⟨document, paths, read, reads⟩
        exact ⟨⟨paths, read⟩, (ih _ ofRest).mp ⟨document, reads⟩⟩
      · rintro ⟨⟨paths, read⟩, others⟩
        obtain ⟨document, reads⟩ := (ih ⟨_, paths⟩ ofRest).mpr others
        exact ⟨document, paths, read, reads⟩
    · simp only [takeFields_other h, rawValue_toReading ofValue, ne_eq, h, not_false_eq_true,
        true_or, true_and]
      exact ih _ ofRest

/-- What stands under a key of the root fields; the paths only have their place there. -/
def slot (field : String × Json) : String × Json :=
  if field.1 = "paths" then (field.1, .null) else field

private theorem fields_of_takeFields {fields : List (String × Json)} {taken document : Document}
    (distinct : Json.distinctFields fields)
    (nodup : (taken.fields.entries.map Prod.fst ++ fields.map Prod.fst).Nodup)
    (h : takeFields taken (Json.fieldsToReading fields) = .ok document) :
    document.fields.entries = taken.fields.entries ++ fields.map slot := by
  induction fields generalizing taken with
  | nil =>
    cases h
    exact (List.append_nil _).symm
  | cons field rest ih =>
    obtain ⟨key, value⟩ := field
    obtain ⟨ofValue, ofRest⟩ := Json.distinctFields_cons_iff.mp distinct
    rw [Json.fieldsToReading] at h
    by_cases isSlot : key = "paths"
    · subst isSlot
      rw [takeFields_paths] at h
      obtain ⟨paths, -, reads⟩ := bind_eq_ok_iff.mp h
      obtain ⟨behind, fresh⟩ := OrderedMap.entries_insert_of_fresh nodup Json.null
      rw [ih ofRest fresh reads, behind]
      simp [slot]
    · rw [takeFields_other isSlot, rawValue_toReading ofValue] at h
      obtain ⟨behind, fresh⟩ := OrderedMap.entries_insert_of_fresh nodup value
      rw [ih ofRest fresh h, behind]
      simp [slot, isSlot]

private theorem paths_of_takeFields {fields : List (String × Json)} {taken document : Document}
    (distinct : Json.distinctFields fields) (nodup : (fields.map Prod.fst).Nodup)
    (h : takeFields taken (Json.fieldsToReading fields) = .ok document) :
    match entryValue? "paths" fields with
    | none => document.paths = taken.paths
    | some value => pathsOfReading value.toReading = .ok document.paths := by
  induction fields generalizing taken with
  | nil =>
    cases h
    rfl
  | cons field rest ih =>
    obtain ⟨key, value⟩ := field
    obtain ⟨ofValue, ofRest⟩ := Json.distinctFields_cons_iff.mp distinct
    rw [List.map_cons, List.nodup_cons] at nodup
    rw [Json.fieldsToReading] at h
    by_cases isSlot : key = "paths"
    · subst isSlot
      rw [takeFields_paths] at h
      obtain ⟨paths, read, reads⟩ := bind_eq_ok_iff.mp h
      have later := ih ofRest nodup.2 reads
      rw [entryValue?_eq_none_iff.mpr nodup.1] at later
      simpa [entryValue?, later] using read
    · rw [takeFields_other isSlot, rawValue_toReading ofValue] at h
      simpa [entryValue?, isSlot] using ih ofRest nodup.2 h

private theorem ofJson_object_eq (fields : List (String × Json)) :
    Document.ofJson (.object fields) = takeFields {} (Json.fieldsToReading fields) := by
  unfold Document.ofJson
  simp only [Json.toReading, Document.ofReading]
  cases takeFields {} (Json.fieldsToReading fields) <;> rfl

private theorem ofJson_iff {value : Json} (distinct : value.distinctKeys) :
    (∃ document, Document.ofJson value = .ok document) ↔ isDocument value := by
  cases value with
  | object fields =>
    obtain ⟨-, values⟩ := Json.distinctKeys_object_iff.mp distinct
    rw [ofJson_object_eq, takeFields_iff {} values]
    simp [isDocument]
  | _ => simp [Document.ofJson, Json.toReading, Document.ofReading, isDocument]

private theorem contains_of_map_slot {fields : List (String × Json)} {document : Document}
    (kept : document.fields.entries = fields.map slot) :
    document.fields.contains "paths" = (entryValue? "paths" fields).isSome := by
  unfold OrderedMap.contains OrderedMap.get?
  rw [kept]
  clear kept
  induction fields with
  | nil => rfl
  | cons field rest ih =>
    obtain ⟨key, value⟩ := field
    by_cases isSlot : key = "paths" <;> simp [slot, entryValue?, isSlot, ih]

private theorem toJson_of_takeFields {fields : List (String × Json)} {document : Document}
    (distinct : Json.distinctFields fields) (nodup : (fields.map Prod.fst).Nodup)
    (h : takeFields {} (Json.fieldsToReading fields) = .ok document) :
    document.toJson = withPathsObject (.object fields) := by
  have behindNothing : (({} : Document).fields.entries.map Prod.fst ++
      fields.map Prod.fst).Nodup := nodup
  have kept : document.fields.entries = fields.map slot :=
    fields_of_takeFields distinct behindNothing h
  have paths := paths_of_takeFields distinct nodup h
  have filled : (document.fields.entries.map fun field =>
      if field.1 = pathsField then (field.1, document.paths.toJson) else field) =
        fields.map fun field =>
          if field.1 = "paths" ∧ field.2.isNull then (field.1, .object []) else field := by
    rw [kept, List.map_map]
    refine List.map_congr_left fun field hm => ?_
    obtain ⟨key, value⟩ := field
    by_cases isSlot : key = "paths"
    · subst isSlot
      rw [(entryValue?_eq_some_iff nodup).mpr hm] at paths
      have written := toJson_of_pathsOfReading (Json.distinctKeys_of_mem distinct hm) paths
      by_cases null : value.isNull <;> simp [slot, pathsField, written, null]
    · simp [slot, pathsField, isSlot]
  have placed : (document.fields.contains pathsField ||
      document.paths.entries.entries.isEmpty) = true := by
    have place : document.fields.contains pathsField = _ := contains_of_map_slot kept
    rw [place]
    cases held : entryValue? "paths" fields with
    | some value => rfl
    | none =>
      rw [held] at paths
      rw [paths]
      rfl
  exact (if_pos placed).trans (congrArg Json.object filled)

private theorem pathsOfReading_withPathsObject (value : Json) :
    pathsOfReading (if value.isNull then Json.object [] else value).toReading =
      pathsOfReading value.toReading := by
  cases value with
  | null => rfl
  | _ => rfl

private theorem takeFields_withPathsObject (taken : Document) (fields : List (String × Json)) :
    takeFields taken (Json.fieldsToReading (fields.map fun field =>
        if field.1 = "paths" ∧ field.2.isNull then (field.1, .object []) else field)) =
      takeFields taken (Json.fieldsToReading fields) := by
  induction fields generalizing taken with
  | nil => rfl
  | cons field rest ih =>
    obtain ⟨key, value⟩ := field
    by_cases isSlot : key = "paths"
    · subst isSlot
      have first : (if "paths" = "paths" ∧ value.isNull then (("paths", .object []) : String × Json)
          else ("paths", value)) = ("paths", if value.isNull then .object [] else value) := by
        by_cases null : value.isNull <;> simp [null]
      rw [List.map_cons, first, Json.fieldsToReading, Json.fieldsToReading, takeFields_paths,
        takeFields_paths, pathsOfReading_withPathsObject]
      exact bind_congr fun paths => ih _
    · simp only [List.map_cons, isSlot, false_and, if_false, Json.fieldsToReading,
        takeFields_other isSlot]
      exact bind_congr fun held => ih _

private theorem ofJson_withPathsObject (value : Json) :
    Document.ofJson (withPathsObject value) = Document.ofJson value := by
  cases value with
  | object fields =>
    rw [withPathsObject, ofJson_object_eq, ofJson_object_eq, takeFields_withPathsObject]
  | _ => rfl

end Document

/--
A value in which no object repeats a key is read as a document exactly if it is an object down to
its operations. What was read is written as the value was, in the same order at every level, but
for null paths, which are written as an empty object; and it is read from there again.
-/
theorem ofJson_restores_document (value : Json) (distinct : value.distinctKeys) :
    ((∃ document, Document.ofJson value = .ok document) ↔ isDocument value) ∧
    ∀ document, Document.ofJson value = .ok document →
      document.toJson = withPathsObject value ∧
      Document.ofJson document.toJson = .ok document := by
  refine ⟨Document.ofJson_iff distinct, fun document read => ?_⟩
  have written : document.toJson = withPathsObject value := by
    cases value with
    | object fields =>
      obtain ⟨nodup, values⟩ := Json.distinctKeys_object_iff.mp distinct
      rw [Document.ofJson_object_eq] at read
      exact Document.toJson_of_takeFields values nodup read
    | _ => simp [Document.ofJson, Json.toReading, Document.ofReading] at read
  refine ⟨written, ?_⟩
  rw [written, Document.ofJson_withPathsObject]
  exact read

/-- Paths between two root fields: an extension that is no object, and a path item with a shared
field, a key in capitals and two operations. -/
def petsValue : Json :=
  .object [("openapi", .string "3.1.0"), ("paths", .object [
    ("x-tags", .array [.bool true, .null]),
    ("/pets", .object [("GET", .null), ("post", .object [("operationId", .number (.integer 7))]),
      ("parameters", .array []), ("get", .object [])])]), ("info", .object [("title", .null)])]

theorem ofJson_restores_document_pets :
    (∃ document, Document.ofJson petsValue = .ok document ∧ document.toJson = petsValue ∧
      Document.ofJson document.toJson = .ok document) ∧
    ∃ document, Document.ofJson (.object [("paths", .null), ("info", .null)]) = .ok document ∧
      document.toJson = .object [("paths", .object []), ("info", .null)] := by
  have pets := ofJson_restores_document petsValue (by decide)
  have bare := ofJson_restores_document (.object [("paths", .null), ("info", .null)]) (by decide)
  obtain ⟨document, read⟩ := pets.1.mpr (by decide)
  obtain ⟨empty, readEmpty⟩ := bare.1.mpr (by decide)
  exact ⟨⟨document, read, pets.2 document read⟩, empty, readEmpty, (bare.2 empty readEmpty).1⟩

end OpenApi

end TypedRoutes
