import TypedRoutes.Json.Reading
import TypedRoutes.Proofs.OrderedMap

/-!
JSON values in which no object repeats a key. Nothing is lost when such a value is read: it comes
back whole from its reading, and keeping one field per key keeps all of them.
-/

set_option autoImplicit false
set_option relaxedAutoImplicit false

namespace TypedRoutes.Json

mutual

def distinctKeys : Json → Bool
  | .array items => distinctItems items
  | .object fields => decide (fields.map Prod.fst).Nodup && distinctFields fields
  | .null => true
  | .bool _ => true
  | .number _ => true
  | .string _ => true

def distinctItems : List Json → Bool
  | [] => true
  | item :: rest => item.distinctKeys && distinctItems rest

def distinctFields : List (String × Json) → Bool
  | [] => true
  | (_, value) :: rest => value.distinctKeys && distinctFields rest

end

theorem distinctKeys_object_iff {fields : List (String × Json)} :
    (Json.object fields).distinctKeys ↔ (fields.map Prod.fst).Nodup ∧ distinctFields fields := by
  simp only [distinctKeys, Bool.and_eq_true, decide_eq_true_eq]

theorem distinctFields_cons_iff {key : String} {value : Json} {rest : List (String × Json)} :
    distinctFields ((key, value) :: rest) ↔ value.distinctKeys ∧ distinctFields rest := by
  simp only [distinctFields, Bool.and_eq_true]

theorem distinctKeys_of_mem {fields : List (String × Json)} {field : String × Json}
    (distinct : distinctFields fields) (hm : field ∈ fields) : field.2.distinctKeys := by
  induction fields with
  | nil => simp at hm
  | cons first rest ih =>
    obtain ⟨here, others⟩ := distinctFields_cons_iff.mp distinct
    rcases List.mem_cons.mp hm with rfl | later
    · exact here
    · exact ih others later

/-- Writing fields one after another is what `collapse` does with them. -/
private theorem collapseFields_eq_writeAll (written fields : List (String × Json)) :
    collapseFields written fields =
      writeAll written (fields.map fun field => (field.1, field.2.collapse)) := by
  induction fields generalizing written with
  | nil => rfl
  | cons field rest ih =>
    unfold collapseFields
    exact ih _

mutual

theorem collapse_of_distinctKeys : ∀ {value : Json}, value.distinctKeys → value.collapse = value
  | .null, _ => rfl
  | .bool _, _ => rfl
  | .number _, _ => rfl
  | .string _, _ => rfl
  | .array items, distinct => by
    unfold distinctKeys at distinct
    unfold collapse
    rw [collapseItems_of_distinctItems distinct]
  | .object fields, distinct => by
    obtain ⟨nodup, values⟩ := distinctKeys_object_iff.mp distinct
    unfold collapse
    rw [collapseFields_eq_writeAll, map_collapse_of_distinctFields values,
      writeAll_of_nodup nodup, List.nil_append]

private theorem collapseItems_of_distinctItems :
    ∀ {items : List Json}, distinctItems items → collapseItems items = items
  | [], _ => rfl
  | item :: rest, distinct => by
    simp only [distinctItems, Bool.and_eq_true] at distinct
    unfold collapseItems
    rw [collapse_of_distinctKeys distinct.1, collapseItems_of_distinctItems distinct.2]

theorem map_collapse_of_distinctFields : ∀ {fields : List (String × Json)},
    distinctFields fields → fields.map (fun field => (field.1, field.2.collapse)) = fields
  | [], _ => rfl
  | (key, value) :: rest, distinct => by
    obtain ⟨here, others⟩ := distinctFields_cons_iff.mp distinct
    rw [List.map_cons, collapse_of_distinctKeys here, map_collapse_of_distinctFields others]

end

private theorem distinctFields_of_forall {fields : List (String × Json)}
    (h : ∀ field ∈ fields, field.2.distinctKeys) : distinctFields fields := by
  induction fields with
  | nil => rfl
  | cons first rest ih =>
    obtain ⟨here, others⟩ := List.forall_mem_cons.mp h
    exact distinctFields_cons_iff.mpr ⟨here, ih others⟩

theorem distinctKeys_writeAll {fields : List (String × Json)}
    (h : ∀ field ∈ fields, field.2.distinctKeys) :
    (Json.object (writeAll [] fields)).distinctKeys := by
  refine distinctKeys_object_iff.mpr ⟨nodup_keys_writeAll fields List.nodup_nil, ?_⟩
  refine distinctFields_of_forall fun field hm => ?_
  obtain none | written := mem_writeAll hm
  · nomatch none
  · exact h field written

mutual

theorem distinctKeys_collapse : ∀ value : Json, value.collapse.distinctKeys
  | .null => rfl
  | .bool _ => rfl
  | .number _ => rfl
  | .string _ => rfl
  | .array items => by
    unfold collapse distinctKeys
    exact distinctItems_collapseItems items
  | .object fields => by
    unfold collapse
    rw [collapseFields_eq_writeAll]
    refine distinctKeys_writeAll fun field hm => ?_
    obtain ⟨source, hsource, rfl⟩ := List.mem_map.mp hm
    exact distinctKeys_collapse_of_mem fields source hsource

private theorem distinctItems_collapseItems :
    ∀ items : List Json, distinctItems (collapseItems items)
  | [] => rfl
  | item :: rest => by
    unfold collapseItems distinctItems
    rw [distinctKeys_collapse item, distinctItems_collapseItems rest]
    rfl

private theorem distinctKeys_collapse_of_mem :
    ∀ (fields : List (String × Json)), ∀ field ∈ fields, field.2.collapse.distinctKeys
  | [], _, hm => nomatch hm
  | (key, value) :: rest, field, hm => by
    obtain rfl | later := List.mem_cons.mp hm
    · exact distinctKeys_collapse value
    · exact distinctKeys_collapse_of_mem rest field later

end

mutual

theorem toJson_toReading : ∀ value : Json, value.toReading.toJson = .ok value
  | .null => rfl
  | .bool _ => rfl
  | .number _ => rfl
  | .string _ => rfl
  | .array items => by
    simp only [toReading, Reading.toJson, itemsToJson_itemsToReading items]
    rfl
  | .object fields => by
    simp only [toReading, Reading.toJson, fieldsToJson_fieldsToReading fields]
    rfl

private theorem itemsToJson_itemsToReading :
    ∀ items : List Json, Reading.itemsToJson (itemsToReading items) = .ok items
  | [] => rfl
  | item :: rest => by
    simp only [itemsToReading, Reading.itemsToJson, toJson_toReading item,
      itemsToJson_itemsToReading rest]
    rfl

theorem fieldsToJson_fieldsToReading :
    ∀ fields : List (String × Json), Reading.fieldsToJson (fieldsToReading fields) = .ok fields
  | [] => rfl
  | (key, value) :: rest => by
    simp only [fieldsToReading, Reading.fieldsToJson, toJson_toReading value,
      fieldsToJson_fieldsToReading rest]
    rfl

end

end TypedRoutes.Json
