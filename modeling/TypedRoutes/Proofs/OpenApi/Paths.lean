import Mathlib.Tactic.SplitIfs
import TypedRoutes.OpenApi.Decoding
import TypedRoutes.Proofs.Json.Reading
import TypedRoutes.Proofs.OrderedMap

/-!
The paths of a document through their operations, and what a decoded document keeps apart: a key of
the paths holds an extension exactly if it is the key of one.
-/

set_option autoImplicit false
set_option relaxedAutoImplicit false

namespace TypedRoutes.OpenApi

open Json (Reading bind_eq_ok_iff map_eq_ok_iff)

@[simp] theorem Method.ofKey?_key (method : Method) : Method.ofKey? method.key = some method := by
  cases method <;> rfl

@[simp] theorem PathItem.Entry.operation?_mapOperation (f : Method → Operation → Operation)
    (entry : PathItem.Entry) :
    (entry.mapOperation f).operation? =
      entry.operation?.map fun operation => (operation.1, f operation.1 operation.2) := by
  cases entry <;> rfl

private theorem PathItem.operations_mapOperations (f : Method → Operation → Operation)
    (item : PathItem) :
    (item.mapOperations f).operations =
      item.operations.map fun operation => (operation.1, f operation.1 operation.2) := by
  simp [PathItem.operations, PathItem.mapOperations, List.filterMap_map, List.map_filterMap]

section Visiting

variable {δ σ : Type} {add : σ → List δ → σ}

theorem PathItem.visitOperations_eq (gathers : Gathers add)
    {f : Method → Operation → σ → Operation × σ} {change : Method → Operation → Operation}
    {tell : Method → Operation → List δ}
    (step : ∀ method op state, f method op state = (change method op, add state (tell method op)))
    (item : PathItem) (state : σ) :
    item.visitOperations f state = (item.mapOperations change,
      add state (item.operations.flatMap fun op => tell op.1 op.2)) := by
  have ofEntry (entry : PathItem.Entry) (state : σ) :
      entry.visitOperation f state = (entry.mapOperation change,
        add state (entry.operation?.toList.flatMap fun op => tell op.1 op.2)) := by
    cases entry with
    | operation method op =>
      simp only [Entry.visitOperation, step, Entry.mapOperation, Entry.operation?,
        Option.toList_some, List.flatMap_singleton]
    | field key value noMethod => exact congrArg (Prod.mk _) (gathers.nil state).symm
  rw [operations, List.filterMap_eq_flatMap_toList, List.flatMap_assoc, visitOperations,
    visitAll_eq gathers ofEntry]
  rfl

theorem Paths.visitItems_eq (gathers : Gathers add) {f : String → PathItem → σ → PathItem × σ}
    {change : String → PathItem → PathItem} {tell : String → PathItem → List δ}
    (step : ∀ template item state,
      f template item state = (change template item, add state (tell template item)))
    (paths : Paths) (state : σ) :
    paths.visitItems f state =
      (paths.mapItems change, add state (paths.items.flatMap fun item => tell item.1 item.2)) := by
  have ofEntry (template : String) (entry : Paths.Entry) (state : σ) :
      entry.visitItem (f template) state = (entry.mapItem (change template),
        add state (entry.item?.toList.flatMap (tell template))) := by
    cases entry with
    | item content =>
      simp only [Entry.visitItem, step, Entry.mapItem, Entry.item?, Option.toList_some,
        List.flatMap_singleton]
    | extension value => exact congrArg (Prod.mk _) (gathers.nil state).symm
  have each (entry : String × Paths.Entry) :
      (entry.2.item?.map fun item => (entry.1, item)).toList.flatMap
        (fun item => tell item.1 item.2) = entry.2.item?.toList.flatMap (tell entry.1) := by
    cases entry.2.item? <;> simp
  rw [items, List.filterMap_eq_flatMap_toList, List.flatMap_assoc, visitItems,
    OrderedMap.visitValues_eq gathers ofEntry]
  simp only [each]
  rfl

end Visiting

namespace Paths

@[simp] theorem Entry.item?_item (content : PathItem) : (Entry.item content).item? = some content :=
  rfl

@[simp] theorem Entry.item?_extension (value : Json) : (Entry.extension value).item? = none := rfl

@[simp] theorem Entry.item?_mapItem (f : PathItem → PathItem) (entry : Entry) :
    (entry.mapItem f).item? = entry.item?.map f := by
  cases entry <;> rfl

theorem insert_eq (paths : Paths) (template : String) (item : PathItem) :
    paths.insert template item = ⟨paths.entries.insert template (.item item)⟩ := rfl

theorem erase_eq (paths : Paths) (template : String) :
    paths.erase template =
      if paths.contains template then ⟨paths.entries.erase template⟩ else paths :=
  apply_ite Prod.snd ..

theorem getThenInsert?_eq (paths : Paths) (template : String) (item : PathItem) :
    paths.getThenInsert? template item = (paths.get? template, paths.insert template item) := rfl

theorem getThenErase?_eq (paths : Paths) (template : String) :
    paths.getThenErase? template = (paths.get? template, paths.erase template) := by
  refine Prod.ext ?_ rfl
  unfold getThenErase?
  split_ifs with held
  · rfl
  · exact (Option.not_isSome_iff_eq_none.mp held).symm

theorem items_mapItems (f : String → PathItem → PathItem) (paths : Paths) :
    (paths.mapItems f).items = paths.items.map fun item => (item.1, f item.1 item.2) := by
  simp [items, mapItems, OrderedMap.mapValues, List.filterMap_map, List.map_filterMap,
    Function.comp_def]

theorem operations_mapItems (f : String → Method → Operation → Operation) (paths : Paths) :
    (paths.mapItems fun template item => item.mapOperations (f template)).operations =
      paths.operations.map fun operation =>
        (operation.1, operation.2.1, f operation.1 operation.2.1 operation.2.2) := by
  simp [operations, items_mapItems, PathItem.operations_mapOperations, List.flatMap_map,
    List.map_flatMap, Function.comp_def]

theorem items_eq (paths : Paths) :
    paths.items = (paths.entries.entries.map Prod.fst).filterMap fun template =>
      (paths.get? template).map (template, ·) := by
  unfold items get? OrderedMap.get?
  conv_lhs => rw [← entries_eq_of_nodup paths.entries.nodup, List.filterMap_filterMap]
  refine List.filterMap_congr fun template _ => ?_
  cases entryValue? template paths.entries.entries <;> simp

theorem nodup_items (paths : Paths) : (paths.items.map Prod.fst).Nodup := by
  have keys := List.pairwise_map.mp paths.entries.nodup
  refine List.pairwise_map.mpr (keys.filterMap _ fun entry other differs => ?_)
  intro item hitem item' hitem'
  obtain ⟨_, -, rfl⟩ := Option.map_eq_some_iff.mp hitem
  obtain ⟨_, -, rfl⟩ := Option.map_eq_some_iff.mp hitem'
  exact differs

theorem values_items (paths : Paths) (template : String) :
    (paths.items.filter fun item => item.1 == template).map Prod.snd =
      (paths.get? template).toList := by
  unfold items get? OrderedMap.get?
  have nodup := paths.entries.nodup
  generalize paths.entries.entries = entries at nodup ⊢
  induction entries with
  | nil => rfl
  | cons entry rest ih =>
    obtain ⟨key, entry⟩ := entry
    rw [List.map_cons, List.nodup_cons] at nodup
    by_cases h : key = template
    · subst h
      have others : (rest.filterMap fun entry =>
          entry.2.item?.map fun item => (entry.1, item)).filter (fun item => item.1 == key) = [] := by
        refine List.filter_eq_nil_iff.mpr fun item hm same => nodup.1 ?_
        obtain ⟨other, old, hitem⟩ := List.mem_filterMap.mp hm
        obtain ⟨content, -, rfl⟩ := Option.map_eq_some_iff.mp hitem
        exact List.mem_map.mpr ⟨other, old, beq_iff_eq.mp same⟩
      cases entry with
      | item content =>
        simp only [List.filterMap_cons, Entry.item?_item, Option.map_some]
        rw [List.filter_cons_of_pos (by simp), others]
        simp [entryValue?]
      | extension value =>
        simp only [List.filterMap_cons, Entry.item?_extension, Option.map_none]
        rw [others]
        simp [entryValue?]
    · have ih := ih nodup.2
      cases entry with
      | item content => simpa [entryValue?, h] using ih
      | extension value => simpa [entryValue?, h, List.filterMap_cons] using ih

def Entry.isExtension : Entry → Bool
  | .item _ => false
  | .extension _ => true

/-- Extensions stand under the keys of extensions, and path items under all other keys. -/
def WellKeyed (paths : Paths) : Prop :=
  ∀ entry ∈ paths.entries.entries, entry.2.isExtension = isExtensionKey entry.1

private theorem wellKeyed_empty : WellKeyed {} := by
  intro entry h
  simp at h

private theorem Entry.isExtension_of_ofReading {key : String} {reading : Reading} {entry : Entry}
    (h : Entry.ofReading key reading = .ok entry) : entry.isExtension = isExtensionKey key := by
  unfold Entry.ofReading at h
  split at h
  case isTrue isKey =>
    obtain ⟨value, -, rfl⟩ := map_eq_ok_iff.mp h
    exact isKey.symm
  case isFalse isKey =>
    obtain ⟨item, -, rfl⟩ := map_eq_ok_iff.mp h
    exact (Bool.eq_false_iff.mpr isKey).symm

private theorem wellKeyed_takeEntries {readings : List (String × Reading)}
    {taken result : OrderedMap Entry}
    (h : takeEntries taken readings = .ok result) (keyed : WellKeyed ⟨taken⟩) :
    WellKeyed ⟨result⟩ := by
  induction readings generalizing taken with
  | nil =>
    obtain rfl : taken = result := by simpa [takeEntries] using h
    exact keyed
  | cons field rest ih =>
    obtain ⟨key, reading⟩ := field
    obtain ⟨entry, read, h⟩ := bind_eq_ok_iff.mp h
    refine ih h fun other hm => ?_
    rcases mem_writeEntry hm with rfl | old
    · exact Entry.isExtension_of_ofReading read
    · exact keyed other old

theorem wellKeyed_of_ofReading {reading : Reading} {paths : Paths}
    (h : ofReading reading = .ok paths) : paths.WellKeyed := by
  unfold ofReading at h
  split at h
  case h_1 fields stop =>
    obtain ⟨entries, taken, h⟩ := bind_eq_ok_iff.mp h
    obtain ⟨-, -, h⟩ := bind_eq_ok_iff.mp h
    cases h
    exact wellKeyed_takeEntries taken wellKeyed_empty
  case h_2 => simp at h

end Paths

namespace Document

private theorem wellKeyed_of_pathsOfReading {reading : Reading} {paths : Paths}
    (h : pathsOfReading reading = .ok paths) : paths.WellKeyed := by
  unfold pathsOfReading at h
  split at h
  · cases h
    exact Paths.wellKeyed_empty
  · exact Paths.wellKeyed_of_ofReading h

private theorem wellKeyed_takeFields {readings : List (String × Reading)} {taken result : Document}
    (h : takeFields taken readings = .ok result) (keyed : taken.paths.WellKeyed) :
    result.paths.WellKeyed := by
  induction readings generalizing taken with
  | nil =>
    obtain rfl : taken = result := by simpa [takeFields] using h
    exact keyed
  | cons field rest ih =>
    obtain ⟨key, reading⟩ := field
    unfold takeFields at h
    split at h
    · obtain ⟨paths, read, h⟩ := bind_eq_ok_iff.mp h
      exact ih h (wellKeyed_of_pathsOfReading read)
    · obtain ⟨value, -, h⟩ := bind_eq_ok_iff.mp h
      exact ih h keyed

theorem wellKeyed_of_ofReading {reading : Reading} {document : Document}
    (h : ofReading reading = .ok document) : document.paths.WellKeyed := by
  unfold ofReading at h
  split at h
  case h_1 fields stop =>
    obtain ⟨read, taken, h⟩ := bind_eq_ok_iff.mp h
    obtain ⟨-, -, h⟩ := bind_eq_ok_iff.mp h
    cases h
    exact wellKeyed_takeFields taken Paths.wellKeyed_empty
  case h_2 => simp at h

end Document

end TypedRoutes.OpenApi
