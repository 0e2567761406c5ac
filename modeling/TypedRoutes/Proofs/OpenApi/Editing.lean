import TypedRoutes.Proofs.OpenApi.Rereading

/-!
Edits of decoded paths. Removing and changing path items leaves the extensions alone, and so does
writing under keys that are not those of extensions. Writing under the key of an extension is not
prevented: it puts a path item where an extension stood or should stand.
-/

set_option autoImplicit false
set_option relaxedAutoImplicit false

namespace TypedRoutes.OpenApi

open Json (Reading)

namespace Paths

def extensionOf? (entry : String × Entry) : Option (String × Json) :=
  entry.2.extension?.map (entry.1, ·)

@[simp] theorem filterMap_extensionOf?_item (key : String) (content : PathItem)
    (rest : List (String × Entry)) :
    ((key, .item content) :: rest).filterMap extensionOf? = rest.filterMap extensionOf? := rfl

@[simp] theorem filterMap_extensionOf?_extension (key : String) (value : Json)
    (rest : List (String × Entry)) :
    ((key, .extension value) :: rest).filterMap extensionOf? =
      (key, value) :: rest.filterMap extensionOf? := rfl

/-- The values of the extensions with their keys, in document order. -/
def extensions (paths : Paths) : List (String × Json) :=
  paths.entries.entries.filterMap extensionOf?

private theorem mem_extensions_iff {paths : Paths} {extension : String × Json} :
    extension ∈ paths.extensions ↔
      (extension.1, .extension extension.2) ∈ paths.entries.entries := by
  unfold extensions
  rw [List.mem_filterMap]
  constructor
  · rintro ⟨⟨key, entry⟩, hm, shown⟩
    cases entry with
    | item content => cases shown
    | extension value =>
      cases shown
      exact hm
  · intro hm
    exact ⟨_, hm, rfl⟩

/-- A way to edit paths. Path items in memory have no object with a key twice. -/
inductive Edit where
  | insert (template : String) (item : PathItem) (held : item.Distinct)
  | erase (template : String)
  | extend (items : List (String × PathItem)) (held : ∀ item ∈ items, item.2.Distinct)
  | change (f : String → PathItem → PathItem)
      (held : ∀ template item, item.Distinct → (f template item).Distinct)

namespace Edit

def apply (paths : Paths) : Edit → Paths
  | insert template item _ => paths.insert template item
  | erase template => paths.erase template
  | extend items _ => paths.insertMany items
  | change f _ => paths.mapItems f

def written : Edit → List String
  | insert template _ _ => [template]
  | erase _ => []
  | extend items _ => items.map Prod.fst
  | change _ _ => []

end Edit

def editAll (paths : Paths) (edits : List Edit) : Paths := edits.foldl Edit.apply paths

private theorem editAll_append (paths : Paths) (first second : List Edit) :
    paths.editAll (first ++ second) = (paths.editAll first).editAll second :=
  List.foldl_append

private theorem contains_insert_iff {paths : Paths} {template key : String} {item : PathItem} :
    (paths.insert template item).contains key ↔ key = template ∨ paths.contains key := by
  rw [insert_eq]
  unfold contains get?
  rw [OrderedMap.get?_insert]
  by_cases same : template = key
  · simp [same]
  · simp [same, Ne.symm same]

private theorem contains_insertMany_iff {paths : Paths} {items : List (String × PathItem)}
    {key : String} :
    (paths.insertMany items).contains key ↔ key ∈ items.map Prod.fst ∨ paths.contains key := by
  induction items generalizing paths with
  | nil => simp [insertMany]
  | cons item rest ih =>
    refine (@ih (paths.insert item.1 item.2)).trans ?_
    rw [contains_insert_iff, List.map_cons, List.mem_cons, or_left_comm, or_assoc]

private theorem contains_apply_of_mem_written (paths : Paths) {edit : Edit} {key : String}
    (hm : key ∈ edit.written) : (edit.apply paths).contains key := by
  cases edit with
  | insert template item held => exact contains_insert_iff.mpr (Or.inl (List.mem_singleton.mp hm))
  | erase template => nomatch hm
  | extend items held => exact contains_insertMany_iff.mpr (Or.inl hm)
  | change f held => nomatch hm

private theorem filter_extensions_of_fresh {key : String} {entries : List (String × Entry)}
    (fresh : key ∉ entries.map Prod.fst) :
    (entries.filterMap extensionOf?).filter (fun extension => extension.1 ≠ key) =
      entries.filterMap extensionOf? := by
  refine List.filter_eq_self.mpr fun extension hm => decide_eq_true fun same => fresh ?_
  obtain ⟨⟨other, entry⟩, old, shown⟩ := List.mem_filterMap.mp hm
  obtain ⟨value, -, rfl⟩ := Option.map_eq_some_iff.mp shown
  exact List.mem_map.mpr ⟨_, old, same⟩

private theorem extensions_insert (paths : Paths) (template : String) (item : PathItem) :
    (paths.insert template item).extensions =
      paths.extensions.filter fun extension => extension.1 ≠ template := by
  have nodup := paths.entries.nodup
  rw [insert_eq]
  unfold extensions
  rw [OrderedMap.entries_insert]
  generalize paths.entries.entries = entries at nodup ⊢
  induction entries with
  | nil => rfl
  | cons entry rest ih =>
    obtain ⟨key, entry⟩ := entry
    rw [List.map_cons, List.nodup_cons] at nodup
    by_cases same : key = template
    · subst same
      have others := filter_extensions_of_fresh nodup.1
      cases entry with
      | item content => simpa [writeEntry] using others.symm
      | extension value => simpa [writeEntry] using others.symm
    · have later := ih nodup.2
      cases entry with
      | item content => simpa [writeEntry, same] using later
      | extension value => simpa [writeEntry, same] using later

private theorem extensions_erase (paths : Paths) (template : String) :
    (paths.erase template).extensions = paths.extensions := by
  rw [erase_eq]
  split
  case isFalse => rfl
  case isTrue there =>
    obtain ⟨item, held⟩ := Option.isSome_iff_exists.mp there
    obtain ⟨entry, found, shown⟩ := Option.bind_eq_some_iff.mp held
    unfold extensions OrderedMap.erase
    rw [List.filterMap_filter]
    refine List.filterMap_congr fun other hm => ?_
    by_cases same : other.1 = template
    · obtain ⟨key, other⟩ := other
      cases same
      have value : paths.entries.get? key = some other :=
        (entryValue?_eq_some_iff paths.entries.nodup).mpr hm
      obtain rfl : entry = other := Option.some.inj (found.symm.trans value)
      cases entry with
      | item content => simp [extensionOf?, Entry.extension?]
      | extension value => cases shown
    · simp [same]

private theorem extensions_insertMany (paths : Paths) (items : List (String × PathItem)) :
    (paths.insertMany items).extensions =
      paths.extensions.filter fun extension => extension.1 ∉ items.map Prod.fst := by
  induction items generalizing paths with
  | nil => exact (List.filter_eq_self.mpr fun _ _ => rfl).symm
  | cons item rest ih =>
    refine (ih (paths.insert item.1 item.2)).trans ?_
    rw [extensions_insert, List.filter_filter]
    refine List.filter_congr fun extension _ => Bool.eq_iff_iff.mpr ?_
    simp [and_comm]

private theorem extensions_mapItems (f : String → PathItem → PathItem) (paths : Paths) :
    (paths.mapItems f).extensions = paths.extensions := by
  unfold extensions mapItems OrderedMap.mapValues
  rw [List.filterMap_map]
  refine List.filterMap_congr fun entry _ => ?_
  obtain ⟨key, entry⟩ := entry
  cases entry <;> rfl

/-- An edit costs the extensions under whose keys it writes, and no other. -/
private theorem extensions_apply (paths : Paths) (edit : Edit) :
    (edit.apply paths).extensions =
      paths.extensions.filter fun extension => extension.1 ∉ edit.written := by
  have kept : paths.extensions.filter (fun extension => extension.1 ∉ ([] : List String)) =
      paths.extensions := List.filter_eq_self.mpr fun _ _ => rfl
  cases edit with
  | insert template item held =>
    refine (extensions_insert paths template item).trans (List.filter_congr fun _ _ => ?_)
    simp [Edit.written]
  | erase template => exact (extensions_erase paths template).trans kept.symm
  | extend items held => exact extensions_insertMany paths items
  | change f held => exact (extensions_mapItems f paths).trans kept.symm

private theorem extensions_editAll (paths : Paths) (edits : List Edit) :
    (paths.editAll edits).extensions =
      paths.extensions.filter fun extension => extension.1 ∉ edits.flatMap Edit.written := by
  induction edits generalizing paths with
  | nil => exact (List.filter_eq_self.mpr fun _ _ => rfl).symm
  | cons edit rest ih =>
    refine (ih (edit.apply paths)).trans ?_
    rw [extensions_apply, List.filter_filter]
    refine List.filter_congr fun extension _ => Bool.eq_iff_iff.mpr ?_
    simp [and_comm]

private theorem mem_insertMany {paths : Paths} {items : List (String × PathItem)}
    {entry : String × Entry} (hm : entry ∈ (paths.insertMany items).entries.entries) :
    (∃ item ∈ items, entry = (item.1, .item item.2)) ∨ entry ∈ paths.entries.entries := by
  induction items generalizing paths with
  | nil => exact Or.inr hm
  | cons first rest ih =>
    obtain ⟨item, later, rfl⟩ | old := ih hm
    · exact Or.inl ⟨item, List.mem_cons_of_mem _ later, rfl⟩
    · obtain rfl | old := mem_writeEntry old
      · exact Or.inl ⟨first, List.mem_cons_self, rfl⟩
      · exact Or.inr old

/-- What stands in the paths after an edit: a path item that the edit wrote, or what stood under
the key before, changed only if it was a path item. -/
private theorem mem_apply {paths : Paths} {edit : Edit} {key : String} {entry : Entry}
    (hm : (key, entry) ∈ (edit.apply paths).entries.entries) :
    (key ∈ edit.written ∧ ∃ item, entry = .item item ∧ item.Distinct) ∨
      ∃ old, (key, old) ∈ paths.entries.entries ∧ entry.isExtension = old.isExtension ∧
        (old.Distinct → entry.Distinct) := by
  cases edit with
  | insert template item held =>
    obtain written | old := mem_writeEntry hm
    · cases written
      exact Or.inl ⟨List.mem_cons_self, item, rfl, held⟩
    · exact Or.inr ⟨entry, old, rfl, id⟩
  | erase template =>
    have old : (key, entry) ∈ paths.entries.entries := by
      simp only [Edit.apply, erase_eq] at hm
      split at hm
      · exact (List.mem_filter.mp hm).1
      · exact hm
    exact Or.inr ⟨entry, old, rfl, id⟩
  | extend items held =>
    obtain ⟨item, new, written⟩ | old := mem_insertMany hm
    · cases written
      exact Or.inl ⟨List.mem_map_of_mem new, item.2, rfl, held item new⟩
    · exact Or.inr ⟨entry, old, rfl, id⟩
  | change f held =>
    obtain ⟨⟨template, old⟩, there, changed⟩ := List.mem_map.mp hm
    cases changed
    refine Or.inr ⟨old, there, ?_⟩
    cases old with
    | item content => exact ⟨rfl, held _ content⟩
    | extension value => exact ⟨rfl, id⟩

private theorem distinct_editAll {paths : Paths} (edits : List Edit) (distinct : paths.Distinct) :
    (paths.editAll edits).Distinct := by
  induction edits generalizing paths with
  | nil => exact distinct
  | cons edit rest ih =>
    refine ih fun entry hm => ?_
    obtain ⟨-, item, written, held⟩ | ⟨old, there, -, kept⟩ := mem_apply hm
    · rw [written]
      exact held
    · exact kept (distinct _ there)

private theorem wellKeyed_editAll {paths : Paths} {edits : List Edit} (keyed : paths.WellKeyed)
    (free : ∀ key ∈ edits.flatMap Edit.written, isExtensionKey key = false) :
    (paths.editAll edits).WellKeyed := by
  induction edits generalizing paths with
  | nil => exact keyed
  | cons edit rest ih =>
    rw [List.flatMap_cons, List.forall_mem_append] at free
    refine ih (fun entry hm => ?_) free.2
    obtain ⟨own, item, written, -⟩ | ⟨old, there, same, -⟩ := mem_apply hm
    · rw [written, free.1 entry.1 own]
      rfl
    · rw [same]
      exact keyed _ there

private theorem mem_of_get? {paths : Paths} {template : String} {item : PathItem}
    (held : paths.get? template = some item) : (template, .item item) ∈ paths.entries.entries := by
  obtain ⟨entry, found, shown⟩ := Option.bind_eq_some_iff.mp held
  cases entry with
  | item content =>
    cases shown
    exact (entryValue?_eq_some_iff paths.entries.nodup).mp found
  | extension value => cases shown

private theorem mem_of_mem_items {paths : Paths} {item : String × PathItem}
    (hm : item ∈ paths.items) :
    (item.1, .item item.2) ∈ paths.entries.entries := by
  obtain ⟨⟨key, entry⟩, there, shown⟩ := List.mem_filterMap.mp hm
  cases entry with
  | item content =>
    cases shown
    exact there
  | extension value => cases shown

private theorem filter_isExtensionKey {paths : Paths} (keyed : paths.WellKeyed) :
    (paths.entries.entries.filter fun entry => isExtensionKey entry.1) =
      paths.extensions.map fun extension => (extension.1, .extension extension.2) := by
  unfold WellKeyed at keyed
  unfold extensions
  generalize paths.entries.entries = entries at keyed ⊢
  induction entries with
  | nil => rfl
  | cons entry rest ih =>
    obtain ⟨own, others⟩ := List.forall_mem_cons.mp keyed
    rw [List.filter_cons, ← own, ih others]
    obtain ⟨key, entry⟩ := entry
    cases entry with
    | item content => simp [Entry.isExtension]
    | extension value => simp [Entry.isExtension]

private theorem size_of_wellKeyed {paths : Paths} (keyed : paths.WellKeyed) :
    paths.size = (paths.entries.entries.filter fun entry => !isExtensionKey entry.1).length := by
  unfold WellKeyed at keyed
  unfold size items
  generalize paths.entries.entries = entries at keyed ⊢
  induction entries with
  | nil => rfl
  | cons entry rest ih =>
    obtain ⟨own, others⟩ := List.forall_mem_cons.mp keyed
    have later := ih others
    obtain ⟨key, entry⟩ := entry
    rw [List.filter_cons, ← own]
    cases entry with
    | item content => simpa [Entry.isExtension] using later
    | extension value => simpa [Entry.isExtension, List.filterMap_cons] using later

/-- Paths with the extensions that were decoded, in their order and nothing else under the keys of
extensions, so that no such key is found or counted as that of a path item; and the paths come back
as they are when they are written and read. -/
structure KeepsExtensions (decoded current : Paths) : Prop where
  entries : (current.entries.entries.filter fun entry => isExtensionKey entry.1) =
    decoded.extensions.map fun extension => (extension.1, .extension extension.2)
  get? : ∀ key, isExtensionKey key → current.get? key = none
  items : ∀ item ∈ current.items, isExtensionKey item.1 = false
  size : current.size =
    (current.entries.entries.filter fun entry => !isExtensionKey entry.1).length
  restored : Paths.ofReading current.toJson.toReading = .ok current

private theorem keepsExtensions_of_wellKeyed {decoded current : Paths}
    (same : current.extensions = decoded.extensions) (distinct : current.Distinct)
    (keyed : current.WellKeyed) : KeepsExtensions decoded current where
  entries := by rw [filter_isExtensionKey keyed, same]
  get? key isKey := by
    refine Option.eq_none_iff_forall_ne_some.mpr fun item held => ?_
    have own : false = isExtensionKey key := keyed _ (mem_of_get? held)
    rw [← own] at isKey
    cases isKey
  items item hm := (keyed _ (mem_of_mem_items hm)).symm
  size := size_of_wellKeyed keyed
  restored := (ofReading_toJson_iff distinct).mpr keyed

/-- Of decoded paths, edits cost the extensions under whose keys they write path items, and keep
all others in their order. At every point of the edits extensions and path items are told apart by
their keys, with all that was decoded kept, exactly if no edit writes under the key of an extension.
-/
theorem edits_keep_extensions_iff {reading : Reading} {paths : Paths}
    (read : Paths.ofReading reading = .ok paths) (edits : List Edit) :
    (paths.editAll edits).extensions =
      paths.extensions.filter (fun extension => extension.1 ∉ edits.flatMap Edit.written) ∧
    ((∀ count, KeepsExtensions paths (paths.editAll (edits.take count))) ↔
      ∀ key ∈ edits.flatMap Edit.written, isExtensionKey key = false) := by
  refine ⟨extensions_editAll paths edits, ?_, ?_⟩
  · intro keeps key hm
    obtain ⟨edit, among, own⟩ := List.mem_flatMap.mp hm
    obtain ⟨front, back, rfl⟩ := List.append_of_mem among
    have taken : (front ++ edit :: back).take (front.length + 1) = front ++ [edit] :=
      List.take_length_add_append 1
    have kept := keeps (front.length + 1)
    rw [taken, editAll_append] at kept
    have there := contains_apply_of_mem_written (paths.editAll front) own
    cases isKey : isExtensionKey key with
    | false => rfl
    | true =>
      have gone : (edit.apply (paths.editAll front)).get? key = none := kept.get? key isKey
      rw [contains, gone] at there
      cases there
  · intro free count
    have taken : ∀ key ∈ (edits.take count).flatMap Edit.written, isExtensionKey key = false := by
      intro key hm
      obtain ⟨edit, among, own⟩ := List.mem_flatMap.mp hm
      exact free key (List.mem_flatMap.mpr ⟨edit, List.mem_of_mem_take among, own⟩)
    have keyed := wellKeyed_of_ofReading read
    refine keepsExtensions_of_wellKeyed ?_ (distinct_editAll _ (distinct_of_ofReading read))
      (wellKeyed_editAll keyed taken)
    refine (extensions_editAll paths _).trans (List.filter_eq_self.mpr fun extension hm => ?_)
    have own : true = isExtensionKey extension.1 := keyed _ (mem_extensions_iff.mp hm)
    refine decide_eq_true fun written => ?_
    rw [taken extension.1 written] at own
    cases own

def extendedReading : Reading :=
  .object [("x-order", .array [(none, .bool true)] none), ("/pets", .object [] none)] none

def petsEdits : List Edit :=
  [.insert "/stores" {} PathItem.distinct_empty, .erase "/pets", .erase "x-order",
    .extend [("/stores", {})] (by simp [PathItem.distinct_empty]),
    .change (fun _ _ => {}) fun _ _ _ => PathItem.distinct_empty]

theorem edits_keep_extensions_pets :
    ∃ paths, Paths.ofReading extendedReading = .ok paths ∧
      paths.extensions = [("x-order", .array [.bool true])] ∧
      ∀ count, KeepsExtensions paths (paths.editAll (petsEdits.take count)) := by
  refine ⟨_, rfl, rfl, ?_⟩
  have kept := edits_keep_extensions_iff (rfl : Paths.ofReading extendedReading = .ok _) petsEdits
  exact kept.2.mpr (by decide)

/-- A path item that is written under the key of an extension takes its place: the extension is
gone, its key is found and counted as that of a path item, and other paths are read back. -/
theorem insert_replaces_extension :
    ∃ paths, Paths.ofReading (.object [("x-a", .bool true)] none) = .ok paths ∧
      paths.extensions = [("x-a", .bool true)] ∧
      (paths.insert "x-a" {}).extensions = [] ∧
      (paths.insert "x-a" {}).extension? "x-a" = none ∧
      (paths.insert "x-a" {}).get? "x-a" = some {} ∧
      (paths.insert "x-a" {}).size = 1 ∧
      ∃ other, Paths.ofReading (paths.insert "x-a" {}).toJson.toReading = .ok other ∧
        other.extensions = [("x-a", .object [])] ∧ other ≠ paths.insert "x-a" {} := by
  refine ⟨_, rfl, rfl, rfl, rfl, rfl, rfl, _, rfl, rfl, fun same => ?_⟩
  have extensions := congrArg Paths.extensions same
  cases extensions

end Paths

end TypedRoutes.OpenApi
