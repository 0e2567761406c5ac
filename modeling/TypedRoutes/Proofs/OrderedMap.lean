import Mathlib.Data.List.Basic
import TypedRoutes.OrderedMap

/-!
Ordered maps through their entries: what is found under a key after a key was written, and where a
written key stands. Entries written one after another leave the keys in the order in which they
first came, each with the value that was written last.
-/

set_option autoImplicit false
set_option relaxedAutoImplicit false

namespace TypedRoutes

variable {α : Type}

private theorem entryValue?_writeEntry (key other : String) (value : α)
    (entries : List (String × α)) :
    entryValue? other (writeEntry key value entries) =
      if key = other then some value else entryValue? other entries := by
  induction entries with
  | nil => rfl
  | cons entry rest ih =>
    obtain ⟨k, v⟩ := entry
    by_cases hk : k = key
    · subst hk
      by_cases ho : k = other <;> simp [writeEntry, entryValue?, ho]
    · by_cases ho : k = other
      · subst ho
        simp [writeEntry, entryValue?, hk, Ne.symm hk]
      · simp [writeEntry, entryValue?, hk, ho, ih]

theorem entryValue?_eq_some_iff {key : String} {value : α} {entries : List (String × α)}
    (nodup : (entries.map Prod.fst).Nodup) :
    entryValue? key entries = some value ↔ (key, value) ∈ entries := by
  induction entries with
  | nil => simp [entryValue?]
  | cons entry rest ih =>
    obtain ⟨k, v⟩ := entry
    simp only [List.map_cons, List.nodup_cons] at nodup
    by_cases h : k = key
    · subst h
      have fresh : (k, value) ∉ rest := fun hm => nodup.1 (List.mem_map.mpr ⟨_, hm, rfl⟩)
      simp [entryValue?, fresh, eq_comm]
    · have differs : (key, value) ≠ (k, v) := fun he => h (Prod.mk.inj he).1.symm
      simp [entryValue?, h, ih nodup.2, differs]

theorem entryValue?_eq_none_iff {key : String} {entries : List (String × α)} :
    entryValue? key entries = none ↔ key ∉ entries.map Prod.fst := by
  induction entries with
  | nil => simp [entryValue?]
  | cons entry rest ih =>
    obtain ⟨k, v⟩ := entry
    by_cases h : k = key
    · simp [entryValue?, h]
    · simp [entryValue?, h, Ne.symm h, ih]

theorem writeEntry_of_not_mem {key : String} (value : α) {entries : List (String × α)}
    (fresh : key ∉ entries.map Prod.fst) :
    writeEntry key value entries = entries ++ [(key, value)] := by
  induction entries with
  | nil => rfl
  | cons entry rest ih =>
    simp only [List.map_cons, List.mem_cons, not_or] at fresh
    simp [writeEntry, Ne.symm fresh.1, ih fresh.2]

theorem writeEntry_of_mem {key : String} (value : α) {entries : List (String × α)}
    (nodup : (entries.map Prod.fst).Nodup) (present : key ∈ entries.map Prod.fst) :
    writeEntry key value entries =
      entries.map fun entry => if entry.1 = key then (key, value) else entry := by
  induction entries with
  | nil => simp at present
  | cons entry rest ih =>
    obtain ⟨k, v⟩ := entry
    simp only [List.map_cons, List.nodup_cons] at nodup
    by_cases h : k = key
    · subst h
      have kept : rest.map (fun entry => if entry.1 = k then (k, value) else entry) = rest := by
        refine (List.map_congr_left fun entry hm => if_neg fun he => ?_).trans (List.map_id rest)
        exact nodup.1 (List.mem_map.mpr ⟨entry, hm, he⟩)
      simp [writeEntry, kept]
    · have inRest : key ∈ rest.map Prod.fst := by
        simpa [Ne.symm h] using present
      simp [writeEntry, h, ih nodup.2 inRest]

theorem mem_writeEntry {key : String} {value : α} {entries : List (String × α)}
    {entry : String × α} (h : entry ∈ writeEntry key value entries) :
    entry = (key, value) ∨ entry ∈ entries := by
  induction entries with
  | nil => simpa [writeEntry] using h
  | cons first rest ih =>
    obtain ⟨k, v⟩ := first
    simp only [writeEntry] at h
    split at h
    · rcases List.mem_cons.mp h with h | h
      · exact Or.inl h
      · exact Or.inr (List.mem_cons_of_mem _ h)
    · rcases List.mem_cons.mp h with h | h
      · exact Or.inr (h ▸ List.mem_cons_self)
      · exact (ih h).imp_right (List.mem_cons_of_mem _)

/-- Up to order, a key is written in front of the entries with other keys. -/
theorem perm_writeEntry (key : String) (value : α) {entries : List (String × α)}
    (nodup : (entries.map Prod.fst).Nodup) :
    (writeEntry key value entries).Perm
      ((key, value) :: entries.filter fun entry => entry.1 ≠ key) := by
  induction entries with
  | nil => exact List.Perm.refl _
  | cons entry rest ih =>
    obtain ⟨k, v⟩ := entry
    rw [List.map_cons, List.nodup_cons] at nodup
    by_cases h : k = key
    · subst h
      have others : rest.filter (fun entry => entry.1 ≠ k) = rest :=
        List.filter_eq_self.mpr fun entry hm =>
          decide_eq_true fun same => nodup.1 (List.mem_map.mpr ⟨entry, hm, same⟩)
      rw [List.filter_cons_of_neg (by simp), others]
      simp [writeEntry]
    · rw [List.filter_cons_of_pos (by simpa using h)]
      simp only [writeEntry, h, if_false]
      exact ((ih nodup.2).cons _).trans (List.Perm.swap _ _ _)

theorem entryValue?_append (key : String) (first second : List (String × α)) :
    entryValue? key (first ++ second) =
      (entryValue? key first).or (entryValue? key second) := by
  induction first with
  | nil => rfl
  | cons entry rest ih =>
    obtain ⟨k, v⟩ := entry
    by_cases h : k = key <;> simp [entryValue?, h, ih]

theorem entryValue?_replace (key : String) (value : α) (entries : List (String × α)) :
    entryValue? key (entries.map fun entry => if entry.1 = key then (entry.1, value) else entry) =
      (entryValue? key entries).map fun _ => value := by
  induction entries with
  | nil => rfl
  | cons entry rest ih =>
    obtain ⟨k, v⟩ := entry
    by_cases h : k = key <;> simp [entryValue?, h, ih]

theorem getLast?_filter_cons {β : Type} (keep : β → Bool) (first : β) (rest : List β) :
    ((first :: rest).filter keep).getLast? =
      (rest.filter keep).getLast?.or (if keep first then some first else none) := by
  by_cases h : keep first
  · rw [List.filter_cons_of_pos h, List.getLast?_cons]
    cases (rest.filter keep).getLast? <;> simp [h]
  · rw [List.filter_cons_of_neg h]
    simp [h]

def writeAll (entries written : List (String × α)) : List (String × α) :=
  written.foldl (fun entries entry => writeEntry entry.1 entry.2 entries) entries

theorem writeAll_of_nodup {entries written : List (String × α)}
    (nodup : ((entries ++ written).map Prod.fst).Nodup) :
    writeAll entries written = entries ++ written := by
  induction written generalizing entries with
  | nil => exact (List.append_nil entries).symm
  | cons entry rest ih =>
    have regrouped : entries ++ entry :: rest = (entries ++ [entry]) ++ rest := by simp
    have fresh : entry.1 ∉ entries.map Prod.fst := by
      rw [List.map_append, List.map_cons] at nodup
      exact fun old => (List.nodup_append.mp nodup).2.2 _ old _ List.mem_cons_self rfl
    have step : writeAll entries (entry :: rest) = writeAll (entries ++ [entry]) rest := by
      rw [← writeEntry_of_not_mem entry.2 fresh]
      rfl
    rw [regrouped] at nodup ⊢
    rw [step, ih nodup]

theorem mem_writeAll {entries written : List (String × α)} {entry : String × α}
    (h : entry ∈ writeAll entries written) : entry ∈ entries ∨ entry ∈ written := by
  induction written generalizing entries with
  | nil => exact Or.inl h
  | cons first rest ih =>
    obtain old | later := ih h
    · obtain rfl | old := mem_writeEntry old
      · exact Or.inr List.mem_cons_self
      · exact Or.inl old
    · exact Or.inr (List.mem_cons_of_mem _ later)

theorem nodup_keys_writeAll {entries : List (String × α)} (written : List (String × α))
    (nodup : (entries.map Prod.fst).Nodup) : ((writeAll entries written).map Prod.fst).Nodup := by
  induction written generalizing entries with
  | nil => exact nodup
  | cons first rest ih => exact ih (nodup_keys_writeEntry first.1 first.2 entries nodup)

/-- The value of the last entry with a key. -/
def lastValue? (key : String) (entries : List (String × α)) : Option α :=
  ((entries.filter fun entry => entry.1 == key).getLast?).map Prod.snd

theorem keys_writeEntry (key : String) (value : α) (entries : List (String × α)) :
    (writeEntry key value entries).map Prod.fst =
      entries.map Prod.fst ++ if key ∈ entries.map Prod.fst then [] else [key] := by
  induction entries with
  | nil => rfl
  | cons entry rest ih =>
    obtain ⟨k, v⟩ := entry
    by_cases h : k = key
    · simp [writeEntry, h]
    · simp only [writeEntry, h, if_false, List.map_cons, ih, List.mem_cons, Ne.symm h, false_or,
        List.cons_append]

private theorem keys_writeAll {entries : List (String × α)} (written : List (String × α))
    (nodup : (entries.map Prod.fst).Nodup) :
    (writeAll entries written).map Prod.fst =
      entries.map Prod.fst ++
        ((written.map Prod.fst).filter fun key => key ∉ entries.map Prod.fst).eraseDups := by
  induction written generalizing entries with
  | nil => simp [writeAll]
  | cons entry rest ih =>
    obtain ⟨key, value⟩ := entry
    have step := ih (nodup_keys_writeEntry key value entries nodup)
    rw [keys_writeEntry] at step
    refine step.trans ?_
    by_cases h : key ∈ entries.map Prod.fst
    · have passed : (((key, value) :: rest).map Prod.fst).filter
          (fun other => other ∉ entries.map Prod.fst) =
            (rest.map Prod.fst).filter fun other => other ∉ entries.map Prod.fst :=
        List.filter_cons_of_neg (by simpa using h)
      rw [if_pos h, List.append_nil, passed]
    · have taken : (((key, value) :: rest).map Prod.fst).filter
          (fun other => other ∉ entries.map Prod.fst) =
            key :: (rest.map Prod.fst).filter fun other => other ∉ entries.map Prod.fst :=
        List.filter_cons_of_pos (by simpa using h)
      rw [if_neg h, taken, List.eraseDups_cons, List.append_assoc, List.filter_filter]
      refine congrArg (fun keys => entries.map Prod.fst ++ key :: List.eraseDups keys) ?_
      refine List.filter_congr fun other _ => Bool.eq_iff_iff.mpr ?_
      rw [decide_eq_true_iff, List.mem_append, List.mem_singleton]
      simp [not_or, and_comm]

theorem keys_writeAll_nil (written : List (String × α)) :
    (writeAll [] written).map Prod.fst = (written.map Prod.fst).eraseDups := by
  have none : (([] : List (String × α)).map Prod.fst).Nodup := List.nodup_nil
  simpa using keys_writeAll written none

private theorem lastValue?_cons (key k : String) (v : α) (rest : List (String × α)) :
    lastValue? key ((k, v) :: rest) =
      (lastValue? key rest).or (if k = key then some v else none) := by
  unfold lastValue?
  rw [getLast?_filter_cons, Option.map_or]
  by_cases h : k = key <;> simp [h]

theorem entryValue?_writeAll (key : String) (entries written : List (String × α)) :
    entryValue? key (writeAll entries written) =
      (lastValue? key written).or (entryValue? key entries) := by
  induction written generalizing entries with
  | nil => rfl
  | cons entry rest ih =>
    obtain ⟨k, v⟩ := entry
    refine (ih (writeEntry k v entries)).trans ?_
    rw [entryValue?_writeEntry, lastValue?_cons, Option.or_assoc]
    by_cases h : k = key <;> simp [h]

theorem lastValue?_mapValues {β : Type} (f : α → β) (key : String) (entries : List (String × α)) :
    lastValue? key (entries.map fun entry => (entry.1, f entry.2)) =
      (lastValue? key entries).map f := by
  simp [lastValue?, List.filter_map, Function.comp_def, List.getLast?_map]

theorem entries_eq_of_nodup {entries : List (String × α)}
    (nodup : (entries.map Prod.fst).Nodup) :
    (entries.map Prod.fst).filterMap (fun key => (entryValue? key entries).map (key, ·)) =
      entries := by
  rw [List.filterMap_map]
  refine (List.filterMap_congr fun entry hm => ?_).trans List.filterMap_some
  simp [(entryValue?_eq_some_iff nodup).mpr hm]

namespace OrderedMap

@[simp] theorem get?_insert (m : OrderedMap α) (key other : String) (value : α) :
    (m.insert key value).get? other = if key = other then some value else m.get? other :=
  entryValue?_writeEntry key other value m.entries

theorem entries_insert_of_fresh {m : OrderedMap α} {key : String} {keys : List String}
    (nodup : (m.entries.map Prod.fst ++ key :: keys).Nodup) (value : α) :
    (m.insert key value).entries = m.entries ++ [(key, value)] ∧
      ((m.insert key value).entries.map Prod.fst ++ keys).Nodup := by
  have fresh : key ∉ m.entries.map Prod.fst := fun old =>
    (List.nodup_append.mp nodup).2.2 key old key List.mem_cons_self rfl
  have behind : (m.insert key value).entries = m.entries ++ [(key, value)] :=
    writeEntry_of_not_mem value fresh
  refine ⟨behind, ?_⟩
  rw [behind, List.map_append, List.append_assoc]
  exact nodup

theorem entries_ofList_eq_writeAll (entries : List (String × α)) :
    (ofList entries).entries = writeAll [] entries := by
  have written (m : OrderedMap α) :
      (entries.foldl (fun m entry => m.insert entry.1 entry.2) m).entries =
        writeAll m.entries entries := by
    induction entries generalizing m with
    | nil => rfl
    | cons entry rest ih => exact ih (m.insert entry.1 entry.2)
  exact written empty

theorem entries_ofList {entries : List (String × α)} (nodup : (entries.map Prod.fst).Nodup) :
    (ofList entries).entries = entries :=
  (entries_ofList_eq_writeAll entries).trans (writeAll_of_nodup nodup)

theorem ext_entries {m n : OrderedMap α} (h : m.entries = n.entries) : m = n := by
  cases m
  cases n
  cases h
  rfl

end OrderedMap

section Visiting

variable {β δ σ : Type}

/-- A state takes lists one behind the other. -/
structure Gathers (add : σ → List δ → σ) : Prop where
  nil (state : σ) : add state [] = state
  append (state : σ) (front back : List δ) : add state (front ++ back) = add (add state front) back

variable {add : σ → List δ → σ}

/-- Where every step changes its value and adds what it tells, the loop changes all values and adds
all that is told. -/
theorem visitAll_eq (gathers : Gathers add) {f : α → σ → β × σ} {change : α → β}
    {tell : α → List δ}
    (step : ∀ value state, f value state = (change value, add state (tell value)))
    (values : List α) (state : σ) :
    visitAll f values state = (values.map change, add state (values.flatMap tell)) := by
  induction values generalizing state with
  | nil => exact congrArg (Prod.mk _) (gathers.nil state).symm
  | cons value rest ih =>
    rw [List.map_cons, List.flatMap_cons, gathers.append, visitAll, step]
    dsimp only
    rw [ih]

theorem OrderedMap.visitValues_eq (gathers : Gathers add) {f : String → α → σ → β × σ}
    {change : String → α → β} {tell : String → α → List δ}
    (step : ∀ key value state, f key value state = (change key value, add state (tell key value)))
    (m : OrderedMap α) (state : σ) :
    m.visitValues f state =
      (m.mapValues change, add state (m.entries.flatMap fun entry => tell entry.1 entry.2)) := by
  have ofEntry (entry : String × α) (state : σ) : visitEntry f entry state =
      ((entry.1, change entry.1 entry.2), add state (tell entry.1 entry.2)) := by
    rw [visitEntry, step]
  have loop := visitAll_eq gathers ofEntry m.entries state
  have entries := congrArg Prod.fst loop
  have told := congrArg Prod.snd loop
  exact Prod.ext (ext_entries entries) told

end Visiting

end TypedRoutes
