/-!
Maps that keep the order in which their keys first came. A key that is written again keeps its
place and takes the new value.
-/

set_option autoImplicit false
set_option relaxedAutoImplicit false

namespace TypedRoutes

/-- Writes a key into a list of entries: in place if the key is there, at the end otherwise. -/
def writeEntry {α : Type} (key : String) (value : α) : List (String × α) → List (String × α)
  | [] => [(key, value)]
  | (k, v) :: rest =>
    if k = key then (key, value) :: rest else (k, v) :: writeEntry key value rest

/-- Changes values one after another; a state goes from each to the next. -/
def visitAll {α β σ : Type} (f : α → σ → β × σ) : List α → σ → List β × σ
  | [], state => ([], state)
  | value :: rest, state =>
    let (value, state) := f value state
    let (rest, state) := visitAll f rest state
    (value :: rest, state)

def visitEntry {α β σ : Type} (f : String → α → σ → β × σ) (entry : String × α) (state : σ) :
    (String × β) × σ :=
  let (value, state) := f entry.1 entry.2 state
  ((entry.1, value), state)

private theorem keys_visitEntry {α β σ : Type} (f : String → α → σ → β × σ)
    (entries : List (String × α)) (state : σ) :
    (visitAll (visitEntry f) entries state).1.map Prod.fst = entries.map Prod.fst := by
  induction entries generalizing state with
  | nil => rfl
  | cons entry rest ih => exact congrArg (entry.1 :: ·) (ih _)

def entryValue? {α : Type} (key : String) : List (String × α) → Option α
  | [] => none
  | (k, v) :: rest => if k = key then some v else entryValue? key rest

private theorem mem_keys_writeEntry {α : Type} (key : String) (value : α)
    (entries : List (String × α)) (k : String) : k ∈ (writeEntry key value entries).map Prod.fst ↔
      k = key ∨ k ∈ entries.map Prod.fst := by
  induction entries with
  | nil => simp [writeEntry]
  | cons entry rest ih =>
    obtain ⟨k', v'⟩ := entry
    by_cases h : k' = key
    · subst h
      simp [writeEntry]
    · simp only [writeEntry, h, if_false, List.map_cons, List.mem_cons, ih]
      constructor <;> (rintro (h | h | h) <;> simp [h])

theorem nodup_keys_writeEntry {α : Type} (key : String) (value : α)
    (entries : List (String × α)) (h : (entries.map Prod.fst).Nodup) :
    ((writeEntry key value entries).map Prod.fst).Nodup := by
  induction entries with
  | nil => simp [writeEntry]
  | cons entry rest ih =>
    obtain ⟨k', v'⟩ := entry
    simp only [List.map_cons, List.nodup_cons] at h
    by_cases hk : k' = key
    · subst hk
      simpa [writeEntry] using h
    · simp only [writeEntry, hk, if_false, List.map_cons, List.nodup_cons]
      refine ⟨?_, ih h.2⟩
      rw [mem_keys_writeEntry]
      rintro (h' | h')
      · exact hk h'
      · exact h.1 h'

private theorem nodup_keys_filter {α : Type} (keep : String × α → Bool)
    (entries : List (String × α)) (h : (entries.map Prod.fst).Nodup) :
    ((entries.filter keep).map Prod.fst).Nodup :=
  h.sublist (List.filter_sublist.map Prod.fst)

/-- A map from texts to values in the order in which the keys first came. -/
structure OrderedMap (α : Type) where
  entries : List (String × α)
  nodup : (entries.map Prod.fst).Nodup

namespace OrderedMap

variable {α β : Type}

def empty : OrderedMap α := ⟨[], List.nodup_nil⟩

instance : Inhabited (OrderedMap α) := ⟨empty⟩

def get? (m : OrderedMap α) (key : String) : Option α := entryValue? key m.entries

def contains (m : OrderedMap α) (key : String) : Bool := (m.get? key).isSome

/-- Writes a key: in place if it is there, at the end otherwise. -/
def insert (m : OrderedMap α) (key : String) (value : α) : OrderedMap α :=
  ⟨writeEntry key value m.entries, nodup_keys_writeEntry key value m.entries m.nodup⟩

def erase (m : OrderedMap α) (key : String) : OrderedMap α :=
  ⟨m.entries.filter fun entry => entry.1 ≠ key, nodup_keys_filter _ m.entries m.nodup⟩

def getThenInsert? (m : OrderedMap α) (key : String) (value : α) : Option α × OrderedMap α :=
  (m.get? key, m.insert key value)

def getThenErase? (m : OrderedMap α) (key : String) : Option α × OrderedMap α :=
  (m.get? key, m.erase key)

/-- Changes the values one after another, keeping keys and order; a state goes from each to the
next. -/
def visitValues {σ : Type} (f : String → α → σ → β × σ) (m : OrderedMap α) (state : σ) :
    OrderedMap β × σ :=
  let visited := visitAll (visitEntry f) m.entries state
  (⟨visited.1, (keys_visitEntry f m.entries state).symm ▸ m.nodup⟩, visited.2)

def mapValues (f : String → α → β) (m : OrderedMap α) : OrderedMap β :=
  ⟨m.entries.map fun entry => (entry.1, f entry.1 entry.2), by
    have h : (m.entries.map fun entry => (entry.1, f entry.1 entry.2)).map Prod.fst =
        m.entries.map Prod.fst := by simp [Function.comp_def]
    rw [h]
    exact m.nodup⟩

/-- Writes entries one after another into the empty map. -/
def ofList (entries : List (String × α)) : OrderedMap α :=
  entries.foldl (fun m entry => m.insert entry.1 entry.2) empty

def size (m : OrderedMap α) : Nat := m.entries.length

@[simp] theorem entries_insert (m : OrderedMap α) (key : String) (value : α) :
    (m.insert key value).entries = writeEntry key value m.entries := rfl

@[simp] theorem entries_empty : (empty : OrderedMap α).entries = [] := rfl

end OrderedMap

end TypedRoutes
