import TypedRoutes.Json.Printer

/-!
Which texts spell a JSON value: its words, strings and signs in their order, with blanks between
them at will. Numbers are left out. The compact and the pretty form of a value without numbers
spell it.
-/

set_option autoImplicit false
set_option relaxedAutoImplicit false

namespace TypedRoutes.Json

def isBlank (c : Char) : Bool := c == ' ' || c == '\n' || c == '\t' || c == '\r'

def Blank (gap : List Char) : Prop := ∀ c ∈ gap, isBlank c = true

theorem blank_nil : Blank [] := fun _ none => nomatch none

private theorem blank_space : Blank [' '] := fun _ hm => by
  rw [List.mem_singleton.mp hm]
  rfl

private theorem blank_newLine (level : Nat) : Blank (newLine level) := by
  intro c hm
  obtain rfl | space := List.mem_cons.mp hm
  · rfl
  · rw [(List.mem_replicate.mp space).2]
    rfl

/-- What stands in front of an item or a field: blanks, with a comma in them behind another one. -/
def Lead : Bool → List Char → Prop
  | true, lead => Blank lead
  | false, lead => ∃ before behind, lead = before ++ ',' :: behind ∧ Blank before ∧ Blank behind

theorem Lead.comma {gap : List Char} (blank : Blank gap) : Lead false (',' :: gap) :=
  ⟨[], gap, rfl, blank_nil, blank⟩

mutual

def Spells : Json → List Char → Prop
  | .null, chars => chars = ['n', 'u', 'l', 'l']
  | .bool true, chars => chars = ['t', 'r', 'u', 'e']
  | .bool false, chars => chars = ['f', 'a', 'l', 's', 'e']
  | .number _, _ => False
  | .string value, chars => chars = stringChars value
  | .array items, chars => ∃ inside, chars = '[' :: inside ∧ SpellsItems true items inside
  | .object fields, chars => ∃ inside, chars = '{' :: inside ∧ SpellsFields true fields inside

/-- A text behind a bracket, or behind an item if `first` is not set, spells the items of an array
up to its closing bracket. -/
def SpellsItems (first : Bool) : List Json → List Char → Prop
  | [], chars => ∃ gap, chars = gap ++ [']'] ∧ Blank gap
  | item :: rest, chars => ∃ lead spelled more, chars = lead ++ (spelled ++ more) ∧
      Lead first lead ∧ Spells item spelled ∧ SpellsItems false rest more

/-- A text behind a brace, or behind a field if `first` is not set, spells the fields of an object
up to its closing brace. -/
def SpellsFields (first : Bool) : List (String × Json) → List Char → Prop
  | [], chars => ∃ gap, chars = gap ++ ['}'] ∧ Blank gap
  | (key, value) :: rest, chars => ∃ lead before behind spelled more,
      chars = lead ++ (stringChars key ++ (before ++ ':' :: (behind ++ (spelled ++ more)))) ∧
      Lead first lead ∧ Blank before ∧ Blank behind ∧ Spells value spelled ∧
      SpellsFields false rest more

end

mutual

def isNumberFree : Json → Bool
  | .number _ => false
  | .array items => areNumberFree items
  | .object fields => haveNumberFree fields
  | .null => true
  | .bool _ => true
  | .string _ => true

def areNumberFree : List Json → Bool
  | [] => true
  | item :: rest => item.isNumberFree && areNumberFree rest

def haveNumberFree : List (String × Json) → Bool
  | [] => true
  | (_, value) :: rest => value.isNumberFree && haveNumberFree rest

end

theorem areNumberFree_cons_iff {item : Json} {rest : List Json} :
    areNumberFree (item :: rest) ↔ item.isNumberFree ∧ areNumberFree rest := by
  simp only [areNumberFree, Bool.and_eq_true]

private theorem haveNumberFree_cons_iff {key : String} {value : Json}
    {rest : List (String × Json)} :
    haveNumberFree ((key, value) :: rest) ↔ value.isNumberFree ∧ haveNumberFree rest := by
  simp only [haveNumberFree, Bool.and_eq_true]

section Parts

variable {first : Bool} {gap space spelled more chars : List Char} {key : String} {value : Json}
  {items : List Json} {fields : List (String × Json)}

private theorem spellsItems_close (blank : Blank gap) : SpellsItems first [] (gap ++ [']']) :=
  ⟨gap, rfl, blank⟩

private theorem spellsItems_cons (blank : Blank gap) (own : Spells value spelled)
    (others : SpellsItems false items more) :
    SpellsItems true (value :: items) (gap ++ (spelled ++ more)) :=
  ⟨gap, spelled, more, rfl, blank, own, others⟩

private theorem spellsItems_comma (spells : SpellsItems true (value :: items) chars) :
    SpellsItems false (value :: items) (',' :: chars) := by
  obtain ⟨gap, spelled, more, rfl, blank, own, others⟩ := spells
  exact ⟨',' :: gap, spelled, more, rfl, Lead.comma blank, own, others⟩

private theorem spellsFields_close (blank : Blank gap) : SpellsFields first [] (gap ++ ['}']) :=
  ⟨gap, rfl, blank⟩

private theorem spellsFields_cons (blank : Blank gap) (spaces : Blank space)
    (own : Spells value spelled) (others : SpellsFields false fields more) :
    SpellsFields true ((key, value) :: fields)
      (gap ++ (stringChars key ++ ':' :: (space ++ (spelled ++ more)))) :=
  ⟨gap, [], space, spelled, more, rfl, blank, blank_nil, spaces, own, others⟩

private theorem spellsFields_comma (spells : SpellsFields true ((key, value) :: fields) chars) :
    SpellsFields false ((key, value) :: fields) (',' :: chars) := by
  obtain ⟨gap, before, behind, spelled, more, rfl, blank, spaces⟩ := spells
  exact ⟨',' :: gap, before, behind, spelled, more, rfl, Lead.comma blank, spaces⟩

end Parts

mutual

theorem spells_compactChars : ∀ {value : Json}, value.isNumberFree → Spells value value.compactChars
  | .null, _ => rfl
  | .bool true, _ => rfl
  | .bool false, _ => rfl
  | .string _, _ => rfl
  | .array _, free => ⟨_, rfl, spells_compactItems free⟩
  | .object _, free => ⟨_, rfl, spells_compactFields free⟩

private theorem spells_compactItems : ∀ {items : List Json}, areNumberFree items →
    SpellsItems true items (compactItems items ++ [']'])
  | [], _ => spellsItems_close blank_nil
  | [item], free => by
    have own := spells_compactChars (areNumberFree_cons_iff.mp free).1
    exact spellsItems_cons blank_nil own (spellsItems_close blank_nil)
  | item :: next :: rest, free => by
    have own := spells_compactChars (areNumberFree_cons_iff.mp free).1
    have others := spells_compactItems (areNumberFree_cons_iff.mp free).2
    have spells := spellsItems_cons blank_nil own (spellsItems_comma others)
    simpa [compactItems] using spells

private theorem spells_compactFields : ∀ {fields : List (String × Json)}, haveNumberFree fields →
    SpellsFields true fields (compactFields fields ++ ['}'])
  | [], _ => spellsFields_close blank_nil
  | [(key, value)], free => by
    have own := spells_compactChars (haveNumberFree_cons_iff.mp free).1
    have spells := @spellsFields_cons _ _ _ _ key _ _ blank_nil blank_nil own
      (spellsFields_close blank_nil)
    simpa [compactFields] using spells
  | (key, value) :: next :: rest, free => by
    have own := spells_compactChars (haveNumberFree_cons_iff.mp free).1
    have others := spells_compactFields (haveNumberFree_cons_iff.mp free).2
    have spells := @spellsFields_cons _ _ _ _ key _ _ blank_nil blank_nil own
      (spellsFields_comma others)
    simpa [compactFields] using spells

end

mutual

theorem spells_prettyChars : ∀ {value : Json} (level : Nat), value.isNumberFree →
    Spells value (value.prettyChars level)
  | .null, _, _ => rfl
  | .bool true, _, _ => rfl
  | .bool false, _, _ => rfl
  | .string _, _, _ => rfl
  | .array [], _, _ => ⟨_, rfl, spellsItems_close blank_nil⟩
  | .array (item :: rest), level, free => by
    have inside := spells_prettyItems (level + 1) (blank_newLine level) free
    refine ⟨_, rfl, ?_⟩
    rw [List.append_assoc]
    exact inside
  | .object [], _, _ => ⟨_, rfl, spellsFields_close blank_nil⟩
  | .object (field :: rest), level, free => by
    have inside := spells_prettyFields (level + 1) (blank_newLine level) free
    refine ⟨_, rfl, ?_⟩
    rw [List.append_assoc]
    exact inside

private theorem spells_prettyItems :
    ∀ {items : List Json} (level : Nat) {gap : List Char}, Blank gap →
    areNumberFree items → SpellsItems true items (prettyItems level items ++ (gap ++ [']']))
  | [], _, _, blank, _ => spellsItems_close blank
  | [item], level, gap, blank, free => by
    have own := spells_prettyChars level (areNumberFree_cons_iff.mp free).1
    have spells := spellsItems_cons (blank_newLine level) own (spellsItems_close blank)
    simpa [prettyItems] using spells
  | item :: next :: rest, level, gap, blank, free => by
    have own := spells_prettyChars level (areNumberFree_cons_iff.mp free).1
    have others := spells_prettyItems level blank (areNumberFree_cons_iff.mp free).2
    have spells := spellsItems_cons (blank_newLine level) own (spellsItems_comma others)
    simpa [prettyItems] using spells

private theorem spells_prettyFields :
    ∀ {fields : List (String × Json)} (level : Nat) {gap : List Char},
    Blank gap → haveNumberFree fields →
    SpellsFields true fields (prettyFields level fields ++ (gap ++ ['}']))
  | [], _, _, blank, _ => spellsFields_close blank
  | [(key, value)], level, gap, blank, free => by
    have own := spells_prettyChars level (haveNumberFree_cons_iff.mp free).1
    have spells := @spellsFields_cons _ _ _ _ key _ _ (blank_newLine level) blank_space own
      (spellsFields_close blank)
    simpa [prettyFields] using spells
  | (key, value) :: next :: rest, level, gap, blank, free => by
    have own := spells_prettyChars level (haveNumberFree_cons_iff.mp free).1
    have others := spells_prettyFields level blank (haveNumberFree_cons_iff.mp free).2
    have spells := @spellsFields_cons _ _ _ _ key _ _ (blank_newLine level) blank_space own
      (spellsFields_comma others)
    simpa [prettyFields] using spells

end

end TypedRoutes.Json
