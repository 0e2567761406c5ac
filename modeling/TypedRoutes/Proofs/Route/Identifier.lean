import Mathlib.Data.List.Basic
import TypedRoutes.Proofs.Text.Literal
import TypedRoutes.Proofs.Text.Lowercase
import TypedRoutes.Route.Template

/-!
Ids that are made of a method and a template. Under their lookup keys they are told apart by the
method and by the word characters of the template without regard to case, and by nothing else.
-/

set_option autoImplicit false
set_option relaxedAutoImplicit false

namespace TypedRoutes.Route

open OpenApi (Method)

def wordLetters (template : String) : List Char :=
  (template.toList.filter isWordChar).map Char.toLower

private theorem isNameRest_eq_isWordChar (c : Char) :
    Text.isNameRest c = (isWordChar c || c == '$') := rfl

theorem isNameRest_of_isWordChar {c : Char} (h : isWordChar c) : Text.isNameRest c = true := by
  rw [isNameRest_eq_isWordChar, h, Bool.true_or]

theorem toNat_lt_of_isWordChar {c : Char} (h : isWordChar c) : c.toNat < 128 :=
  Text.toNat_lt_of_isNameRest (isNameRest_of_isWordChar h)

private theorem toNat_lt_of_mem_key {method : Method} {c : Char} (h : c ∈ method.key.toList) :
    c.toNat < 128 := by
  have ascii : (method.key.toList.all fun c => decide (c.toNat < 128)) = true := by
    cases method <;> decide
  exact of_decide_eq_true (List.all_eq_true.mp ascii c h)

private theorem toNat_toUpper_lt {c : Char} (h : c.toNat < 128) : c.toUpper.toNat < 128 :=
  Text.of_ascii (fun c => c.toUpper.toNat < 128) (by decide) h

private theorem toNat_lt_of_mem_capitalize {text : List Char} (h : ∀ c ∈ text, c.toNat < 128) :
    ∀ c ∈ capitalize text, c.toNat < 128 := by
  cases text with
  | nil => exact h
  | cons first rest =>
    rw [List.forall_mem_cons] at h
    exact List.forall_mem_cons.mpr ⟨toNat_toUpper_lt h.1, h.2⟩

theorem map_toLower_capitalize (text : List Char) :
    (capitalize text).map Char.toLower = text.map Char.toLower := by
  cases text with
  | nil => rfl
  | cons first rest => rw [capitalize, List.map_cons, List.map_cons, Text.toLower_toUpper]

theorem cutRuns_eq_filter (kind : Char → Bool) (text : List Char) :
    cutRuns kind text = text.filter fun c => !kind c := by
  -- inside a run the same characters are left, as those of the run are not
  suffices both : cutRuns kind text = text.filter (fun c => !kind c) ∧
      cutRun kind text = text.filter fun c => !kind c from both.1
  induction text with
  | nil => exact ⟨rfl, rfl⟩
  | cons c rest ih =>
    obtain ⟨outside, inside⟩ := ih
    rw [cutRuns, cutRun, outside, inside]
    cases h : kind c <;> simp [h]

theorem cutRuns_isWordChar (text : List Char) :
    cutRuns (fun c => !isWordChar c) text = text.filter isWordChar := by
  rw [cutRuns_eq_filter]
  simp only [Bool.not_not]

theorem toList_synthesizeId (method : Method) (template : String) :
    (synthesizeId method template).toList =
      method.key.toList ++ capitalize (template.toList.filter isWordChar) := by
  rw [synthesizeId, String.toList_append, String.toList_ofList, cutRuns_isWordChar]

private theorem toList_lookupKey_synthesizeId (method : Method) (template : String) :
    (lookupKey (synthesizeId method template)).toList =
      method.key.toList ++ wordLetters template := by
  have words : ∀ c ∈ template.toList.filter isWordChar, c.toNat < 128 := fun c hm =>
    toNat_lt_of_isWordChar (List.mem_filter.mp hm).2
  have ascii : ∀ c ∈ (synthesizeId method template).toList, c.toNat < 128 := by
    rw [toList_synthesizeId]
    intro c hm
    rcases List.mem_append.mp hm with inMethod | inWords
    · exact toNat_lt_of_mem_key inMethod
    · exact toNat_lt_of_mem_capitalize words c inWords
  have method_lower : method.key.toList.map Char.toLower = method.key.toList := by
    cases method <;> decide
  rw [lookupKey, Text.toList_lowercase_ascii ascii, toList_synthesizeId, List.map_append,
    method_lower, map_toLower_capitalize, wordLetters]

private theorem key_append_inj {method other : Method} {text otherText : List Char}
    (h : method.key.toList ++ text = other.key.toList ++ otherText) :
    method = other ∧ text = otherText := by
  have same : method = other := by
    cases method <;> cases other <;> simp [Method.key] at h ⊢
  subst same
  exact ⟨rfl, List.append_cancel_left h⟩

/-- Made ids have one lookup key exactly if they agree in the method and in the word characters
of the template up to case. -/
theorem lookupKey_synthesizeId_eq_iff {method other : Method} {template otherTemplate : String} :
    lookupKey (synthesizeId method template) = lookupKey (synthesizeId other otherTemplate) ↔
      (method, wordLetters template) = (other, wordLetters otherTemplate) := by
  rw [← String.toList_inj, toList_lookupKey_synthesizeId, toList_lookupKey_synthesizeId,
    Prod.mk.injEq]
  constructor
  · exact key_append_inj
  · rintro ⟨rfl, same⟩
    rw [same]

end TypedRoutes.Route
