import Mathlib.Tactic.SplitIfs
import TypedRoutes.Proofs.Route.Identifier

/-!
How ids are made. The scan of a template cuts out the runs of characters that belong to no word;
what it leaves stands behind the method, with a capital at the front. So a made id is a name, and
characters that belong to no word change nothing wherever they stand in the template.
-/

set_option autoImplicit false
set_option relaxedAutoImplicit false

namespace TypedRoutes.Route

open OpenApi (Method)

/-- The code points of words: digits, capital letters, the underscore, small letters of ASCII. -/
def wordRanges : List (Nat × Nat) := [(0x30, 0x39), (0x41, 0x5A), (0x5F, 0x5F), (0x61, 0x7A)]

def isOtherChar (c : Char) : Bool := !Text.inRanges wordRanges c.toNat

/-- How a word is capitalized: its first character, if it is a small letter of ASCII, moves to the
capital letters; all others stay. -/
inductive Capitalizes : List Char → List Char → Prop
  | nil : Capitalizes [] []
  | cons {first capital : Char} (rest : List Char)
    (code : capital.toNat =
      if 0x61 ≤ first.toNat ∧ first.toNat ≤ 0x7A then first.toNat - 0x20 else first.toNat) :
    Capitalizes (first :: rest) (capital :: rest)

/-- Where a run begins, it is cut out as far as it goes. -/
theorem cutRuns_cons (kind : Char → Bool) (c : Char) (rest : List Char) :
    cutRuns kind (c :: rest) =
      if kind c then cutRuns kind (rest.dropWhile kind) else c :: cutRuns kind rest := by
  have whole : cutRun kind rest = cutRuns kind (rest.dropWhile kind) := by
    induction rest with
    | nil => rfl
    | cons d rest ih =>
      rw [cutRun, List.dropWhile_cons]
      split_ifs with inside
      · exact ih
      · rw [cutRuns, if_neg inside]
  rw [cutRuns, whole]

private theorem isWordChar_eq (c : Char) : isWordChar c = !isOtherChar c := by
  have low : c = '_' ↔ c.toNat = 0x5F := Char.toNat_inj.symm
  rw [Bool.eq_iff_iff]
  simp only [isWordChar, Char.isAlphanum, isOtherChar, Text.inRanges, wordRanges, Bool.or_eq_true,
    Text.isAlpha_iff, Text.isDigit_iff, beq_iff_eq, low, Bool.not_not, List.any_cons, List.any_nil,
    Bool.and_eq_true, decide_eq_true_eq, Bool.false_eq_true, or_false]
  omega

private theorem isOtherChar_eq : isOtherChar = fun c => !isWordChar c :=
  funext fun c => by rw [isWordChar_eq, Bool.not_not]

private theorem toNat_toUpper (c : Char) : c.toUpper.toNat =
    if 0x61 ≤ c.toNat ∧ c.toNat ≤ 0x7A then c.toNat - 0x20 else c.toNat := by
  by_cases h : c.toNat < 128
  · exact Text.of_ascii (fun c => c.toUpper.toNat =
      if 0x61 ≤ c.toNat ∧ c.toNat ≤ 0x7A then c.toNat - 0x20 else c.toNat) (by decide) h
  · have large : ¬(0x61 ≤ c.toNat ∧ c.toNat ≤ 0x7A) := by omega
    rw [Text.toUpper_of_not_ascii h, if_neg large]

private theorem capitalizes_capitalize (word : List Char) : Capitalizes word (capitalize word) := by
  cases word with
  | nil => exact .nil
  | cons first rest => exact .cons rest (toNat_toUpper first)

private theorem length_capitalize (word : List Char) : (capitalize word).length = word.length := by
  cases word with
  | nil => rfl
  | cons first rest => rfl

private theorem all_isNameRest_capitalize {word : List Char} (h : ∀ c ∈ word, isWordChar c = true) :
    (capitalize word).all Text.isNameRest = true := by
  have upper {c : Char} (word : isWordChar c = true) : isWordChar c.toUpper = true :=
    Text.of_ascii (fun c => isWordChar c = true → isWordChar c.toUpper = true) (by decide)
      (toNat_lt_of_isWordChar word) word
  cases word with
  | nil => rfl
  | cons first rest =>
    rw [List.forall_mem_cons] at h
    refine List.all_eq_true.mpr (List.forall_mem_cons.mpr ⟨?_, fun c hm => ?_⟩)
    · exact isNameRest_of_isWordChar (upper h.1)
    · exact isNameRest_of_isWordChar (h.2 c hm)

private theorem isIdentifier_synthesizeId (method : Method) (template : String) :
    Text.isIdentifier (synthesizeId method template) = true := by
  have name : Text.isIdentifier method.key = true := by cases method <;> decide
  refine Text.isIdentifier_append name ?_
  rw [String.toList_ofList, cutRuns_isWordChar]
  exact all_isNameRest_capitalize fun c hm => (List.mem_filter.mp hm).2

private theorem synthesizeId_insert_eq_iff (method : Method) (front inserted back : String) :
    synthesizeId method (front ++ inserted ++ back) = synthesizeId method (front ++ back) ↔
      ∀ c ∈ inserted.toList, isOtherChar c = true := by
  have others : inserted.toList.filter isWordChar = [] ↔
      ∀ c ∈ inserted.toList, isOtherChar c = true := by
    simp [List.filter_eq_nil_iff, isWordChar_eq]
  rw [← others, ← String.toList_inj, toList_synthesizeId, toList_synthesizeId,
    List.append_cancel_left_eq]
  simp only [String.toList_append, List.filter_append]
  constructor
  · intro same
    have lengths := congrArg List.length same
    simp only [length_capitalize, List.length_append] at lengths
    exact List.eq_nil_of_length_eq_zero (by omega)
  · intro none
    rw [none, List.append_nil]

/--
A made id is the method with the word characters of the template behind it in their order, the
first of them as a capital if it is a small letter; they are what is left when the runs of all other
characters are cut out. It is a name that is not empty, and stands in a string literal as it is.
Text in the middle of a template, at its front or at its end makes no difference exactly if no
character of it belongs to a word.
-/
theorem made_ids_are_names (method : Method) :
    (∀ template : String,
      (∃ word, Capitalizes (cutRuns isOtherChar template.toList) word ∧
        (synthesizeId method template).toList = method.key.toList ++ word) ∧
      cutRuns isOtherChar template.toList =
        template.toList.filter (fun c => Text.inRanges wordRanges c.toNat) ∧
      synthesizeId method template ≠ "" ∧
      Text.isIdentifier (synthesizeId method template) = true ∧
      Text.quote (synthesizeId method template) = "\"" ++ synthesizeId method template ++ "\"") ∧
    ∀ front inserted back : String,
      synthesizeId method (front ++ inserted ++ back) = synthesizeId method (front ++ back) ↔
        ∀ c ∈ inserted.toList, isOtherChar c = true := by
  refine ⟨fun template => ?_, synthesizeId_insert_eq_iff method⟩
  have name := isIdentifier_synthesizeId method template
  refine ⟨⟨_, capitalizes_capitalize _, ?_⟩, ?_, ?_, name, Text.quote_of_isIdentifier name⟩
  · rw [isOtherChar_eq, synthesizeId, String.toList_append, String.toList_ofList]
  · rw [cutRuns_eq_filter]
    simp only [isOtherChar, Bool.not_not]
  · intro empty
    rw [empty] at name
    exact absurd name (by decide)

theorem made_ids_are_names_petId :
    (cutRuns isOtherChar "/é-{pet_Id}".toList = "pet_Id".toList ∧
      synthesizeId .get "/é-{pet_Id}" = "getPet_Id" ∧
      Text.isIdentifier "getPet_Id" = true ∧ Text.quote "getPet_Id" = "\"getPet_Id\"") ∧
    (∀ c ∈ "/é-.".toList, isOtherChar c = true) ∧
    synthesizeId .get ("/é-{pet}" ++ "/é-." ++ "{_Id}") =
      synthesizeId .get ("/é-{pet}" ++ "{_Id}") := by
  obtain ⟨made, others⟩ := made_ids_are_names .get
  obtain ⟨-, words, -, name, literal⟩ := made "/é-{pet_Id}"
  have id : synthesizeId .get "/é-{pet_Id}" = "getPet_Id" := by decide
  have inserted : ∀ c ∈ "/é-.".toList, isOtherChar c = true :=
    List.all_eq_true.mp (by decide)
  rw [id] at name literal
  exact ⟨⟨words.trans (by decide), id, name, literal⟩, inserted, (others _ _ _).mpr inserted⟩

end TypedRoutes.Route
