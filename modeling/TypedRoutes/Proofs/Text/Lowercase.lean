import TypedRoutes.Text.Lowercase

/-!
Lower-casing of texts in ASCII, where no letter depends on its surroundings. In texts of all kinds,
the case of the letters of ASCII makes no difference, not even to a sigma beside them.
-/

set_option autoImplicit false
set_option relaxedAutoImplicit false

namespace TypedRoutes.Text

theorem of_ascii (P : Char → Prop) (holds : ∀ n < 128, P (Char.ofNat n)) {c : Char}
    (h : c.toNat < 128) : P c := by
  have here := holds c.toNat h
  rwa [Char.ofNat_toNat] at here

private theorem find?_lowercaseRuns_ascii {n : Nat} (h : n < 128) :
    lowercaseRuns.find? (·.covers n) =
      if 0x41 ≤ n ∧ n ≤ 0x5A then some ⟨0x41, 0x5A, 1, 32⟩ else none := by
  have behind : ∀ run ∈ lowercaseRuns.tail, 128 ≤ run.first := by decide +kernel
  have others : lowercaseRuns.tail.find? (·.covers n) = none := by
    refine List.find?_eq_none.mpr fun run hm covers => ?_
    simp only [CaseRun.covers, Bool.and_eq_true, decide_eq_true_eq] at covers
    have later := behind run hm
    omega
  have runs : lowercaseRuns = ⟨0x41, 0x5A, 1, 32⟩ :: lowercaseRuns.tail := rfl
  have covers : CaseRun.covers ⟨0x41, 0x5A, 1, 32⟩ n = decide (0x41 ≤ n ∧ n ≤ 0x5A) := by
    simp [CaseRun.covers, Nat.mod_one]
  rw [runs, List.find?_cons, others, covers]
  by_cases capital : 0x41 ≤ n ∧ n ≤ 0x5A
  · rw [if_pos capital, decide_eq_true capital]
  · rw [if_neg capital, decide_eq_false capital]

private theorem lowercaseChar_ascii {c : Char} (h : c.toNat < 128) :
    lowercaseChar c = [c.toLower] := by
  have letter := of_ascii (fun c => c.toLower =
    if 0x41 ≤ c.toNat ∧ c.toNat ≤ 0x5A then Char.ofNat (c.toNat + 32) else c) (by decide) h
  have noDot : c.toNat ≠ 0x130 := by omega
  unfold lowercaseChar
  rw [if_neg noDot, find?_lowercaseRuns_ascii h, letter]
  by_cases capital : 0x41 ≤ c.toNat ∧ c.toNat ≤ 0x5A
  · rw [if_pos capital, if_pos capital]
    rfl
  · rw [if_neg capital, if_neg capital]

private theorem lowercaseAfter_ascii (before : List Char) {text : List Char}
    (h : ∀ c ∈ text, c.toNat < 128) : lowercaseAfter before text = text.map Char.toLower := by
  induction text generalizing before with
  | nil => rfl
  | cons c rest ih =>
    have small : c.toNat < 128 := h c List.mem_cons_self
    have noSigma : c ≠ capitalSigma := by
      rintro rfl
      exact absurd small (by decide)
    have later := ih (c :: before) fun other hm => h other (List.mem_cons_of_mem c hm)
    simp only [lowercaseAfter, noSigma, if_false, lowercaseChar_ascii small, later, List.map_cons,
      List.singleton_append]

theorem toList_lowercase_ascii {text : String} (h : ∀ c ∈ text.toList, c.toNat < 128) :
    (lowercase text).toList = text.toList.map Char.toLower := by
  unfold lowercase
  rw [lowercaseAfter_ascii [] h, String.toList_ofList]

private theorem toLower_of_not_ascii {c : Char} (h : ¬ c.toNat < 128) : c.toLower = c := by
  delta Char.toLower
  refine dif_neg ?_
  rintro ⟨-, last⟩
  have small : c.toNat ≤ 'Z'.toNat := UInt32.le_iff_toNat_le.mp last
  have bound : 'Z'.toNat < 128 := by decide
  omega

theorem toUpper_of_not_ascii {c : Char} (h : ¬ c.toNat < 128) : c.toUpper = c := by
  delta Char.toUpper
  refine dif_neg ?_
  rintro ⟨-, last⟩
  have small : c.toNat ≤ 'z'.toNat := UInt32.le_iff_toNat_le.mp last
  have bound : 'z'.toNat < 128 := by decide
  omega

theorem toLower_toUpper (c : Char) : c.toUpper.toLower = c.toLower := by
  by_cases h : c.toNat < 128
  · exact of_ascii (fun c => c.toUpper.toLower = c.toLower) (by decide) h
  · rw [toUpper_of_not_ascii h]

private theorem inRanges_toLower (ranges : List (Nat × Nat))
    (same : ∀ n < 26, inRanges ranges (n + 97) = inRanges ranges (n + 65)) (c : Char) :
    inRanges ranges c.toLower.toNat = inRanges ranges c.toNat := by
  by_cases h : c.toNat < 128
  · have lower := of_ascii (fun c => c.toLower.toNat =
      if 65 ≤ c.toNat ∧ c.toNat ≤ 90 then c.toNat + 32 else c.toNat) (by decide) h
    by_cases capital : 65 ≤ c.toNat ∧ c.toNat ≤ 90
    · have letter := same (c.toNat - 65) (by omega)
      have upper : c.toNat - 65 + 65 = c.toNat := by omega
      have below : c.toNat - 65 + 97 = c.toNat + 32 := by omega
      rw [lower, if_pos capital, ← below, letter, upper]
    · rw [lower, if_neg capital]
  · rw [toLower_of_not_ascii h]

private theorem isCased_toLower (c : Char) : isCased c.toLower = isCased c :=
  inRanges_toLower casedRanges (by decide +kernel) c

private theorem isCaseIgnorable_toLower (c : Char) :
    isCaseIgnorable c.toLower = isCaseIgnorable c := by
  have apart : ∀ range ∈ caseIgnorableRanges,
      range.2 < 65 ∨ 90 < range.1 ∧ range.2 < 97 ∨ 122 < range.1 := by decide +kernel
  have letter {n : Nat} (h : 65 ≤ n ∧ n ≤ 90 ∨ 97 ≤ n ∧ n ≤ 122) :
      inRanges caseIgnorableRanges n = false := by
    refine List.any_eq_false.mpr fun range hm inside => ?_
    simp only [Bool.and_eq_true, decide_eq_true_eq] at inside
    have outside := apart range hm
    omega
  refine inRanges_toLower caseIgnorableRanges (fun n hn => ?_) c
  rw [letter (by omega), letter (by omega)]

private theorem lowercaseChar_toLower (c : Char) : lowercaseChar c.toLower = lowercaseChar c := by
  by_cases h : c.toNat < 128
  · obtain ⟨small, again⟩ := of_ascii (fun c => c.toLower.toNat < 128 ∧
      c.toLower.toLower = c.toLower) (by decide) h
    rw [lowercaseChar_ascii h, lowercaseChar_ascii small, again]
  · rw [toLower_of_not_ascii h]

private theorem toLower_eq_capitalSigma_iff (c : Char) :
    c.toLower = capitalSigma ↔ c = capitalSigma := by
  by_cases h : c.toNat < 128
  · obtain ⟨lower, here⟩ := of_ascii (fun c => c.toLower ≠ capitalSigma ∧ c ≠ capitalSigma)
      (by decide) h
    exact iff_of_false lower here
  · rw [toLower_of_not_ascii h]

private theorem startsCased_map_toLower (text : List Char) :
    startsCased (text.map Char.toLower) = startsCased text := by
  have passed : isCaseIgnorable ∘ Char.toLower = isCaseIgnorable := funext isCaseIgnorable_toLower
  unfold startsCased
  rw [List.dropWhile_map, passed]
  cases text.dropWhile isCaseIgnorable with
  | nil => rfl
  | cons c rest => exact isCased_toLower c

-- a sigma looks both ways, so the characters behind it and those in front change together
private theorem lowercaseAfter_map_toLower (before text : List Char) :
    lowercaseAfter (before.map Char.toLower) (text.map Char.toLower) =
      lowercaseAfter before text := by
  induction text generalizing before with
  | nil => rfl
  | cons c rest ih =>
    have later := ih (c :: before)
    rw [List.map_cons] at later
    simp only [List.map_cons, lowercaseAfter, toLower_eq_capitalSigma_iff,
      startsCased_map_toLower, lowercaseChar_toLower, later]

theorem toList_toLower (text : String) : text.toLower.toList = text.toList.map Char.toLower :=
  String.toList_map

private theorem lowercase_toLower (text : String) : lowercase text.toLower = lowercase text := by
  have same := lowercaseAfter_map_toLower [] text.toList
  rw [lowercase, lowercase, toList_toLower]
  exact congrArg String.ofList same

theorem lowercase_eq_of_toLower_eq {first second : String}
    (h : first.toLower = second.toLower) : lowercase first = lowercase second := by
  rw [← lowercase_toLower first, h, lowercase_toLower]

end TypedRoutes.Text
