import Mathlib.Data.List.Infix
import Mathlib.Tactic.SplitIfs
import TypedRoutes.Text.Lines

/-!
Lines of a text, and the first place of a word in it. A word that does not go over the end of a line
is looked for line by line.
-/

set_option autoImplicit false
set_option relaxedAutoImplicit false

namespace TypedRoutes.Text

theorem cutLines_ne_nil {text : List Char} (h : text ≠ []) : cutLines text ≠ [] := by
  cases text with
  | nil => exact absurd rfl h
  | cons c rest =>
    unfold cutLines
    split_ifs with feed
    · exact List.cons_ne_nil _ _
    · split
      · exact List.cons_ne_nil _ _
      · exact List.cons_ne_nil _ _

theorem cutLines_append_newLine {line : List Char} (h : '\n' ∉ line) (rest : List Char) :
    cutLines (line ++ '\n' :: rest) = (line ++ ['\n']) :: cutLines rest := by
  induction line with
  | nil => rfl
  | cons c line ih =>
    rw [List.mem_cons, not_or] at h
    obtain ⟨differ, later⟩ := h
    rw [List.cons_append, cutLines, if_neg (Ne.symm differ), ih later]
    rfl

theorem exists_of_cutLines {text piece : List Char} {pieces : List (List Char)}
    (cut : cutLines text = piece :: pieces) :
    ∃ rest, text = piece ++ rest ∧ cutLines rest = pieces ∧ piece ≠ [] ∧
      (rest ≠ [] → piece.getLast? = some '\n') := by
  induction text generalizing piece pieces with
  | nil => cases cut
  | cons c text ih =>
    rw [cutLines] at cut
    split_ifs at cut with feed
    · subst feed
      cases cut
      exact ⟨text, rfl, rfl, List.cons_ne_nil _ _, fun _ => rfl⟩
    · split at cut
      case h_1 none =>
        cases cut
        have ended : text = [] := by
          by_contra more
          exact cutLines_ne_nil more none
        exact ⟨[], by rw [ended]; rfl, rfl, List.cons_ne_nil _ _, fun more => absurd rfl more⟩
      case h_2 line more lines =>
        cases cut
        obtain ⟨rest, rfl, later, nonempty, ends⟩ := ih lines
        refine ⟨rest, rfl, later, List.cons_ne_nil _ _, fun more => ?_⟩
        rw [List.getLast?_cons_of_ne_nil nonempty]
        exact ends more

private theorem flatten_cutLines (text : List Char) : (cutLines text).flatten = text := by
  generalize cut : cutLines text = pieces
  induction pieces generalizing text with
  | nil =>
    by_contra more
    exact cutLines_ne_nil (Ne.symm more) cut
  | cons piece pieces ih =>
    obtain ⟨rest, rfl, later, -⟩ := exists_of_cutLines cut
    rw [List.flatten_cons, ih rest later]

theorem dropLineEnd_cases (piece : List Char) :
    (∃ ending, (ending = ['\n'] ∨ ending = ['\r', '\n']) ∧ piece = dropLineEnd piece ++ ending) ∨
      dropLineEnd piece = piece ∧ piece.getLast? ≠ some '\n' := by
  have turned := List.reverse_reverse piece
  unfold dropLineEnd
  split
  case h_1 before same =>
    refine .inl ⟨['\r', '\n'], .inr rfl, ?_⟩
    rw [same] at turned
    simpa using turned.symm
  case h_2 before _ same =>
    refine .inl ⟨['\n'], .inl rfl, ?_⟩
    rw [same] at turned
    simpa using turned.symm
  case h_3 other =>
    refine .inr ⟨rfl, fun last => ?_⟩
    rw [← List.head?_reverse, List.head?_eq_some_iff] at last
    obtain ⟨before, same⟩ := last
    exact other before same

theorem utf8Length_append (front back : List Char) :
    utf8Length (front ++ back) = utf8Length front + utf8Length back := by
  induction front with
  | nil => exact (Nat.zero_add _).symm
  | cons c front ih => rw [List.cons_append, utf8Length, utf8Length, ih, Nat.add_assoc]

theorem lineStart_le (text : String) (before : Nat) :
    lineStart text before ≤ utf8Length text.toList := by
  have whole : ((cutLines text.toList).take before).flatten ++
      ((cutLines text.toList).drop before).flatten = text.toList := by
    rw [← List.flatten_append, List.take_append_drop, flatten_cutLines]
  rw [lineStart, ← congrArg utf8Length whole, utf8Length_append]
  exact Nat.le_add_right ..

theorem prefix_append_cons_iff {word : List Char} {c : Char} (apart : c ∉ word)
    (text more : List Char) : word <+: text ++ c :: more ↔ word <+: text := by
  induction word generalizing text with
  | nil => simp
  | cons d word ih =>
    rw [List.mem_cons, not_or] at apart
    obtain ⟨differ, apart⟩ := apart
    cases text with
    | nil => simp [Ne.symm differ]
    | cons e text => simp [List.cons_prefix_cons, ih apart]

section Places

variable {word : List Char}

theorem offsetOf?_of_prefix {text : List Char} (front : word <+: text) :
    offsetOf? word text = some 0 := by
  cases text with
  | nil =>
    obtain rfl := List.prefix_nil.mp front
    rfl
  | cons c rest => rw [offsetOf?, if_pos (List.isPrefixOf_iff_prefix.mpr front)]

private theorem offsetOf?_cons {text : List Char} {c : Char} (front : ¬word <+: c :: text) :
    offsetOf? word (c :: text) = (offsetOf? word text).map (c.utf8Size + ·) := by
  rw [offsetOf?, if_neg (mt List.isPrefixOf_iff_prefix.mp front)]

theorem offsetOf?_append_cons {c : Char} (apart : c ∉ word) {line : List Char}
    (missing : ¬word <:+: line) (more : List Char) :
    offsetOf? word (line ++ c :: more) =
      (offsetOf? word more).map (utf8Length line + c.utf8Size + ·) := by
  induction line with
  | nil =>
    have front : ¬word <+: c :: more :=
      fun front => missing ((prefix_append_cons_iff apart [] more).mp front).isInfix
    rw [List.nil_append, offsetOf?_cons front, utf8Length, Nat.zero_add]
  | cons d line ih =>
    rw [List.infix_cons_iff, not_or] at missing
    have front : ¬word <+: d :: (line ++ c :: more) :=
      mt (prefix_append_cons_iff apart (d :: line) more).mp missing.1
    rw [List.cons_append, offsetOf?_cons front, ih missing.2, Option.map_map, utf8Length]
    simp only [Function.comp_def, Nat.add_assoc]

theorem exists_offsetOf?_of_infix (nonempty : word ≠ []) {line : List Char}
    (held : word <:+: line) (more : List Char) :
    ∃ place < utf8Length line, offsetOf? word (line ++ more) = some place := by
  induction line with
  | nil => exact absurd (List.infix_nil.mp held) nonempty
  | cons c line ih =>
    rw [List.cons_append, utf8Length]
    have size := c.utf8Size_pos
    by_cases front : word <+: c :: (line ++ more)
    · exact ⟨0, by omega, offsetOf?_of_prefix front⟩
    · obtain here | later := List.infix_cons_iff.mp held
      · exact absurd (here.trans (List.prefix_append (c :: line) more)) front
      · obtain ⟨place, inside, found⟩ := ih later
        refine ⟨c.utf8Size + place, by omega, ?_⟩
        rw [offsetOf?_cons front, found]
        rfl

end Places

end TypedRoutes.Text
