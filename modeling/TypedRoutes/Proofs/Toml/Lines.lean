import TypedRoutes.Proofs.Toml.LineByLine

/-!
Texts made of lines. A text whose lines are well-formed one by one is read line by line, and a word
on one line has its first place on the first line that holds it.
-/

set_option autoImplicit false
set_option relaxedAutoImplicit false

namespace TypedRoutes.Toml

/-- What a text is made of: lines with their ends, and perhaps a last one that has none. -/
inductive HasLines : List Char → List (List Char) → Prop
  | nil : HasLines [] []
  | last {line : List Char} (oneLine : IsOneLine line) (nonempty : line ≠ []) :
    HasLines line [line]
  | cons {line ending rest : List Char} {lines : List (List Char)} (oneLine : IsOneLine line)
    (ends : IsLineEnd ending) (later : HasLines rest lines) :
    HasLines (line ++ (ending ++ rest)) (line :: lines)

theorem hasLines_dropLineEnd {text : List Char}
    (oneLine : ∀ piece ∈ Text.cutLines text, IsOneLine (Text.dropLineEnd piece)) :
    HasLines text ((Text.cutLines text).map Text.dropLineEnd) := by
  generalize cut : Text.cutLines text = pieces at oneLine
  induction pieces generalizing text with
  | nil =>
    have ended : text = [] := by
      by_contra more
      exact Text.cutLines_ne_nil more cut
    subst ended
    exact .nil
  | cons piece pieces ih =>
    obtain ⟨rest, rfl, later, nonempty, ends⟩ := Text.exists_of_cutLines cut
    have here := oneLine piece List.mem_cons_self
    have lines := ih later fun piece member => oneLine piece (List.mem_cons_of_mem _ member)
    rw [List.map_cons]
    obtain ⟨ending, ended, same⟩ | ⟨same, noEnd⟩ := Text.dropLineEnd_cases piece
    · have cons := HasLines.cons here ended lines
      rw [← List.append_assoc, ← same] at cons
      exact cons
    · have last : rest = [] := by
        by_contra more
        exact noEnd (ends more)
      subst last
      cases later
      rw [same, List.append_nil]
      exact .last (same ▸ here) nonempty

private theorem hasWholeLineEnds_append {line : List Char} (oneLine : IsOneLine line)
    (rest : List Char) :
    hasWholeLineEnds (line ++ rest) = hasWholeLineEnds rest := by
  induction line with
  | nil => rfl
  | cons c line ih =>
    have visible := oneLine c List.mem_cons_self
    have noReturn : c ≠ '\r' := by
      rintro rfl
      cases visible
    have later := ih (oneLine.of_suffix (List.suffix_cons c line))
    rw [List.cons_append, hasWholeLineEnds, later]
    · simp [noReturn]
    · exact fun _ same => absurd same noReturn

private theorem hasWholeLineEnds_of_hasLines {text : List Char} {lines : List (List Char)}
    (h : HasLines text lines) : hasWholeLineEnds text = true := by
  induction h with
  | nil => rfl
  | @last line oneLine _ =>
    have whole := hasWholeLineEnds_append oneLine []
    rw [List.append_nil] at whole
    exact whole
  | cons oneLine ends _ ih =>
    rw [hasWholeLineEnds_append oneLine]
    obtain rfl | rfl := ends
    · exact ih
    · exact ih

private theorem length_le_of_hasLines {text : List Char} {lines : List (List Char)}
    (h : HasLines text lines) : lines.length ≤ text.length := by
  induction h with
  | nil => exact Nat.le_refl 0
  | last _ nonempty => exact List.length_pos_iff.mpr nonempty
  | cons _ ends _ ih =>
    obtain ⟨c, after, -, rfl⟩ := exists_cons_of_isLineEnd ends
    simp only [List.length_cons, List.length_append]
    omega

/-- Takes what lines say, one after the other; none if one of them is not well-formed by itself. -/
def takeLines? (state : State) (lines : List (List Char)) : Option State :=
  lines.foldlM (fun state line => (line? line).bind fun read => state.take? read.1) state

theorem takeLines?_cons {state : State} {line rest : List Char} {said : Line}
    (read : line? line = some (said, rest)) (lines : List (List Char)) :
    takeLines? state (line :: lines) = (state.take? said).bind (takeLines? · lines) := by
  rw [takeLines?, List.foldlM_cons, read]
  rfl

private theorem lines?_step {text rest : List Char} {said : Line} (nonempty : text ≠ [])
    (read : line? text = some (said, rest)) (limit : Nat) (state : State) :
    lines? (limit + 1) state text = (state.take? said).bind (lines? limit · rest) := by
  obtain ⟨c, text, rfl⟩ := List.exists_cons_of_ne_nil nonempty
  simp only [lines?, read, Option.bind_eq_bind, Option.bind_some]

private theorem lines?_nil (limit : Nat) (state : State) : lines? limit state [] = some state := by
  cases limit <;> rfl

private theorem lines?_of_hasLines {text : List Char} {lines : List (List Char)}
    (h : HasLines text lines)
    (formed : ∀ line ∈ lines, ∃ said rest, line? line = some (said, rest)) {limit : Nat}
    (enough : lines.length ≤ limit) (state : State) :
    lines? limit state text = takeLines? state lines := by
  induction h generalizing limit state with
  | nil => exact lines?_nil limit state
  | @last line oneLine nonempty =>
    obtain ⟨limit, rfl⟩ : ∃ n, limit = n + 1 := ⟨limit - 1, by simp at enough; omega⟩
    obtain ⟨said, rest, read⟩ := formed line List.mem_cons_self
    obtain ⟨rfl, -⟩ := line?_append oneLine read (.inl rfl) []
    rw [lines?_step nonempty read, takeLines?_cons read]
    exact Option.bind_congr fun state _ => lines?_nil limit state
  | @cons line ending rest lines oneLine ends _ ih =>
    rw [List.length_cons] at enough
    obtain ⟨limit, rfl⟩ : ∃ n, limit = n + 1 := ⟨limit - 1, by omega⟩
    obtain ⟨said, left, read⟩ := formed line List.mem_cons_self
    obtain ⟨rfl, ahead⟩ := line?_append oneLine read ends rest
    have nonempty : line ++ (ending ++ rest) ≠ [] := by
      obtain ⟨c, after, -, rfl⟩ := exists_cons_of_isLineEnd ends
      simp
    rw [lines?_step nonempty ahead, takeLines?_cons read]
    exact Option.bind_congr fun state _ =>
      ih (fun line member => formed line (List.mem_cons_of_mem _ member)) (by omega) state

private theorem ne_mark_of_hasLines {c : Char} {rest : List Char} {lines : List (List Char)}
    (h : HasLines (c :: rest) lines)
    (formed : ∀ line ∈ lines, ∃ said rest, line? line = some (said, rest)) :
    c ≠ Char.ofNat 0xFEFF := by
  rintro rfl
  have malformed (rest : List Char) : line? (Char.ofNat 0xFEFF :: rest) = none := rfl
  generalize same : Char.ofNat 0xFEFF :: rest = text at h
  cases h with
  | nil => cases same
  | last oneLine _ =>
    subst same
    obtain ⟨said, left, read⟩ := formed _ List.mem_cons_self
    rw [malformed] at read
    cases read
  | @cons line ending _ _ _ ends _ =>
    cases line with
    | nil =>
      obtain ⟨c, after, breaks, rfl⟩ := exists_cons_of_isLineEnd ends
      obtain ⟨rfl, -⟩ := List.cons_eq_cons.mp same
      cases breaks
    | cons d line =>
      obtain ⟨rfl, -⟩ := List.cons_eq_cons.mp same
      obtain ⟨said, left, read⟩ := formed _ List.mem_cons_self
      rw [malformed] at read
      cases read

theorem parse?_of_hasLines {text : String} {lines : List (List Char)}
    (h : HasLines text.toList lines)
    (formed : ∀ line ∈ lines, ∃ said rest, line? line = some (said, rest)) :
    parse? text = (takeLines? {} lines).map State.root := by
  have read : parse? text = if hasWholeLineEnds text.toList then
      (lines? text.toList.length {} text.toList).map State.root else none := by
    unfold parse?
    cases chars : text.toList with
    | nil => rfl
    | cons c rest => simp only [if_neg (ne_mark_of_hasLines (chars ▸ h) formed)]
  rw [read, if_pos (hasWholeLineEnds_of_hasLines h),
    lines?_of_hasLines h formed (length_le_of_hasLines h)]

private theorem newLine_not_mem_of_isOneLine {line : List Char} (oneLine : IsOneLine line) :
    '\n' ∉ line := by
  intro member
  cases oneLine _ member

private theorem cutLines_of_hasLines {line ending rest : List Char} (oneLine : IsOneLine line)
    (ends : IsLineEnd ending) :
    Text.cutLines (line ++ (ending ++ rest)) = (line ++ ending) :: Text.cutLines rest := by
  have noFeed := newLine_not_mem_of_isOneLine oneLine
  obtain rfl | rfl := ends
  · exact Text.cutLines_append_newLine noFeed rest
  · have noFeed' : '\n' ∉ line ++ ['\r'] := by simp [noFeed]
    have cut := Text.cutLines_append_newLine noFeed' rest
    simpa using cut

section Places

variable {word : List Char} (oneLine : IsOneLine word)

include oneLine

private theorem offsetOf?_behind_line {line ending : List Char} (ends : IsLineEnd ending)
    (missing : ¬word <:+: line) (rest : List Char) :
    Text.offsetOf? word (line ++ (ending ++ rest)) =
      (Text.offsetOf? word rest).map (Text.utf8Length (line ++ ending) + ·) := by
  have apart {c : Char} (breaks : isBreak c = true) : c ∉ word := by
    intro member
    rw [oneLine c member] at breaks
    cases breaks
  have noWord : ¬word <:+: [] := fun none => missing (none.trans List.nil_infix)
  obtain rfl | rfl := ends
  · rw [List.singleton_append, Text.offsetOf?_append_cons (apart rfl) missing,
      Text.utf8Length_append]
    simp only [Text.utf8Length, Nat.add_zero]
  · have feed := Text.offsetOf?_append_cons (apart (c := '\n') rfl) noWord rest
    rw [List.nil_append] at feed
    rw [List.cons_append, List.singleton_append, Text.offsetOf?_append_cons (apart rfl) missing,
      feed, Option.map_map, Text.utf8Length_append]
    simp only [Text.utf8Length, Function.comp_def, Nat.add_assoc, Nat.zero_add, Nat.add_zero]

/--
A word in front of a line of a text is found there or before, and there exactly if no line before
holds it.
-/
theorem exists_offsetOf?_of_hasLines (nonempty : word ≠ []) {text line : List Char}
    {before after : List (List Char)} (h : HasLines text (before ++ line :: after))
    (front : word <+: line) :
    ∃ place, Text.offsetOf? word text = some place ∧
      place ≤ Text.utf8Length ((Text.cutLines text).take before.length).flatten ∧
      (place = Text.utf8Length ((Text.cutLines text).take before.length).flatten ↔
        ∀ other ∈ before, ¬word <:+: other) := by
  induction before generalizing text with
  | nil =>
    have begins : word <+: text := by
      cases h with
      | last => exact front
      | cons => exact front.trans (List.prefix_append _ _)
    exact ⟨0, Text.offsetOf?_of_prefix begins, Nat.zero_le _, by simp [Text.utf8Length]⟩
  | cons first before ih =>
    generalize same : first :: before ++ line :: after = lines at h
    cases h with
    | nil => cases same
    | last => simp at same
    | @cons _ ending rest lines firstLine ends later =>
      obtain ⟨rfl, rfl⟩ := List.cons_eq_cons.mp same
      have start : Text.utf8Length
          ((Text.cutLines (first ++ (ending ++ rest))).take (first :: before).length).flatten =
            Text.utf8Length (first ++ ending) +
              Text.utf8Length ((Text.cutLines rest).take before.length).flatten := by
        rw [cutLines_of_hasLines firstLine ends, List.length_cons, List.take_succ_cons,
          List.flatten_cons, Text.utf8Length_append]
      rw [start]
      by_cases held : word <:+: first
      · obtain ⟨place, inside, found⟩ :=
          Text.exists_offsetOf?_of_infix nonempty held (ending ++ rest)
        rw [Text.utf8Length_append]
        refine ⟨place, found, by omega, fun same => by omega, fun none => ?_⟩
        exact absurd held (none first List.mem_cons_self)
      · obtain ⟨place, found, bounded, exact⟩ := ih later
        refine ⟨_, ?_, Nat.add_le_add_left bounded _, ?_⟩
        · rw [offsetOf?_behind_line oneLine ends held, found]
          rfl
        · rw [Nat.add_left_cancel_iff, exact, List.forall_mem_cons, and_iff_right held]

end Places

end TypedRoutes.Toml
