import Mathlib.Data.List.TakeWhile
import TypedRoutes.Proofs.Text.Lines
import TypedRoutes.Toml.Reader

/-!
Readers in front of a line end. What a reader takes off the front of a text on one line, it takes as
well when the line ends there and others follow; and it leaves what it left, with the end of the
line and the others behind it.
-/

set_option autoImplicit false
set_option relaxedAutoImplicit false

namespace TypedRoutes.Toml

def IsOneLine (text : List Char) : Prop := ∀ c ∈ text, isBreak c = false

instance (text : List Char) : Decidable (IsOneLine text) :=
  decidable_of_iff (text.all fun c => !isBreak c) (by simp [IsOneLine])

theorem IsOneLine.of_suffix {text rest : List Char} (h : IsOneLine text) (suffix : rest <:+ text) :
    IsOneLine rest := fun c hm => h c (suffix.subset hm)

/-- A reader takes a value off the front of a text, whether the text or its line ends behind it. -/
structure Takes {α : Type} (read? : List Char → Option (α × List Char)) (text : List Char)
    (value : α) (rest : List Char) : Prop where
  suffix : rest <:+ text
  ahead : ∀ c more, isBreak c = true → read? (text ++ c :: more) = some (value, rest ++ c :: more)

/-- What is passed over in front of a text is passed over as well when its line ends. -/
structure Skips (skip : List Char → List Char) : Prop where
  suffix : ∀ text, skip text <:+ text
  ahead : ∀ text c more, isBreak c = true → skip text ≠ [] →
    skip (text ++ c :: more) = skip text ++ c :: more

section Breaks

variable {c : Char} (h : isBreak c = true)

include h

private theorem eq_of_isBreak : c = '\n' ∨ c = '\r' := by
  simpa [isBreak] using h

theorem isBlank_of_isBreak : isBlank c = false := by
  obtain rfl | rfl := eq_of_isBreak h <;> decide

theorem isLineChar_of_isBreak : isLineChar c = false := by
  obtain rfl | rfl := eq_of_isBreak h <;> decide

private theorem isBareChar_of_isBreak : isBareChar c = false := by
  obtain rfl | rfl := eq_of_isBreak h <;> decide

theorem ne_of_isBreak {sign : Char} (visible : isBreak sign = false) : c ≠ sign := by
  rintro rfl
  rw [h] at visible
  cases visible

end Breaks

theorem isOneLine_of_forall {p : Char → Bool} (stops : ∀ c, isBreak c = true → p c = false)
    {text : List Char} (all : ∀ c ∈ text, p c = true) : IsOneLine text := by
  intro c member
  refine Bool.eq_false_iff.mpr fun breaks => ?_
  have inside := all c member
  rw [stops c breaks] at inside
  cases inside

private theorem takeWhile_append_cons {p : Char → Bool} {c : Char} (h : p c = false)
    (text more : List Char) : (text ++ c :: more).takeWhile p = text.takeWhile p := by
  induction text with
  | nil => simp [h]
  | cons d rest ih => cases hd : p d <;> simp [hd, ih]

theorem dropWhile_append_cons {p : Char → Bool} {c : Char} (h : p c = false)
    (text more : List Char) :
    (text ++ c :: more).dropWhile p = text.dropWhile p ++ c :: more := by
  induction text with
  | nil => simp [h]
  | cons d rest ih => cases hd : p d <;> simp [hd, ih]

theorem skipBlanks_append_cons {c : Char} (h : isBreak c = true) (text more : List Char) :
    skipBlanks (text ++ c :: more) = skipBlanks text ++ c :: more :=
  dropWhile_append_cons (isBlank_of_isBreak h) text more

theorem skips_skipBlanks : Skips skipBlanks where
  suffix _ := List.dropWhile_suffix isBlank
  ahead text _ more h _ := skipBlanks_append_cons h text more

theorem skipSpace_suffix (inComment : Bool) (text : List Char) :
    skipSpace inComment text <:+ text := by
  induction text generalizing inComment with
  | nil => exact List.suffix_refl []
  | cons c rest ih =>
    have later (inComment : Bool) : skipSpace inComment rest <:+ c :: rest :=
      (ih inComment).trans (List.suffix_cons c rest)
    unfold skipSpace
    split_ifs
    · exact later false
    · exact later true
    · exact List.suffix_refl _
    · exact later false
    · exact later true
    · exact List.suffix_refl _

theorem skipSpace_append {inComment : Bool} {text : List Char} (h : skipSpace inComment text ≠ [])
    (tail : List Char) :
    skipSpace inComment (text ++ tail) = skipSpace inComment text ++ tail := by
  induction text generalizing inComment with
  | nil => exact absurd rfl h
  | cons c rest ih =>
    rw [List.cons_append]
    unfold skipSpace at h ⊢
    split_ifs at h ⊢
    · exact ih h
    · exact ih h
    · rfl
    · exact ih h
    · exact ih h
    · rfl

theorem skips_skipSpace : Skips (skipSpace false) where
  suffix := skipSpace_suffix false
  ahead _ c more _ left := skipSpace_append left (c :: more)

private theorem takeHexCharacter?_append {count : Nat} {text rest : List Char} {c : Char}
    (read : Text.takeHexCharacter? count text = some (c, rest)) (tail : List Char) :
    rest <:+ text ∧ Text.takeHexCharacter? count (text ++ tail) = some (c, rest ++ tail) := by
  simp only [Text.takeHexCharacter?, Option.bind_eq_bind, Option.bind_eq_some_iff] at read ⊢
  obtain ⟨value, number, char, valid, taken⟩ := read
  split at taken
  case isTrue enough =>
    obtain ⟨rfl, rfl⟩ := Prod.mk.inj (Option.some.inj taken)
    have short : count ≤ text.length := by
      rw [List.length_take] at enough
      omega
    rw [List.take_append_of_le_length short, List.drop_append_of_le_length short]
    exact ⟨List.drop_suffix count text, value, number, char, valid, if_pos enough⟩
  case isFalse => cases taken

private theorem escape?_append {text rest : List Char} {c : Char}
    (read : escape? text = some (c, rest)) (tail : List Char) :
    rest <:+ text ∧ escape? (text ++ tail) = some (c, rest ++ tail) := by
  cases text with
  | nil => cases read
  | cons letter text =>
    rw [List.cons_append]
    simp only [escape?] at read ⊢
    cases digits : escapeDigits? letter with
    | some count =>
      rw [digits] at read
      obtain ⟨suffix, ahead⟩ := takeHexCharacter?_append read tail
      exact ⟨suffix.trans (List.suffix_cons letter text), ahead⟩
    | none =>
      rw [digits] at read
      obtain ⟨plain, simple, same⟩ := Option.map_eq_some_iff.mp read
      obtain ⟨rfl, rfl⟩ := Prod.mk.inj same
      rw [simple]
      exact ⟨List.suffix_cons letter text, rfl⟩

private theorem skipJoint?_of_escape? {text rest : List Char} {c : Char}
    (read : escape? text = some (c, rest)) : skipJoint? text = none := by
  cases text with
  | nil => cases read
  | cons letter text =>
    have noBlank : isBlank letter = false := by
      refine Bool.eq_false_iff.mpr fun blank => ?_
      have blanks : letter = ' ' ∨ letter = '\t' := by simpa [isBlank] using blank
      obtain rfl | rfl := blanks <;> cases read
    have noBreak : isBreak letter = false := by
      refine Bool.eq_false_iff.mpr fun ends => ?_
      obtain rfl | rfl := eq_of_isBreak ends <;> cases read
    simp [skipJoint?, noBlank, noBreak]

private theorem skipJoint?_of_isOneLine {text : List Char} (h : IsOneLine text) :
    skipJoint? text = none := by
  have rest := h.of_suffix (List.dropWhile_suffix isBlank)
  unfold skipJoint?
  cases left : text.dropWhile isBlank with
  | nil => rfl
  | cons c more =>
    rw [left] at rest
    simp [rest c List.mem_cons_self]

private theorem basicText?_escape {text rest : List Char} {c : Char}
    (read : escape? text = some (c, rest)) :
    basicText? ('\\' :: text) = (basicText? rest).map (follow c) := by
  rw [basicText?, if_neg (by decide), if_pos rfl]
  split
  case h_1 read' =>
    obtain ⟨rfl, rfl⟩ := Prod.mk.inj (Option.some.inj (read.symm.trans read'))
    rfl
  case h_2 read' => simp [read] at read'

private theorem basicText?_append {text inside rest : List Char}
    (read : basicText? text = some (inside, rest)) (tail : List Char) :
    rest <:+ text ∧ basicText? (text ++ tail) = some (inside, rest ++ tail) := by
  fun_induction basicText? text generalizing inside with
  | case1 => cases read
  | case2 text =>
    obtain ⟨rfl, rfl⟩ := Prod.mk.inj (Option.some.inj read)
    refine ⟨List.suffix_cons _ text, ?_⟩
    rw [List.cons_append, basicText?, if_pos rfl]
  | case3 text c after escaped _ ih =>
    obtain ⟨⟨later, left⟩, more, same⟩ := Option.map_eq_some_iff.mp read
    obtain ⟨rfl, rfl⟩ := Prod.mk.inj same
    obtain ⟨suffix, ahead⟩ := ih more
    obtain ⟨behind, escaped⟩ := escape?_append escaped tail
    refine ⟨(suffix.trans behind).trans (List.suffix_cons _ text), ?_⟩
    rw [List.cons_append, basicText?_escape escaped, ahead]
    rfl
  | case4 => cases read
  | case5 c text noQuote noEscape plain ih =>
    obtain ⟨⟨later, left⟩, more, same⟩ := Option.map_eq_some_iff.mp read
    obtain ⟨rfl, rfl⟩ := Prod.mk.inj same
    obtain ⟨suffix, ahead⟩ := ih more
    refine ⟨suffix.trans (List.suffix_cons c text), ?_⟩
    rw [List.cons_append, basicText?, if_neg noQuote, if_neg noEscape, if_pos plain, ahead]
    rfl
  | case6 => cases read

private theorem literalText?_append {text inside rest : List Char}
    (read : literalText? text = some (inside, rest)) (tail : List Char) :
    rest <:+ text ∧ literalText? (text ++ tail) = some (inside, rest ++ tail) := by
  fun_induction literalText? text generalizing inside with
  | case1 => cases read
  | case2 text =>
    obtain ⟨rfl, rfl⟩ := Prod.mk.inj (Option.some.inj read)
    refine ⟨List.suffix_cons _ text, ?_⟩
    rw [List.cons_append, literalText?, if_pos rfl]
  | case3 c text noQuote plain ih =>
    obtain ⟨⟨later, left⟩, more, same⟩ := Option.map_eq_some_iff.mp read
    obtain ⟨rfl, rfl⟩ := Prod.mk.inj same
    obtain ⟨suffix, ahead⟩ := ih more
    refine ⟨suffix.trans (List.suffix_cons c text), ?_⟩
    rw [List.cons_append, literalText?, if_neg noQuote, if_pos plain, ahead]
    rfl
  | case4 => cases read

private theorem blockEnd?_append {quote c : Char} (apart : c ≠ quote) (text more : List Char) :
    blockEnd? quote (text ++ c :: more) =
      (blockEnd? quote text).map fun read => (read.1, read.2 ++ c :: more) := by
  have quotes : (text ++ c :: more).takeWhile (· == quote) = text.takeWhile (· == quote) :=
    takeWhile_append_cons (p := (· == quote)) (beq_eq_false_iff_ne.mpr apart) text more
  have short : (text.takeWhile (· == quote)).length ≤ text.length :=
    (List.takeWhile_prefix _).length_le
  unfold blockEnd?
  rw [quotes]
  dsimp only
  split_ifs with few
  · rfl
  · rw [List.drop_append_of_le_length (by omega)]
    rfl

private theorem suffix_of_blockEnd? {quote : Char} {text : List Char} {read : List Char × List Char}
    (ends : blockEnd? quote text = some read) : read.2 <:+ text := by
  unfold blockEnd? at ends
  dsimp only at ends
  split_ifs at ends
  cases ends
  exact List.drop_suffix _ text

private theorem basicBlock?_end {text : List Char} {read : List Char × List Char}
    (nonempty : text ≠ [])
    (ends : blockEnd? '"' text = some read) : basicBlock? text = some read := by
  obtain ⟨c, rest, rfl⟩ := List.exists_cons_of_ne_nil nonempty
  rw [basicBlock?, ends]

private theorem basicBlock?_escape {text rest : List Char} {c : Char}
    (read : escape? text = some (c, rest)) :
    basicBlock? ('\\' :: text) = (basicBlock? rest).map (follow c) := by
  have inside : blockEnd? '"' ('\\' :: text) = none := rfl
  have noJoint := skipJoint?_of_escape? read
  rw [basicBlock?, inside]
  simp only [↓reduceIte]
  split
  case h_1 skipped =>
    rw [noJoint] at skipped
    cases skipped
  case h_2 read' =>
    obtain ⟨rfl, rfl⟩ := Prod.mk.inj (Option.some.inj (read.symm.trans read'))
    rfl
  case h_3 read' =>
    rw [read] at read'
    cases read'

private theorem basicBlock?_char {c : Char} {text : List Char}
    (inside : blockEnd? '"' (c :: text) = none)
    (noEscape : c ≠ '\\') (plain : isBlockChar c = true) :
    basicBlock? (c :: text) = (basicBlock? text).map (follow c) := by
  rw [basicBlock?, inside]
  simp only [if_neg noEscape, if_pos plain]

private theorem basicBlock?_takes {text inside rest : List Char} (line : IsOneLine text)
    (read : basicBlock? text = some (inside, rest)) : Takes basicBlock? text inside rest := by
  fun_induction basicBlock? text generalizing inside with
  | case1 => cases read
  | case2 c text found ends =>
    cases read
    refine ⟨suffix_of_blockEnd? ends, fun d more breaks => ?_⟩
    refine basicBlock?_end (by simp) ?_
    rw [blockEnd?_append (ne_of_isBreak breaks (by decide)), ends]
    rfl
  | case3 text _ joint =>
    rw [skipJoint?_of_isOneLine (line.of_suffix (List.suffix_cons _ text))] at joint
    cases joint
  | case4 text c after _ escaped _ ih =>
    obtain ⟨⟨later, left⟩, taken, same⟩ := Option.map_eq_some_iff.mp read
    obtain ⟨rfl, rfl⟩ := Prod.mk.inj same
    have behind := (escape?_append escaped []).1.trans (List.suffix_cons '\\' text)
    obtain ⟨suffix, ahead⟩ := ih (line.of_suffix behind) taken
    refine ⟨suffix.trans behind, fun d more breaks => ?_⟩
    rw [List.cons_append, basicBlock?_escape (escape?_append escaped _).2, ahead d more breaks]
    rfl
  | case5 => cases read
  | case6 c text goesOn noEscape plain ih =>
    obtain ⟨⟨later, left⟩, taken, same⟩ := Option.map_eq_some_iff.mp read
    obtain ⟨rfl, rfl⟩ := Prod.mk.inj same
    have behind := List.suffix_cons c text
    obtain ⟨suffix, ahead⟩ := ih (line.of_suffix behind) taken
    refine ⟨suffix.trans behind, fun d more breaks => ?_⟩
    have noQuote : d ≠ '"' := ne_of_isBreak breaks (by decide)
    have inside := blockEnd?_append noQuote (c :: text) more
    rw [goesOn, List.cons_append] at inside
    rw [List.cons_append, basicBlock?_char inside noEscape plain, ahead d more breaks]
    rfl
  | case7 => cases read

private theorem literalBlock?_takes {text inside rest : List Char}
    (read : literalBlock? text = some (inside, rest)) : Takes literalBlock? text inside rest := by
  fun_induction literalBlock? text generalizing inside with
  | case1 => cases read
  | case2 c text found ends =>
    cases read
    refine ⟨suffix_of_blockEnd? ends, fun d more breaks => ?_⟩
    rw [List.cons_append, literalBlock?, ← List.cons_append,
      blockEnd?_append (ne_of_isBreak breaks (by decide)), ends]
    rfl
  | case3 c text goesOn plain ih =>
    obtain ⟨⟨later, left⟩, taken, same⟩ := Option.map_eq_some_iff.mp read
    obtain ⟨rfl, rfl⟩ := Prod.mk.inj same
    obtain ⟨suffix, ahead⟩ := ih taken
    refine ⟨suffix.trans (List.suffix_cons c text), fun d more breaks => ?_⟩
    rw [List.cons_append, literalBlock?, ← List.cons_append,
      blockEnd?_append (ne_of_isBreak breaks (by decide)), goesOn]
    dsimp only [Option.map_none]
    rw [if_pos plain, ahead d more breaks]
    rfl
  | case4 => cases read

private theorem simpleKey?_takes {text rest : List Char} {key : String}
    (read : simpleKey? text = some (key, rest)) : Takes simpleKey? text key rest := by
  cases text with
  | nil => cases read
  | cons c text =>
    rw [simpleKey?] at read
    split_ifs at read with basic literal bare
    · obtain ⟨⟨inside, left⟩, taken, same⟩ := Option.map_eq_some_iff.mp read
      obtain ⟨rfl, rfl⟩ := Prod.mk.inj same
      refine ⟨(basicText?_append taken []).1.trans (List.suffix_cons c text), fun d more _ => ?_⟩
      rw [List.cons_append, simpleKey?, if_pos basic, (basicText?_append taken _).2]
      rfl
    · obtain ⟨⟨inside, left⟩, taken, same⟩ := Option.map_eq_some_iff.mp read
      obtain ⟨rfl, rfl⟩ := Prod.mk.inj same
      refine ⟨(literalText?_append taken []).1.trans (List.suffix_cons c text), fun d more _ => ?_⟩
      rw [List.cons_append, simpleKey?, if_neg basic, if_pos literal,
        (literalText?_append taken _).2]
      rfl
    · obtain ⟨rfl, rfl⟩ := Prod.mk.inj (Option.some.inj read)
      refine ⟨List.dropWhile_suffix isBareChar, fun d more breaks => ?_⟩
      have stops := isBareChar_of_isBreak breaks
      rw [List.cons_append, simpleKey?, if_neg basic, if_neg literal, if_pos bare,
        ← List.cons_append, takeWhile_append_cons stops, dropWhile_append_cons stops]

private theorem path?_dot {text rest more : List Char} {key : String} (parts : Nat)
    (read : simpleKey? text = some (key, rest)) (dot : skipBlanks rest = '.' :: more) :
    path? (parts + 1) text =
      (path? parts (skipBlanks more)).map fun read => (key :: read.1, read.2) := by
  simp only [path?, read, Option.bind_eq_bind, Option.bind_some, dot]
  cases path? parts (skipBlanks more) with
  | none => rfl
  | some => rfl

theorem path?_last {text rest : List Char} {key : String} (parts : Nat)
    (read : simpleKey? text = some (key, rest)) (last : (skipBlanks rest).head? ≠ some '.') :
    path? (parts + 1) text = some ([key], skipBlanks rest) := by
  simp only [path?, read, Option.bind_eq_bind, Option.bind_some]
  split
  case h_1 dot => exact absurd (congrArg List.head? dot) last
  case h_2 => rfl

theorem head?_append_cons_ne {text : List Char} {c sign : Char} (apart : c ≠ sign)
    (h : text.head? ≠ some sign) (more : List Char) : (text ++ c :: more).head? ≠ some sign := by
  cases text with
  | nil => simpa using apart
  | cons d text => exact h

theorem path?_takes {parts : Nat} {text rest : List Char} {path : List String}
    (read : path? parts text = some (path, rest)) :
    rest <:+ text ∧ ∀ c more others, isBreak c = true → parts ≤ others →
      path? others (text ++ c :: more) = some (path, rest ++ c :: more) := by
  induction parts generalizing text path with
  | zero => cases read
  | succ parts ih =>
    have keyed : ∃ key left, simpleKey? text = some (key, left) := by
      cases first : simpleKey? text with
      | none => simp [path?, first] at read
      | some found => exact ⟨found.1, found.2, rfl⟩
    obtain ⟨key, left, first⟩ := keyed
    obtain ⟨behind, ahead⟩ := simpleKey?_takes first
    have blanks : skipBlanks left <:+ left := List.dropWhile_suffix isBlank
    by_cases dot : (skipBlanks left).head? = some '.'
    · obtain ⟨more, dot⟩ := List.head?_eq_some_iff.mp dot
      rw [path?_dot parts first dot] at read
      obtain ⟨⟨later, rest⟩, taken, same⟩ := Option.map_eq_some_iff.mp read
      obtain ⟨rfl, rfl⟩ := Prod.mk.inj same
      obtain ⟨suffix, next⟩ := ih taken
      have behindDot : skipBlanks more <:+ skipBlanks left := by
        rw [dot]
        exact (List.dropWhile_suffix isBlank).trans (List.suffix_cons '.' more)
      refine ⟨((suffix.trans behindDot).trans blanks).trans behind, ?_⟩
      intro c others parts' breaks enough
      obtain ⟨parts', rfl⟩ : ∃ n, parts' = n + 1 := ⟨parts' - 1, by omega⟩
      have dot' : skipBlanks (left ++ c :: others) = '.' :: (more ++ c :: others) := by
        rw [skipBlanks_append_cons breaks, dot, List.cons_append]
      rw [path?_dot parts' (ahead c others breaks) dot', skipBlanks_append_cons breaks,
        next c others parts' breaks (by omega)]
      rfl
    · rw [path?_last parts first dot] at read
      obtain ⟨rfl, rfl⟩ := Prod.mk.inj (Option.some.inj read)
      refine ⟨blanks.trans behind, fun c others parts' breaks enough => ?_⟩
      obtain ⟨parts', rfl⟩ : ∃ n, parts' = n + 1 := ⟨parts' - 1, by omega⟩
      have last := head?_append_cons_ne (ne_of_isBreak breaks (by decide)) dot others
      rw [← skipBlanks_append_cons breaks] at last
      rw [path?_last parts' (ahead c others breaks) last, skipBlanks_append_cons breaks]

private theorem take_append_cons_eq_iff {sign : List Char} {c : Char} (apart : c ∉ sign)
    (text more : List Char) :
    (text ++ c :: more).take sign.length = sign ↔ text.take sign.length = sign := by
  have fronts := Text.prefix_append_cons_iff apart text more
  rw [List.prefix_iff_eq_take, List.prefix_iff_eq_take] at fronts
  exact eq_comm.trans (fronts.trans eq_comm)

theorem head?_append_cons_eq_iff {c sign : Char} (apart : c ≠ sign) (text more : List Char) :
    (text ++ c :: more).head? = some sign ↔ text.head? = some sign := by
  cases text with
  | nil => simp [apart]
  | cons d text => rfl

private theorem dropBreak_cons {c : Char} (h : isBreak c = false) (rest : List Char) :
    dropBreak (c :: rest) = c :: rest := by
  unfold dropBreak
  split
  case h_1 => simp_all [isBreak]
  case h_2 => simp_all [isBreak]
  case h_3 => rfl

private theorem takes_block {block? : List Char → Option (List Char × List Char)}
    {text inside rest : List Char} (line : IsOneLine text) (nothing : block? [] = none)
    (takes : ∀ {text}, IsOneLine text → block? text = some (inside, rest) →
      Takes block? text inside rest)
    (read : block? (dropBreak (text.drop 3)) = some (inside, rest)) :
    Takes (fun text => block? (dropBreak (text.drop 3))) text inside rest := by
  cases left : text.drop 3 with
  | nil =>
    have none : dropBreak [] = [] := rfl
    rw [left, none, nothing] at read
    cases read
  | cons e behind =>
    have suffix : e :: behind <:+ text := left ▸ List.drop_suffix 3 text
    have long : 3 ≤ text.length := by
      by_contra short
      rw [List.drop_of_length_le (by omega)] at left
      cases left
    have noBreak := line.of_suffix suffix e List.mem_cons_self
    rw [left, dropBreak_cons noBreak] at read
    have found := takes (line.of_suffix suffix) read
    refine ⟨found.suffix.trans suffix, fun d more breaks => ?_⟩
    rw [List.drop_append_of_le_length long, left, List.cons_append, dropBreak_cons noBreak]
    exact found.ahead d more breaks

private theorem takes_tail {inner? : List Char → Option (List Char × List Char)}
    {text inside rest : List Char} (nonempty : text ≠ [])
    (takes : ∀ {text}, inner? text = some (inside, rest) → ∀ tail, rest <:+ text ∧
      inner? (text ++ tail) = some (inside, rest ++ tail))
    (read : inner? text.tail = some (inside, rest)) :
    Takes (fun text => inner? text.tail) text inside rest := by
  obtain ⟨c, text, rfl⟩ := List.exists_cons_of_ne_nil nonempty
  exact ⟨(takes read []).1.trans (List.suffix_cons c text), fun d more _ => (takes read _).2⟩

theorem text?_takes {text rest : List Char} {value : String} (line : IsOneLine text)
    (read : text? text = some (value, rest)) : Takes text? text value rest := by
  obtain ⟨⟨inside, left⟩, taken, same⟩ := Option.map_eq_some_iff.mp read
  obtain ⟨rfl, rfl⟩ := Prod.mk.inj same
  -- the end of the line opens no string of another form
  have opens {d : Char} (breaks : isBreak d = true) (quote : Char) (more : List Char)
      (visible : isBreak quote = false) :
      ((text ++ d :: more).take 3 = [quote, quote, quote] ↔
        text.take 3 = [quote, quote, quote]) ∧
      ((text ++ d :: more).head? = some quote ↔ text.head? = some quote) := by
    have apart := ne_of_isBreak breaks visible
    have outside : d ∉ [quote, quote, quote] := by simp [apart]
    exact ⟨take_append_cons_eq_iff outside text more, head?_append_cons_eq_iff apart text more⟩
  have nonempty {quote : Char} (front : text.head? = some quote) : text ≠ [] := by
    rintro rfl
    cases front
  split_ifs at taken with basicBlock literalBlock basic literal
  · have found := takes_block line (by rw [basicBlock?]) basicBlock?_takes taken
    refine ⟨found.suffix, fun d more breaks => ?_⟩
    rw [text?, if_pos ((opens breaks '"' more rfl).1.mpr basicBlock), found.ahead d more breaks]
    rfl
  · have found := takes_block line rfl (fun _ => literalBlock?_takes) taken
    refine ⟨found.suffix, fun d more breaks => ?_⟩
    rw [text?, if_neg (mt (opens breaks '"' more rfl).1.mp basicBlock),
      if_pos ((opens breaks apostrophe more rfl).1.mpr literalBlock), found.ahead d more breaks]
    rfl
  · have found := takes_tail (nonempty basic) basicText?_append taken
    refine ⟨found.suffix, fun d more breaks => ?_⟩
    rw [text?, if_neg (mt (opens breaks '"' more rfl).1.mp basicBlock),
      if_neg (mt (opens breaks apostrophe more rfl).1.mp literalBlock),
      if_pos ((opens breaks '"' more rfl).2.mpr basic), found.ahead d more breaks]
    rfl
  · have found := takes_tail (nonempty literal) literalText?_append taken
    refine ⟨found.suffix, fun d more breaks => ?_⟩
    rw [text?, if_neg (mt (opens breaks '"' more rfl).1.mp basicBlock),
      if_neg (mt (opens breaks apostrophe more rfl).1.mp literalBlock),
      if_neg (mt (opens breaks '"' more rfl).2.mp basic),
      if_pos ((opens breaks apostrophe more rfl).2.mpr literal), found.ahead d more breaks]
    rfl

theorem exists_quote_of_text? {text : List Char} {read : String × List Char}
    (h : text? text = some read) : ∃ c rest, (c = '"' ∨ c = apostrophe) ∧ text = c :: rest := by
  obtain ⟨inside, taken, -⟩ := Option.map_eq_some_iff.mp h
  cases text with
  | nil => cases taken
  | cons c rest =>
    refine ⟨c, rest, ?_, rfl⟩
    by_contra other
    obtain ⟨noQuote, noApostrophe⟩ := not_or.mp other
    simp [noQuote, noApostrophe] at taken

end TypedRoutes.Toml
