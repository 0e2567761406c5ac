import TypedRoutes.Proofs.Toml.LineEnd

/-!
Lines of a TOML text. A line that is well-formed by itself says the same in front of other lines,
and the reader goes on behind its end.
-/

set_option autoImplicit false
set_option relaxedAutoImplicit false

namespace TypedRoutes.Toml

/-- A reader of values takes them from a text on one line. -/
structure TakesValues (value? : List Char → Option (Value × List Char)) : Prop where
  nothing : value? [] = none
  takes : ∀ {text value rest}, IsOneLine text → value? text = some (value, rest) →
    Takes value? text value rest

section Assignments

variable {value? : List Char → Option (Value × List Char)} (values : TakesValues value?)

private theorem exists_of_assignment? {skip : List Char → List Char} {text rest : List Char}
    {path : List String} {value : Value}
    (read : assignment? skip value? text = some (path, value, rest)) :
    ∃ left behind, path? text.length text = some (path, left) ∧ skip left = '=' :: behind ∧
      value? (skip behind) = some (value, rest) := by
  simp only [assignment?, Option.bind_eq_bind, Option.bind_eq_some_iff] at read
  obtain ⟨⟨found, left⟩, key, assigned⟩ := read
  dsimp only at assigned
  split at assigned
  case h_1 behind sign =>
    obtain ⟨⟨found', left'⟩, taken, same⟩ := Option.bind_eq_some_iff.mp assigned
    cases same
    exact ⟨left, behind, key, sign, taken⟩
  case h_2 => cases assigned

theorem assignment?_of {skip : List Char → List Char} {text left behind rest : List Char}
    {path : List String} {value : Value} (key : path? text.length text = some (path, left))
    (sign : skip left = '=' :: behind) (taken : value? (skip behind) = some (value, rest)) :
    assignment? skip value? text = some (path, value, rest) := by
  simp only [assignment?, key, Option.bind_eq_bind, Option.bind_some, sign, taken]

include values

private theorem assignment?_takes {skip : List Char → List Char} (skips : Skips skip)
    {text rest : List Char} {path : List String} {value : Value} (line : IsOneLine text)
    (read : assignment? skip value? text = some (path, value, rest)) :
    rest <:+ text ∧ ∀ c more, isBreak c = true →
      assignment? skip value? (text ++ c :: more) = some (path, value, rest ++ c :: more) := by
  obtain ⟨left, behind, key, sign, taken⟩ := exists_of_assignment? read
  obtain ⟨leftSuffix, keyAhead⟩ := path?_takes key
  have signSuffix : '=' :: behind <:+ left := sign ▸ skips.suffix left
  have valueSuffix : skip behind <:+ text :=
    (skips.suffix behind).trans
      ((List.suffix_cons '=' behind).trans (signSuffix.trans leftSuffix))
  have found := values.takes (line.of_suffix valueSuffix) taken
  refine ⟨found.suffix.trans valueSuffix, fun c more breaks => ?_⟩
  have present : skip behind ≠ [] := by
    intro none
    rw [none, values.nothing] at taken
    cases taken
  have signAhead : skip (left ++ c :: more) = '=' :: (behind ++ c :: more) := by
    rw [skips.ahead left c more breaks (by simp [sign]), sign]
    rfl
  refine assignment?_of (keyAhead c more _ breaks (by simp)) signAhead ?_
  rw [skips.ahead behind c more breaks present]
  exact found.ahead c more breaks

omit values in
private theorem inlineEntries?_closed {entries : Entries} {text rest : List Char} (limit : Nat)
    (closed : skipSpace false text = '}' :: rest) :
    inlineEntries? value? (limit + 1) entries text = some (entries, rest) := by
  simp only [inlineEntries?, closed]

omit values in
private theorem inlineEntries?_entry {entries : Entries} {text : List Char} (limit : Nat)
    (entry : (skipSpace false text).head? ≠ some '}') :
    inlineEntries? value? (limit + 1) entries text =
      (assignment? (skipSpace false) value? (skipSpace false text)).bind fun (path, value, rest) =>
        (entries.assign? path value).bind fun entries =>
          match skipSpace false rest with
          | ',' :: rest => inlineEntries? value? limit entries rest
          | '}' :: rest => some (entries, rest)
          | _ => none := by
  rw [inlineEntries?]
  split
  case h_1 closed => exact absurd (congrArg List.head? closed) entry
  case h_2 => rfl

omit values in
private theorem inlineEntries?_next {entries more : Entries} {text left : List Char}
    {path : List String}
    {value : Value} (limit : Nat) (entry : (skipSpace false text).head? ≠ some '}')
    (assigned : assignment? (skipSpace false) value? (skipSpace false text) =
      some (path, value, left))
    (written : entries.assign? path value = some more) :
    inlineEntries? value? (limit + 1) entries text =
      match skipSpace false left with
      | ',' :: rest => inlineEntries? value? limit more rest
      | '}' :: rest => some (more, rest)
      | _ => none := by
  rw [inlineEntries?_entry limit entry, assigned, Option.bind_some]
  dsimp only
  rw [written]
  rfl

private theorem inlineEntries?_takes {limit : Nat} {entries result : Entries}
    {text rest : List Char} (line : IsOneLine text)
    (read : inlineEntries? value? limit entries text = some (result, rest)) :
    rest <:+ text ∧ ∀ c more others, isBreak c = true → limit ≤ others →
      inlineEntries? value? others entries (text ++ c :: more) =
        some (result, rest ++ c :: more) := by
  have blanks := skips_skipSpace
  induction limit generalizing entries text with
  | zero => cases read
  | succ limit ih =>
    by_cases closed : (skipSpace false text).head? = some '}'
    · obtain ⟨behind, closed⟩ := List.head?_eq_some_iff.mp closed
      rw [inlineEntries?_closed limit closed] at read
      cases read
      refine ⟨(List.suffix_cons _ _).trans (closed ▸ blanks.suffix text), ?_⟩
      intro c more others breaks enough
      obtain ⟨others, rfl⟩ : ∃ n, others = n + 1 := ⟨others - 1, by omega⟩
      refine inlineEntries?_closed others ?_
      rw [blanks.ahead text c more breaks (by simp [closed]), closed]
      rfl
    · rw [inlineEntries?_entry limit closed] at read
      obtain ⟨⟨path, value, left⟩, assigned, read⟩ := Option.bind_eq_some_iff.mp read
      obtain ⟨entries', written, read⟩ := Option.bind_eq_some_iff.mp read
      have present : skipSpace false text ≠ [] := by
        intro none
        rw [none] at assigned
        cases assigned
      obtain ⟨leftSuffix, ahead⟩ :=
        assignment?_takes values blanks (line.of_suffix (blanks.suffix text)) assigned
      have leftSuffix := leftSuffix.trans (blanks.suffix text)
      -- the entry is read as well in front of the end of the line, whatever follows the entry
      have step {c : Char} (more : List Char) (others : Nat) (breaks : isBreak c = true) :
          inlineEntries? value? (others + 1) entries (text ++ c :: more) =
            match skipSpace false (left ++ c :: more) with
            | ',' :: rest => inlineEntries? value? others entries' rest
            | '}' :: rest => some (entries', rest)
            | _ => none := by
        have front := blanks.ahead text c more breaks present
        have entry := head?_append_cons_ne (ne_of_isBreak breaks (by decide)) closed more
        have assigned' := ahead c more breaks
        rw [← front] at entry assigned'
        exact inlineEntries?_next others entry assigned' written
      split at read
      case h_1 behind sign =>
        have behindSuffix : behind <:+ text :=
          (List.suffix_cons ',' behind).trans ((sign ▸ blanks.suffix left).trans leftSuffix)
        obtain ⟨suffix, next⟩ := ih (line.of_suffix behindSuffix) read
        refine ⟨suffix.trans behindSuffix, fun c more others breaks enough => ?_⟩
        obtain ⟨others, rfl⟩ : ∃ n, others = n + 1 := ⟨others - 1, by omega⟩
        rw [step more others breaks, blanks.ahead left c more breaks (by simp [sign]), sign]
        exact next c more others breaks (by omega)
      case h_2 behind sign =>
        cases read
        refine ⟨(List.suffix_cons '}' _).trans ((sign ▸ blanks.suffix left).trans leftSuffix), ?_⟩
        intro c more others breaks enough
        obtain ⟨others, rfl⟩ : ∃ n, others = n + 1 := ⟨others - 1, by omega⟩
        rw [step more others breaks, blanks.ahead left c more breaks (by simp [sign]), sign]
        rfl
      case h_3 => cases read

end Assignments

theorem value?_quote {c : Char} (quote : c = '"' ∨ c = apostrophe) (depth : Nat)
    (text : List Char) :
    value? depth (c :: text) = (text? (c :: text)).map fun read => (.text read.1, read.2) := by
  unfold value?
  obtain rfl | rfl := quote <;> rfl

private theorem value?_brace (depth : Nat) (text : List Char) :
    value? (depth + 1) ('{' :: text) =
      (inlineEntries? (value? depth) (text.length + 1) [] text).map fun read =>
        (.table .inline read.1, read.2) := rfl

private theorem value?_bracket {text rest : List Char} (closed : skipSpace false text = ']' :: rest)
    (depth : Nat) : value? depth ('[' :: text) = some (.emptyList, rest) := by
  unfold value?
  simp only [closed]

private theorem takesValues_of_inner {depth : Nat}
    (inner : ∀ n, depth = n + 1 → TakesValues (value? n)) : TakesValues (value? depth) := by
  refine ⟨by unfold value?; rfl, fun {text value rest} line read => ?_⟩
  unfold value? at read
  split at read
  case h_1 behind =>
    cases read
    refine ⟨⟨['t', 'r', 'u', 'e'], rfl⟩, fun c more _ => ?_⟩
    unfold value?
    rfl
  case h_2 behind =>
    cases read
    refine ⟨⟨['f', 'a', 'l', 's', 'e'], rfl⟩, fun c more _ => ?_⟩
    unfold value?
    rfl
  case h_3 behind =>
    split at read
    case h_1 closed =>
      cases read
      have suffix := (List.suffix_cons _ _).trans (closed ▸ skipSpace_suffix false behind)
      refine ⟨suffix.trans (List.suffix_cons '[' behind), fun c more _ => ?_⟩
      have present : skipSpace false behind ≠ [] := by simp [closed]
      have ahead := skipSpace_append present (c :: more)
      rw [closed, List.cons_append] at ahead
      rw [List.cons_append]
      exact value?_bracket ahead depth
    case h_2 => cases read
  case h_4 behind =>
    cases depth with
    | zero => cases read
    | succ depth =>
      obtain ⟨⟨entries, left⟩, taken, same⟩ := Option.map_eq_some_iff.mp read
      cases same
      have values := inner depth rfl
      have behindSuffix := List.suffix_cons '{' behind
      obtain ⟨suffix, ahead⟩ := inlineEntries?_takes values (line.of_suffix behindSuffix) taken
      refine ⟨suffix.trans behindSuffix, fun c more breaks => ?_⟩
      rw [List.cons_append, value?_brace, ahead c more _ breaks (by simp)]
      rfl
  case h_5 =>
    obtain ⟨⟨inside, left⟩, taken, same⟩ := Option.map_eq_some_iff.mp read
    cases same
    obtain ⟨c, behind, quote, rfl⟩ := exists_quote_of_text? taken
    obtain ⟨suffix, ahead⟩ := text?_takes line taken
    refine ⟨suffix, fun d more breaks => ?_⟩
    rw [List.cons_append, value?_quote quote, ← List.cons_append, ahead d more breaks]
    rfl

private theorem takesValues_value? (depth : Nat) : TakesValues (value? depth) := by
  induction depth with
  | zero => exact takesValues_of_inner fun n same => absurd same (Nat.succ_ne_zero n).symm
  | succ depth ih => exact takesValues_of_inner fun n same => Nat.succ.inj same ▸ ih

/-- What is left behind blanks and a comment. -/
def behindComment (text : List Char) : List Char :=
  let text := skipBlanks text
  if text.head? = some '#' then text.dropWhile isLineChar else text

private theorem behindComment_suffix (text : List Char) : behindComment text <:+ text := by
  have blanks : skipBlanks text <:+ text := List.dropWhile_suffix isBlank
  unfold behindComment
  dsimp only
  split_ifs
  · exact (List.dropWhile_suffix isLineChar).trans blanks
  · exact blanks

private theorem behindComment_append_cons {c : Char} (h : isBreak c = true)
    (text more : List Char) :
    behindComment (text ++ c :: more) = behindComment text ++ c :: more := by
  have noComment : c ≠ '#' := ne_of_isBreak h (by decide)
  simp only [behindComment, skipBlanks_append_cons h, head?_append_cons_eq_iff noComment,
    dropWhile_append_cons (isLineChar_of_isBreak h)]
  split_ifs <;> rfl

theorem endLine?_eq (text : List Char) :
    endLine? text = match behindComment text with
      | [] => some []
      | '\n' :: rest => some rest
      | '\r' :: '\n' :: rest => some rest
      | _ => none := rfl

private theorem endLine?_eq_none {text rest : List Char} {c : Char}
    (left : behindComment text = c :: rest)
    (visible : isBreak c = false) : endLine? text = none := by
  rw [endLine?_eq, left]
  split
  case h_1 same => cases same
  case h_2 same =>
    cases same
    cases visible
  case h_3 same =>
    cases same
    cases visible
  case h_4 => rfl

/-- The end of a line: a line feed, or a carriage return and a line feed. -/
def IsLineEnd (ending : List Char) : Prop := ending = ['\n'] ∨ ending = ['\r', '\n']

theorem exists_cons_of_isLineEnd {ending : List Char} (h : IsLineEnd ending) :
    ∃ c rest, isBreak c = true ∧ ending = c :: rest := by
  obtain rfl | rfl := h
  · exact ⟨_, _, rfl, rfl⟩
  · exact ⟨_, _, rfl, rfl⟩

private theorem endLine?_append {text ending : List Char} (line : IsOneLine text)
    (ends : IsLineEnd ending) (more : List Char) :
    (∀ rest, endLine? text = some rest →
      rest = [] ∧ endLine? (text ++ (ending ++ more)) = some more) ∧
    (endLine? text = none → endLine? (text ++ (ending ++ more)) = none) := by
  obtain ⟨c, after, breaks, rfl⟩ := exists_cons_of_isLineEnd ends
  have ahead := behindComment_append_cons breaks text (after ++ more)
  rw [List.cons_append]
  cases left : behindComment text with
  | nil =>
    rw [left, List.nil_append] at ahead
    have here : endLine? text = some [] := by rw [endLine?_eq, left]
    have there : endLine? (text ++ c :: (after ++ more)) = some more := by
      rw [endLine?_eq, ahead, ← List.cons_append]
      obtain same | same := ends <;> rw [same] <;> rfl
    rw [here, there]
    exact ⟨fun rest same => ⟨(Option.some.inj same).symm, rfl⟩, nofun⟩
  | cons d rest =>
    have visible := line d ((behindComment_suffix text).subset (left ▸ List.mem_cons_self))
    rw [left, List.cons_append] at ahead
    rw [endLine?_eq_none left visible, endLine?_eq_none ahead visible]
    exact ⟨nofun, fun _ => rfl⟩

private theorem line?_bracket {text behind left : List Char} {path : List String}
    (front : skipBlanks text = '[' :: behind)
    (named : path? behind.length (skipBlanks behind) = some (path, ']' :: left)) :
    line? text = (endLine? left).map fun rest => (.header path, rest) := by
  simp only [line?, front, named, Option.bind_eq_bind, Option.bind_some]

theorem line?_blank {text rest : List Char} (front : (skipBlanks text).head? ≠ some '[')
    (ends : endLine? (skipBlanks text) = some rest) : line? text = some (.blank, rest) := by
  unfold line?
  split
  case h_1 same => exact absurd (congrArg List.head? same) front
  case h_2 => rw [ends]

theorem line?_assignment {text left : List Char} {path : List String} {value : Value}
    (front : (skipBlanks text).head? ≠ some '[') (goesOn : endLine? (skipBlanks text) = none)
    (read : assignment? skipBlanks (value? nestingLimit) (skipBlanks text) =
      some (path, value, left)) :
    line? text = (endLine? left).map fun rest => (.assignment path value, rest) := by
  unfold line?
  split
  case h_1 same => exact absurd (congrArg List.head? same) front
  case h_2 => simp only [goesOn, read, Option.bind_eq_bind, Option.bind_some]

theorem line?_cases {text rest : List Char} {said : Line} (read : line? text = some (said, rest)) :
    (∃ behind path left, skipBlanks text = '[' :: behind ∧
      path? behind.length (skipBlanks behind) = some (path, ']' :: left) ∧
      endLine? left = some rest ∧ said = .header path) ∨
    (skipBlanks text).head? ≠ some '[' ∧
      (endLine? (skipBlanks text) = some rest ∧ said = .blank ∨
      endLine? (skipBlanks text) = none ∧ ∃ path value left,
        assignment? skipBlanks (value? nestingLimit) (skipBlanks text) = some (path, value, left) ∧
        endLine? left = some rest ∧ said = .assignment path value) := by
  unfold line? at read
  split at read
  case h_1 behind front =>
    obtain ⟨⟨path, left⟩, named, read⟩ := Option.bind_eq_some_iff.mp read
    dsimp only at read
    split at read
    case h_1 =>
      obtain ⟨_, ends, same⟩ := Option.map_eq_some_iff.mp read
      cases same
      exact .inl ⟨behind, path, _, front, named, ends, rfl⟩
    case h_2 => cases read
  case h_2 noBracket =>
    have front : (skipBlanks text).head? ≠ some '[' := by
      intro front
      obtain ⟨behind, same⟩ := List.head?_eq_some_iff.mp front
      exact noBracket behind same
    refine .inr ⟨front, ?_⟩
    split at read
    case h_1 ends =>
      cases read
      exact .inl ⟨ends, rfl⟩
    case h_2 goesOn =>
      obtain ⟨⟨path, value, left⟩, assigned, read⟩ := Option.bind_eq_some_iff.mp read
      obtain ⟨_, ends, same⟩ := Option.map_eq_some_iff.mp read
      cases same
      exact .inr ⟨goesOn, path, value, left, assigned, ends, rfl⟩

/-- A line that is well-formed by itself says the same in front of others, and nothing is left. -/
theorem line?_append {text rest ending : List Char} {said : Line} (line : IsOneLine text)
    (read : line? text = some (said, rest)) (ends : IsLineEnd ending) (more : List Char) :
    rest = [] ∧ line? (text ++ (ending ++ more)) = some (said, more) := by
  obtain ⟨c, after, breaks, same⟩ := exists_cons_of_isLineEnd ends
  have blanks : skipBlanks text <:+ text := List.dropWhile_suffix isBlank
  have front : skipBlanks (text ++ (ending ++ more)) = skipBlanks text ++ (ending ++ more) := by
    rw [same, List.cons_append]
    exact skipBlanks_append_cons breaks text (after ++ more)
  obtain ⟨behind, path, left, bracket, named, closed, rfl⟩ | ⟨noBracket, said⟩ := line?_cases read
  · have behindSuffix : behind <:+ text :=
      (List.suffix_cons '[' behind).trans (bracket ▸ blanks)
    obtain ⟨leftSuffix, ahead⟩ := path?_takes named
    have leftLine : IsOneLine left :=
      line.of_suffix ((List.suffix_cons ']' left).trans
        (leftSuffix.trans ((List.dropWhile_suffix isBlank).trans behindSuffix)))
    obtain ⟨rfl, next⟩ := (endLine?_append leftLine ends more).1 _ closed
    rw [bracket, List.cons_append] at front
    have named' : path? (behind ++ (ending ++ more)).length
        (skipBlanks (behind ++ (ending ++ more))) =
          some (path, ']' :: (left ++ (ending ++ more))) := by
      rw [same, List.cons_append, skipBlanks_append_cons breaks]
      exact ahead c (after ++ more) _ breaks (by simp)
    rw [line?_bracket front named', next]
    exact ⟨rfl, rfl⟩
  · have noBracket' : (skipBlanks (text ++ (ending ++ more))).head? ≠ some '[' := by
      rw [front, same]
      exact head?_append_cons_ne (ne_of_isBreak breaks (by decide)) noBracket (after ++ more)
    obtain ⟨blank, rfl⟩ | ⟨goesOn, path, value, left, assigned, closed, rfl⟩ := said
    · obtain ⟨rfl, ahead⟩ := (endLine?_append (line.of_suffix blanks) ends more).1 _ blank
      exact ⟨rfl, line?_blank noBracket' (front ▸ ahead)⟩
    · have goesOn' := (endLine?_append (line.of_suffix blanks) ends more).2 goesOn
      obtain ⟨leftSuffix, ahead⟩ := assignment?_takes (takesValues_value? nestingLimit)
        skips_skipBlanks (line.of_suffix blanks) assigned
      have leftLine := line.of_suffix (leftSuffix.trans blanks)
      obtain ⟨rfl, next⟩ := (endLine?_append leftLine ends more).1 _ closed
      have assigned' := ahead c (after ++ more) breaks
      rw [← List.cons_append, ← same, ← front] at assigned'
      rw [line?_assignment noBracket' (front ▸ goesOn') assigned', next]
      exact ⟨rfl, rfl⟩

end TypedRoutes.Toml
