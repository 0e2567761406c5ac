import Mathlib.Data.List.Basic
import TypedRoutes.Route.Template

/-!
Paths in the notation of Express. A template is rewritten piece by piece: a parameter is written
behind a colon instead of in braces, and everything else stays. Text changes exactly if it has a
parameter.
-/

set_option autoImplicit false
set_option relaxedAutoImplicit false

namespace TypedRoutes.Route

/-- A piece of a path: plain text, or a parameter by its name. -/
inductive Piece where
  | text (chars : List Char)
  | parameter (name : List Char)
  deriving DecidableEq, Repr

namespace Piece

/-- A piece as it stands in a template, with parameters in braces. -/
def braced : Piece → List Char
  | .text chars => chars
  | .parameter name => '{' :: (name ++ ['}'])

/-- A piece in the notation of Express, with parameters behind a colon. -/
def marked : Piece → List Char
  | .text chars => chars
  | .parameter name => ':' :: name

/-- A piece has no braces inside, and a parameter has a name. -/
def IsPlain : Piece → Prop
  | .text chars => '{' ∉ chars ∧ '}' ∉ chars
  | .parameter name => name ≠ [] ∧ '{' ∉ name ∧ '}' ∉ name

instance : DecidablePred IsPlain
  | .text chars => inferInstanceAs (Decidable ('{' ∉ chars ∧ '}' ∉ chars))
  | .parameter name => inferInstanceAs (Decidable (name ≠ [] ∧ '{' ∉ name ∧ '}' ∉ name))

end Piece

def templateOf (pieces : List Piece) : String := String.ofList (pieces.flatMap Piece.braced)

/-- The path in the notation of Express with some pieces. -/
def markedPath (pieces : List Piece) : String := String.ofList (pieces.flatMap Piece.marked)

private theorem expressChars_text {text : List Char} (rest : List Char) (h : '{' ∉ text) :
    expressChars none (text ++ rest) = text ++ expressChars none rest := by
  induction text with
  | nil => rfl
  | cons c text ih =>
    have noBrace : c ≠ '{' := fun same => h (same ▸ List.mem_cons_self)
    have later := ih fun hm => h (List.mem_cons_of_mem c hm)
    simp only [List.cons_append, expressChars, noBrace, if_false, later]

private theorem expressChars_closed (read : List Char) {name : List Char} (rest : List Char)
    (h : '}' ∉ name) (named : read ≠ [] ∨ name ≠ []) :
    expressChars (some read) (name ++ '}' :: rest) =
      ':' :: (read.reverse ++ name ++ expressChars none rest) := by
  induction name generalizing read with
  | nil =>
    have hread : read ≠ [] := named.resolve_right fun hname => hname rfl
    simp [expressChars, hread]
  | cons c name ih =>
    have noBrace : c ≠ '}' := fun same => h (same ▸ List.mem_cons_self)
    have later := ih (c :: read) (fun hm => h (List.mem_cons_of_mem c hm))
      (.inl (List.cons_ne_nil c read))
    simp only [List.cons_append, expressChars, noBrace, if_false, later, List.reverse_cons,
      List.append_assoc, List.nil_append]

private theorem expressChars_parameter {name : List Char} (rest : List Char) (hname : name ≠ [])
    (h : '}' ∉ name) :
    expressChars none ('{' :: (name ++ '}' :: rest)) = ':' :: (name ++ expressChars none rest) := by
  have closed := expressChars_closed [] rest h (.inr hname)
  simpa [expressChars] using closed

private theorem expressChars_emptyBraces (rest : List Char) :
    expressChars none ('{' :: '}' :: rest) = '{' :: '}' :: expressChars none rest := by
  simp [expressChars]

private theorem expressChars_notClosed (read : List Char) {rest : List Char} (h : '}' ∉ rest) :
    expressChars (some read) rest = '{' :: (read.reverse ++ rest) := by
  induction rest generalizing read with
  | nil => simp [expressChars]
  | cons c rest ih =>
    have noBrace : c ≠ '}' := fun same => h (same ▸ List.mem_cons_self)
    have later := ih (c :: read) fun hm => h (List.mem_cons_of_mem c hm)
    simp only [expressChars, noBrace, if_false, later, List.reverse_cons, List.append_assoc,
      List.cons_append, List.nil_append]

private theorem expressChars_unclosed {rest : List Char} (h : '}' ∉ rest) :
    expressChars none ('{' :: rest) = '{' :: rest := by
  have opened := expressChars_notClosed [] h
  simpa [expressChars] using opened

/-- Somewhere there are braces with at least one character in them. -/
def HasParameter (text : List Char) : Prop :=
  ∃ before name after, text = before ++ '{' :: (name ++ '}' :: after) ∧ name ≠ [] ∧ '}' ∉ name

private theorem hasParameter_cons_iff {c : Char} (rest : List Char) (h : c ≠ '{') :
    HasParameter (c :: rest) ↔ HasParameter rest := by
  constructor
  · rintro ⟨before, name, after, split, hname, closed⟩
    cases before with
    | nil => exact absurd (List.cons.inj split).1 h
    | cons first before => exact ⟨before, name, after, (List.cons.inj split).2, hname, closed⟩
  · rintro ⟨before, name, after, rfl, hname, closed⟩
    exact ⟨c :: before, name, after, rfl, hname, closed⟩

private theorem hasParameter_emptyBraces_iff (rest : List Char) :
    HasParameter ('{' :: '}' :: rest) ↔ HasParameter rest := by
  have behind : HasParameter ('}' :: rest) ↔ HasParameter rest :=
    hasParameter_cons_iff rest (by decide)
  rw [← behind]
  constructor
  · rintro ⟨before, name, after, split, hname, closed⟩
    cases before with
    | nil =>
      -- the name would begin with the closing brace
      obtain ⟨c, more, rfl⟩ := List.exists_cons_of_ne_nil hname
      have first : '}' = c := (List.cons.inj (List.cons.inj split).2).1
      exact absurd (first ▸ List.mem_cons_self) closed
    | cons first before => exact ⟨before, name, after, (List.cons.inj split).2, hname, closed⟩
  · rintro ⟨before, name, after, split, hname, closed⟩
    exact ⟨'{' :: before, name, after, congrArg (List.cons '{') split, hname, closed⟩

private theorem mem_of_hasParameter {rest : List Char}
    (h : HasParameter ('{' :: rest)) : '}' ∈ rest := by
  obtain ⟨before, name, after, split, -, -⟩ := h
  have inText : '}' ∈ '{' :: rest := by simp [split]
  exact List.mem_of_ne_of_mem (by decide) inText

private theorem not_hasParameter_of_not_mem {text : List Char}
    (h : '{' ∉ text) : ¬ HasParameter text := by
  rintro ⟨before, name, after, rfl, -, -⟩
  exact h (by simp)

private theorem closing_cases (rest : List Char) :
    '}' ∉ rest ∨ (∃ after, rest = '}' :: after) ∨
      ∃ name after, rest = name ++ '}' :: after ∧ name ≠ [] ∧ '}' ∉ name := by
  by_cases closed : '}' ∈ rest
  · obtain ⟨name, after, split, hname⟩ := List.eq_append_cons_of_mem closed
    cases name with
    | nil => exact .inr (.inl ⟨after, split⟩)
    | cons c name => exact .inr (.inr ⟨c :: name, after, split, List.cons_ne_nil c name, hname⟩)
  · exact .inl closed

private theorem expressChars_eq_or_lt (text : List Char) :
    (expressChars none text = text ∧ ¬ HasParameter text) ∨
      ((expressChars none text).length < text.length ∧ HasParameter text) := by
  -- the scanner goes on behind the braces that it has closed, so the induction is on the length
  induction hn : text.length using Nat.strongRecOn generalizing text with
  | ind n ih =>
    subst hn
    cases text with
    | nil => exact .inl ⟨rfl, not_hasParameter_of_not_mem List.not_mem_nil⟩
    | cons c rest =>
      by_cases brace : c = '{'
      · subst brace
        obtain unclosed | ⟨after, rfl⟩ | ⟨name, after, rfl, hname, closed⟩ := closing_cases rest
        · left
          exact ⟨expressChars_unclosed unclosed, fun param => unclosed (mem_of_hasParameter param)⟩
        · have less : after.length < ('{' :: '}' :: after).length := by
            simp only [List.length_cons]
            omega
          have later := ih after.length less after rfl
          rw [expressChars_emptyBraces, hasParameter_emptyBraces_iff]
          simpa using later
        · have less : after.length < ('{' :: (name ++ '}' :: after)).length := by
            simp only [List.length_cons, List.length_append]
            omega
          have shorter : (expressChars none after).length ≤ after.length := by
            obtain ⟨same, -⟩ | ⟨lt, -⟩ := ih after.length less after rfl
            · exact Nat.le_of_eq (congrArg List.length same)
            · exact Nat.le_of_lt lt
          right
          rw [expressChars_parameter after hname closed]
          refine ⟨?_, [], name, after, rfl, hname, closed⟩
          simp only [List.length_cons, List.length_append]
          omega
      · have later := ih rest.length (Nat.lt_succ_self _) rest rfl
        have step : expressChars none (c :: rest) = c :: expressChars none rest := by
          simp [expressChars, brace]
        rw [step, hasParameter_cons_iff rest brace]
        simpa using later

private theorem expressChars_eq_self_iff (text : List Char) :
    expressChars none text = text ↔ ¬ HasParameter text := by
  obtain ⟨same, none⟩ | ⟨lt, param⟩ := expressChars_eq_or_lt text
  · exact iff_of_true same none
  · refine iff_of_false (fun same => ?_) (not_not_intro param)
    rw [same] at lt
    exact Nat.lt_irrefl _ lt

private theorem expressChars_braced {pieces : List Piece}
    (plain : ∀ piece ∈ pieces, piece.IsPlain) :
    expressChars none (pieces.flatMap Piece.braced) = pieces.flatMap Piece.marked := by
  induction pieces with
  | nil => rfl
  | cons piece rest ih =>
    obtain ⟨here, later⟩ := List.forall_mem_cons.mp plain
    rw [List.flatMap_cons, List.flatMap_cons]
    cases piece with
    | text chars =>
      obtain ⟨opening, -⟩ := here
      rw [Piece.braced, Piece.marked, expressChars_text _ opening, ih later]
    | parameter name =>
      obtain ⟨hname, -, closing⟩ := here
      have braces : Piece.braced (.parameter name) ++ rest.flatMap Piece.braced =
          '{' :: (name ++ '}' :: rest.flatMap Piece.braced) := by
        simp [Piece.braced]
      rw [braces, expressChars_parameter _ hname closing, ih later]
      rfl

theorem no_brace_mem_marked {pieces : List Piece} (plain : ∀ piece ∈ pieces, piece.IsPlain) :
    '{' ∉ pieces.flatMap Piece.marked ∧ '}' ∉ pieces.flatMap Piece.marked := by
  have each : ∀ piece ∈ pieces, '{' ∉ piece.marked ∧ '}' ∉ piece.marked := by
    intro piece hm
    have here := plain piece hm
    cases piece with
    | text chars => exact here
    | parameter name =>
      obtain ⟨-, opening, closing⟩ := here
      exact ⟨List.not_mem_cons_of_ne_of_not_mem (by decide) opening,
        List.not_mem_cons_of_ne_of_not_mem (by decide) closing⟩
  simp only [List.mem_flatMap, not_exists, not_and]
  exact ⟨fun piece hm => (each piece hm).1, fun piece hm => (each piece hm).2⟩

theorem toList_expressPath_templateOf {pieces : List Piece}
    (plain : ∀ piece ∈ pieces, piece.IsPlain) :
    (expressPath (templateOf pieces)).toList = pieces.flatMap Piece.marked := by
  rw [expressPath, templateOf, String.toList_ofList, String.toList_ofList,
    expressChars_braced plain]

private theorem expressPath_eq_self_iff (text : String) :
    expressPath text = text ↔ ¬ HasParameter text.toList := by
  rw [← expressChars_eq_self_iff, ← String.toList_inj, expressPath, String.toList_ofList]

/--
A template is rewritten piece by piece, whatever the names of its parameters are made of. The result
has no braces, so it stays as it is when it is rewritten again. Any text at all stays exactly if it
has no braces around something, as when no character has an opening brace in front of it and a
closing one behind it.
-/
theorem expressPath_rewrites_parameters :
    (∀ pieces : List Piece, (∀ piece ∈ pieces, piece.IsPlain) →
      expressPath (templateOf pieces) = markedPath pieces ∧
      expressPath (expressPath (templateOf pieces)) = expressPath (templateOf pieces) ∧
      '{' ∉ (expressPath (templateOf pieces)).toList ∧
      '}' ∉ (expressPath (templateOf pieces)).toList) ∧
    (∀ text : String, expressPath text = text ↔ ¬ HasParameter text.toList) ∧
    ∀ text : String, (∀ c, ¬ ['{', c, '}'].Sublist text.toList) → expressPath text = text := by
  refine ⟨fun pieces plain => ?_, expressPath_eq_self_iff, fun text apart => ?_⟩
  · have result := toList_expressPath_templateOf plain
    have noBraces := no_brace_mem_marked plain
    rw [← result] at noBraces
    refine ⟨String.toList_inj.mp ?_, ?_, noBraces⟩
    · rw [result, markedPath, String.toList_ofList]
    · exact (expressPath_eq_self_iff _).mpr (not_hasParameter_of_not_mem noBraces.1)
  · refine (expressPath_eq_self_iff text).mpr ?_
    rintro ⟨before, name, after, split, hname, -⟩
    obtain ⟨c, more, rfl⟩ := List.exists_cons_of_ne_nil hname
    refine apart c ?_
    rw [split]
    have inner : ['}'].Sublist (more ++ '}' :: after) :=
      List.singleton_sublist.mpr (List.mem_append_right more List.mem_cons_self)
    exact ((inner.cons_cons c).cons_cons '{').trans (List.sublist_append_right before _)

/-- Parameters at both ends and behind one another, with names of all kinds of characters. -/
def filterPieces : List Piece :=
  [.parameter "a/b".toList, .parameter "c:d e".toList, .text [], .text "-:x".toList,
    .text "s".toList, .parameter "größe".toList]

theorem expressPath_rewrites_parameters_filters :
    (∀ piece ∈ filterPieces, piece.IsPlain) ∧
    templateOf filterPieces = "{a/b}{c:d e}-:xs{größe}" ∧
    expressPath (templateOf filterPieces) = markedPath filterPieces ∧
    markedPath filterPieces = ":a/b:c:d e-:xs:größe" ∧
    expressPath (expressPath (templateOf filterPieces)) = expressPath (templateOf filterPieces) ∧
    (∀ c, ¬ ['{', c, '}'].Sublist "\x7d/\x7b\x7d/\x7bid".toList) ∧
    expressPath "\x7d/\x7b\x7d/\x7bid" = "\x7d/\x7b\x7d/\x7bid" := by
  have plain : ∀ piece ∈ filterPieces, piece.IsPlain := by decide
  have apart : ∀ c, ¬ ['{', c, '}'].Sublist "\x7d/\x7b\x7d/\x7bid".toList := by
    have among : ("\x7d/\x7b\x7d/\x7bid".toList.all fun c =>
        decide (¬ ['{', c, '}'].Sublist "\x7d/\x7b\x7d/\x7bid".toList)) = true := by decide
    intro c inside
    have here := List.all_eq_true.mp among c (inside.subset (by simp))
    exact of_decide_eq_true here inside
  obtain ⟨pieces, -, unchanged⟩ := expressPath_rewrites_parameters
  obtain ⟨rewritten, again, -⟩ := pieces filterPieces plain
  exact ⟨plain, by decide, rewritten, by decide, again, apart, unchanged _ apart⟩

end TypedRoutes.Route
