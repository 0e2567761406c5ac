import Mathlib.Data.List.Chain
import Mathlib.Data.List.TakeWhile
import TypedRoutes.Proofs.Route.ExpressPath
import TypedRoutes.Proofs.Text.Literal
import TypedRoutes.Route.Diagnostic

/-!
What Express reads from a path. It gets the pieces of a template exactly if no plain text has a word
character behind a colon, or begins with one directly behind a parameter. Every other template
shares its path with a template of this kind.
-/

set_option autoImplicit false
set_option relaxedAutoImplicit false

namespace TypedRoutes.Route

open Text (Stops stops_cons stops_dropWhile stops_iff_takeWhile_eq_nil takeWhile_word
  dropWhile_word word_cancel)

namespace Piece

/-- A character in front of pieces; plain text that comes first takes it in. -/
def addChar (c : Char) : List Piece → List Piece
  | .text chars :: rest => .text (c :: chars) :: rest
  | pieces => .text [c] :: pieces

def isText : Piece → Bool
  | .text _ => true
  | .parameter _ => false

/-- Plain text without braces, but not without characters, or a parameter that is named by a
word. -/
def IsWritten : Piece → Prop
  | .text chars => chars ≠ [] ∧ '{' ∉ chars ∧ '}' ∉ chars
  | .parameter name => name ≠ [] ∧ name.all isWordChar

instance : DecidablePred IsWritten
  | .text chars => inferInstanceAs (Decidable (chars ≠ [] ∧ '{' ∉ chars ∧ '}' ∉ chars))
  | .parameter name => inferInstanceAs (Decidable (name ≠ [] ∧ name.all isWordChar))

/-- Plain text does not have a word character directly behind a colon. -/
def HidesNoParameter : Piece → Prop
  | .text chars => chars.IsChain fun c next => ¬ (c = ':' ∧ isWordChar next)
  | .parameter _ => True

instance : DecidablePred HidesNoParameter
  | .text chars => inferInstanceAs (Decidable (chars.IsChain _))
  | .parameter _ => inferInstanceAs (Decidable True)

/-- Whether a piece looks like more of the name in front of it. -/
def continuesName : Piece → Piece → Bool
  | .parameter _, .text (c :: _) => isWordChar c
  | _, _ => false

private theorem isPlain_of_isWritten {piece : Piece} (h : piece.IsWritten) : piece.IsPlain := by
  cases piece with
  | text chars => exact h.2
  | parameter name =>
    have noBrace {c : Char} (hc : isWordChar c = false) : c ∉ name := fun hm =>
      absurd (List.all_eq_true.mp h.2 c hm) (by simp [hc])
    exact ⟨h.1, noBrace (by decide), noBrace (by decide)⟩

private theorem marked_addChar (c : Char) (pieces : List Piece) :
    (addChar c pieces).flatMap marked = c :: pieces.flatMap marked := by
  cases pieces with
  | nil => rfl
  | cons piece rest => cases piece <;> rfl

private theorem addChar_of_not_text {pieces : List Piece} (c : Char)
    (h : ∀ piece ∈ pieces.head?, ¬ piece.isText) : addChar c pieces = .text [c] :: pieces := by
  cases pieces with
  | nil => rfl
  | cons piece rest =>
    cases piece with
    | text chars => exact absurd rfl (h _ rfl)
    | parameter name => rfl

end Piece

/-- The pieces that Express reads: a colon and the longest run of word characters behind it, if
there is any, are a parameter, and everything else is plain text. -/
def readExpress : List Char → List Piece
  | [] => []
  | c :: rest =>
    if c = ':' ∧ rest.takeWhile isWordChar ≠ [] then
      .parameter (rest.takeWhile isWordChar) :: readExpress (rest.dropWhile isWordChar)
    else Piece.addChar c (readExpress rest)
termination_by text => text.length
decreasing_by
  · exact Nat.lt_succ_of_le (List.length_dropWhile_le isWordChar rest)
  · exact Nat.lt_succ_self _

/-- Pieces as they are written in a template, each text as long as it can be. -/
structure IsTemplate (pieces : List Piece) : Prop where
  written : ∀ piece ∈ pieces, piece.IsWritten
  apart : pieces.IsChain fun first second => ¬ (first.isText ∧ second.isText)

/-- No plain text looks like a parameter, or like more of the name in front of it. -/
structure IsUnambiguous (pieces : List Piece) : Prop where
  colons : ∀ piece ∈ pieces, piece.HidesNoParameter
  names : pieces.IsChain fun first second => ¬ first.continuesName second

instance (pieces : List Piece) : Decidable (IsTemplate pieces) :=
  decidable_of_iff ((∀ piece ∈ pieces, piece.IsWritten) ∧
      pieces.IsChain fun first second => ¬ (first.isText ∧ second.isText))
    ⟨fun h => ⟨h.1, h.2⟩, fun h => ⟨h.written, h.apart⟩⟩

instance (pieces : List Piece) : Decidable (IsUnambiguous pieces) :=
  decidable_of_iff ((∀ piece ∈ pieces, piece.HidesNoParameter) ∧
      pieces.IsChain fun first second => ¬ first.continuesName second)
    ⟨fun h => ⟨h.1, h.2⟩, fun h => ⟨h.colons, h.names⟩⟩

private theorem readExpress_parameter {name rest : List Char} (hname : name ≠ [])
    (word : name.all isWordChar = true) (stops : Stops isWordChar rest) :
    readExpress (':' :: (name ++ rest)) = .parameter name :: readExpress rest := by
  rw [readExpress, takeWhile_word word stops, dropWhile_word word stops, if_pos ⟨rfl, hname⟩]

private theorem readExpress_char {c : Char} {rest : List Char}
    (h : c = ':' → Stops isWordChar rest) :
    readExpress (c :: rest) = Piece.addChar c (readExpress rest) := by
  rw [readExpress, if_neg]
  rintro ⟨colon, run⟩
  exact run (stops_iff_takeWhile_eq_nil.mp (h colon))

private theorem readExpress_text {chars rest : List Char} (hchars : chars ≠ [])
    (colons : Piece.HidesNoParameter (.text chars)) (stops : Stops isWordChar rest)
    (other : ∀ piece ∈ (readExpress rest).head?, ¬ piece.isText) :
    readExpress (chars ++ rest) = .text chars :: readExpress rest := by
  induction chars with
  | nil => exact absurd rfl hchars
  | cons c chars ih =>
    cases chars with
    | nil =>
      rw [List.singleton_append, readExpress_char fun _ => stops]
      exact Piece.addChar_of_not_text c other
    | cons next more =>
      obtain ⟨here, later⟩ := List.isChain_cons_cons.mp colons
      have stopsHere : c = ':' → Stops isWordChar (next :: more ++ rest) := by
        intro colon
        exact stops_cons _ (Bool.eq_false_iff.mpr fun word => here ⟨colon, word⟩)
      rw [List.cons_append, readExpress_char stopsHere, ih (List.cons_ne_nil next more) later]
      rfl

private theorem stops_marked {pieces : List Piece} (written : ∀ piece ∈ pieces, piece.IsWritten)
    (h : ∀ chars, .text chars ∈ pieces.head? → Stops isWordChar chars) :
    Stops isWordChar (pieces.flatMap Piece.marked) := by
  cases pieces with
  | nil => simp [Stops]
  | cons piece rest =>
    cases piece with
    | parameter name => exact stops_cons _ (by decide)
    | text chars =>
      obtain ⟨hchars, -⟩ := written _ List.mem_cons_self
      obtain ⟨c, more, rfl⟩ := List.exists_cons_of_ne_nil hchars
      exact stops_cons _ (h _ rfl c rfl)

private theorem readExpress_marked {pieces : List Piece} (template : IsTemplate pieces)
    (clear : IsUnambiguous pieces) : readExpress (pieces.flatMap Piece.marked) = pieces := by
  induction pieces with
  | nil => rw [List.flatMap_nil, readExpress]
  | cons piece rest ih =>
    obtain ⟨⟨written, allWritten⟩, apart, allApart⟩ :=
      And.intro (List.forall_mem_cons.mp template.written) (List.isChain_cons.mp template.apart)
    obtain ⟨⟨colons, allColons⟩, names, allNames⟩ :=
      And.intro (List.forall_mem_cons.mp clear.colons) (List.isChain_cons.mp clear.names)
    have later := ih ⟨allWritten, allApart⟩ ⟨allColons, allNames⟩
    rw [List.flatMap_cons]
    cases piece with
    | parameter name =>
      have stops : Stops isWordChar (rest.flatMap Piece.marked) := by
        refine stops_marked allWritten fun chars first c hc => ?_
        obtain ⟨more, rfl⟩ := List.head?_eq_some_iff.mp hc
        exact Bool.eq_false_iff.mpr (names _ first)
      have step := readExpress_parameter written.1 written.2 stops
      rwa [later] at step
    | text chars =>
      have other : ∀ piece ∈ rest.head?, ¬ piece.isText := fun piece hm text =>
        apart piece hm ⟨rfl, text⟩
      have stops : Stops isWordChar (rest.flatMap Piece.marked) :=
        stops_marked allWritten fun _ first => absurd rfl (other _ first)
      have step := readExpress_text written.1 colons stops (by rwa [later])
      rwa [later] at step

private theorem marked_readExpress (text : List Char) :
    (readExpress text).flatMap Piece.marked = text := by
  fun_induction readExpress text with
  | case1 => rfl
  | case2 c rest h ih =>
    rw [List.flatMap_cons, ih, Piece.marked, List.cons_append, List.takeWhile_append_dropWhile, h.1]
  | case3 c rest h ih => rw [Piece.marked_addChar, ih]

private theorem head?_of_readExpress {text chars : List Char} {c : Char}
    (h : .text (c :: chars) ∈ (readExpress text).head?) : text.head? = some c := by
  obtain ⟨rest, read⟩ := List.head?_eq_some_iff.mp h
  have whole := marked_readExpress text
  rw [read] at whole
  rw [← whole]
  rfl

private theorem isTemplate_addChar {c : Char} {pieces : List Piece}
    (opening : c ≠ '{') (closing : c ≠ '}')
    (template : IsTemplate pieces) : IsTemplate (Piece.addChar c pieces) := by
  obtain ⟨written, apart⟩ := template
  cases pieces with
  | nil =>
    refine ⟨List.forall_mem_singleton.mpr ?_, List.isChain_singleton _⟩
    exact ⟨List.cons_ne_nil c [], by simpa using opening.symm, by simpa using closing.symm⟩
  | cons piece rest =>
    obtain ⟨here, later⟩ := List.forall_mem_cons.mp written
    cases piece with
    | text chars =>
      have taken : (Piece.text (c :: chars)).IsWritten :=
        ⟨List.cons_ne_nil c chars, List.not_mem_cons_of_ne_of_not_mem opening.symm here.2.1,
          List.not_mem_cons_of_ne_of_not_mem closing.symm here.2.2⟩
      -- the first piece is plain text as before, so it stands apart from the same pieces
      exact ⟨List.forall_mem_cons.mpr ⟨taken, later⟩,
        List.isChain_cons.mpr (List.isChain_cons.mp apart)⟩
    | parameter name =>
      have alone : (Piece.text [c]).IsWritten :=
        ⟨List.cons_ne_nil c [], by simpa using opening.symm, by simpa using closing.symm⟩
      refine ⟨List.forall_mem_cons.mpr ⟨alone, written⟩, List.isChain_cons_cons.mpr ⟨?_, apart⟩⟩
      simp [Piece.isText]

private theorem isTemplate_readExpress {text : List Char}
    (opening : '{' ∉ text) (closing : '}' ∉ text) :
    IsTemplate (readExpress text) := by
  fun_induction readExpress text with
  | case1 => exact ⟨by simp, List.isChain_nil⟩
  | case2 c rest h ih =>
    have inRest {d : Char} (hd : d ∈ rest.dropWhile isWordChar) : d ∈ c :: rest :=
      List.mem_cons_of_mem c ((List.dropWhile_sublist isWordChar).subset hd)
    obtain ⟨written, apart⟩ := ih (opening ∘ inRest) (closing ∘ inRest)
    have named : (Piece.parameter (rest.takeWhile isWordChar)).IsWritten :=
      ⟨h.2, List.all_eq_true.mpr fun _ => List.mem_takeWhile_imp⟩
    refine ⟨List.forall_mem_cons.mpr ⟨named, written⟩, List.isChain_cons.mpr ⟨?_, apart⟩⟩
    simp [Piece.isText]
  | case3 c rest h ih =>
    obtain ⟨openingHere, openingLater⟩ := List.ne_and_not_mem_of_not_mem_cons opening
    obtain ⟨closingHere, closingLater⟩ := List.ne_and_not_mem_of_not_mem_cons closing
    exact isTemplate_addChar openingHere.symm closingHere.symm (ih openingLater closingLater)

private theorem isUnambiguous_addChar {c : Char} {pieces : List Piece}
    (clear : IsUnambiguous pieces)
    (colon : ∀ next chars, .text (next :: chars) ∈ pieces.head? → ¬ (c = ':' ∧ isWordChar next)) :
    IsUnambiguous (Piece.addChar c pieces) := by
  obtain ⟨colons, names⟩ := clear
  cases pieces with
  | nil =>
    exact ⟨List.forall_mem_singleton.mpr (List.isChain_singleton c), List.isChain_singleton _⟩
  | cons piece rest =>
    obtain ⟨here, later⟩ := List.forall_mem_cons.mp colons
    cases piece with
    | text chars =>
      have taken : (Piece.text (c :: chars)).HidesNoParameter := by
        refine List.isChain_cons.mpr ⟨fun next hnext => ?_, here⟩
        obtain ⟨more, rfl⟩ := List.head?_eq_some_iff.mp hnext
        exact colon next more rfl
      refine ⟨List.forall_mem_cons.mpr ⟨taken, later⟩, List.isChain_cons.mpr ⟨?_, ?_⟩⟩
      · simp [Piece.continuesName]
      · exact (List.isChain_cons.mp names).2
    | parameter name =>
      have alone : (Piece.text [c]).HidesNoParameter := List.isChain_singleton c
      refine ⟨List.forall_mem_cons.mpr ⟨alone, colons⟩, List.isChain_cons_cons.mpr ⟨?_, names⟩⟩
      simp [Piece.continuesName]

private theorem isUnambiguous_readExpress (text : List Char) :
    IsUnambiguous (readExpress text) := by
  fun_induction readExpress text with
  | case1 => exact ⟨by simp, List.isChain_nil⟩
  | case2 c rest h ih =>
    obtain ⟨colons, names⟩ := ih
    refine ⟨List.forall_mem_cons.mpr ⟨trivial, colons⟩, List.isChain_cons.mpr ⟨?_, names⟩⟩
    intro piece first
    cases piece with
    | parameter name => simp [Piece.continuesName]
    | text chars =>
      cases chars with
      | nil => simp [Piece.continuesName]
      | cons d chars =>
        have stops := stops_dropWhile isWordChar rest d (head?_of_readExpress first)
        exact Bool.eq_false_iff.mp stops
  | case3 c rest h ih =>
    refine isUnambiguous_addChar ih fun next chars first => ?_
    rintro ⟨colon, word⟩
    obtain ⟨more, rfl⟩ := List.head?_eq_some_iff.mp (head?_of_readExpress first)
    exact h ⟨colon, by simp [word]⟩

section Distinct

private theorem all_bne {c : Char} {chars : List Char} (h : c ∉ chars) :
    chars.all (fun d => d != c) = true :=
  List.all_eq_true.mpr fun _ hm => bne_iff_ne.mpr fun same => h (same ▸ hm)

private theorem stops_braced {pieces : List Piece}
    (other : ∀ piece ∈ pieces.head?, ¬ piece.isText) :
    Stops (fun d => d != '{') (pieces.flatMap Piece.braced) := by
  cases pieces with
  | nil => simp [Stops]
  | cons piece rest =>
    cases piece with
    | text chars => exact absurd rfl (other _ rfl)
    | parameter name => exact stops_cons _ rfl

private theorem isTemplate_tail {piece : Piece} {rest : List Piece}
    (template : IsTemplate (piece :: rest)) : IsTemplate rest :=
  ⟨(List.forall_mem_cons.mp template.written).2, (List.isChain_cons.mp template.apart).2⟩

private theorem not_isText_head? {chars : List Char} {rest : List Piece}
    (template : IsTemplate (.text chars :: rest)) : ∀ piece ∈ rest.head?, ¬ piece.isText :=
  fun piece hm text => (List.isChain_cons.mp template.apart).1 piece hm ⟨rfl, text⟩

private theorem braced_ne_nil {piece : Piece} (written : piece.IsWritten) : piece.braced ≠ [] := by
  cases piece with
  | text chars => exact written.1
  | parameter name => exact List.cons_ne_nil _ _

private theorem text_ne_parameter {chars name rest more : List Char}
    (written : (Piece.text chars).IsWritten) :
    chars ++ rest ≠ (Piece.parameter name).braced ++ more := by
  obtain ⟨c, chars, rfl⟩ := List.exists_cons_of_ne_nil written.1
  intro same
  exact written.2.1 (List.mem_cons.mpr (.inl (List.cons_eq_cons.mp same).1.symm))

/-- The pieces of a template are the only ones of this kind that it has. -/
private theorem templateOf_inj {pieces others : List Piece} (template : IsTemplate pieces)
    (other : IsTemplate others) (same : templateOf pieces = templateOf others) :
    pieces = others := by
  replace same := String.ofList_injective same
  induction pieces generalizing others with
  | nil =>
    cases others with
    | nil => rfl
    | cons second _ =>
      obtain ⟨empty, -⟩ := List.append_eq_nil_iff.mp same.symm
      exact absurd empty (braced_ne_nil (other.written _ List.mem_cons_self))
  | cons first rest ih =>
    have written := template.written _ List.mem_cons_self
    cases others with
    | nil =>
      obtain ⟨empty, -⟩ := List.append_eq_nil_iff.mp same
      exact absurd empty (braced_ne_nil written)
    | cons second more =>
      have writtenOther := other.written _ List.mem_cons_self
      have later := @ih more (isTemplate_tail template) (isTemplate_tail other)
      rw [List.flatMap_cons, List.flatMap_cons] at same
      cases first with
      | text chars =>
        cases second with
        | text others =>
          obtain ⟨rfl, behind⟩ := word_cancel (all_bne written.2.1) (all_bne writtenOther.2.1)
            (stops_braced (not_isText_head? template)) (stops_braced (not_isText_head? other)) same
          rw [later behind]
        | parameter name => exact absurd same (text_ne_parameter written)
      | parameter name =>
        cases second with
        | text others => exact absurd same.symm (text_ne_parameter writtenOther)
        | parameter otherName =>
          have closing {name : List Char} (h : (Piece.parameter name).IsWritten) : '}' ∉ name :=
            (Piece.isPlain_of_isWritten h).2.2
          simp only [Piece.braced, List.cons_append, List.append_assoc, List.nil_append,
            List.cons_inj_right] at same
          obtain ⟨rfl, behind⟩ := word_cancel (all_bne (closing written))
            (all_bne (closing writtenOther)) (stops_cons _ rfl) (stops_cons _ rfl) same
          rw [later (List.cons_inj_right _ |>.mp behind)]

end Distinct

/--
From the path of a template Express reads the pieces of the template exactly if they are
unambiguous. So records whose templates have different pieces of this kind have different paths. A
template of another kind has its path in common with a different template, one of this kind.
Different pieces are pieces of different templates.
-/
theorem express_reads_template_iff :
    (∀ pieces : List Piece, IsTemplate pieces →
      (readExpress (expressPath (templateOf pieces)).toList = pieces ↔ IsUnambiguous pieces)) ∧
    (∀ first second : Record, ∀ pieces others : List Piece,
      first.template = templateOf pieces → second.template = templateOf others →
      IsTemplate pieces → IsTemplate others → IsUnambiguous pieces → IsUnambiguous others →
      pieces ≠ others → first.expressPath ≠ second.expressPath) ∧
    ∀ pieces : List Piece, IsTemplate pieces → ¬ IsUnambiguous pieces →
      ∃ others, others ≠ pieces ∧ templateOf others ≠ templateOf pieces ∧ IsTemplate others ∧
        IsUnambiguous others ∧
        expressPath (templateOf others) = expressPath (templateOf pieces) := by
  have plain {pieces : List Piece} (template : IsTemplate pieces) :
      ∀ piece ∈ pieces, piece.IsPlain := fun piece hm =>
    Piece.isPlain_of_isWritten (template.written piece hm)
  have path {pieces : List Piece} (template : IsTemplate pieces) :
      (expressPath (templateOf pieces)).toList = pieces.flatMap Piece.marked :=
    toList_expressPath_templateOf (plain template)
  have readBack {pieces : List Piece} (template : IsTemplate pieces)
      (clear : IsUnambiguous pieces) :
      readExpress (expressPath (templateOf pieces)).toList = pieces := by
    rw [path template]
    exact readExpress_marked template clear
  refine ⟨fun pieces template => ⟨fun read => ?_, readBack template⟩, ?apart, ?shared⟩
  · exact read ▸ isUnambiguous_readExpress _
  case apart =>
    intro first second pieces others hfirst hsecond template other clear clearOther differ same
    rw [Record.expressPath, Record.expressPath, hfirst, hsecond] at same
    apply differ
    rw [← readBack template clear, same, readBack other clearOther]
  case shared =>
    intro pieces template ambiguous
    obtain ⟨opening, closing⟩ := no_brace_mem_marked (plain template)
    have other := isTemplate_readExpress opening closing
    have clear := isUnambiguous_readExpress (pieces.flatMap Piece.marked)
    have differ : readExpress (pieces.flatMap Piece.marked) ≠ pieces := fun same =>
      ambiguous (same ▸ clear)
    refine ⟨readExpress (pieces.flatMap Piece.marked), differ,
      mt (templateOf_inj other template) differ, other, clear, ?_⟩
    · rw [← String.toList_inj, path other, path template, marked_readExpress]

/-- Parameters directly behind one another, and plain text with colons and a dot around them. -/
def releasePieces : List Piece :=
  [.text "/releases/".toList, .parameter "version".toList, .parameter "Build_2".toList,
    .text "::/.".toList, .parameter "format".toList, .text ":".toList]

def petsPieces : List Piece := [.text "/pets/".toList, .parameter "pets".toList]

def pluralPieces : List Piece :=
  [.text "/pets/".toList, .parameter "pet".toList, .text "s".toList]

def colonPieces : List Piece := [.text "/pets/:pets".toList]

theorem express_reads_template_releases :
    IsTemplate releasePieces ∧ IsUnambiguous releasePieces ∧
    expressPath (templateOf releasePieces) = "/releases/:version:Build_2::/.:format:" ∧
    readExpress (expressPath (templateOf releasePieces)).toList = releasePieces ∧
    (⟨"getRelease", .get, templateOf releasePieces⟩ : Record).expressPath ≠
      (⟨"listPets", .get, templateOf petsPieces⟩ : Record).expressPath ∧
    IsTemplate pluralPieces ∧ ¬ IsUnambiguous pluralPieces ∧
    ∃ others, others ≠ pluralPieces ∧ templateOf others ≠ templateOf pluralPieces ∧
      IsTemplate others ∧ IsUnambiguous others ∧
      expressPath (templateOf others) = expressPath (templateOf pluralPieces) := by
  have template : IsTemplate releasePieces := by decide
  have clear : IsUnambiguous releasePieces := by decide
  have plural : IsTemplate pluralPieces := by decide
  have ambiguous : ¬ IsUnambiguous pluralPieces := by decide
  obtain ⟨reads, apart, shared⟩ := express_reads_template_iff
  exact ⟨template, clear, by decide, (reads releasePieces template).mpr clear,
    apart _ _ releasePieces petsPieces rfl rfl template (by decide) clear (by decide)
      (by decide),
    plural, ambiguous, shared pluralPieces plural ambiguous⟩

/-- A letter behind a parameter is read as a part of its name, and a word behind a colon as a
parameter; so three different templates have one path. -/
theorem express_mistakes_text :
    IsTemplate petsPieces ∧ IsTemplate pluralPieces ∧ IsTemplate colonPieces ∧
    pluralPieces ≠ petsPieces ∧ colonPieces ≠ petsPieces ∧
    templateOf petsPieces = "/pets/{pets}" ∧ templateOf pluralPieces = "/pets/{pet}s" ∧
    templateOf colonPieces = "/pets/:pets" ∧
    expressPath (templateOf petsPieces) = "/pets/:pets" ∧
    expressPath (templateOf pluralPieces) = "/pets/:pets" ∧
    expressPath (templateOf colonPieces) = "/pets/:pets" ∧
    readExpress "/pets/:pets".toList = petsPieces := by
  have read : readExpress (petsPieces.flatMap Piece.marked) = petsPieces :=
    readExpress_marked (by decide) (by decide)
  exact ⟨by decide, by decide, by decide, by decide, by decide, by decide,
    by decide, by decide, by decide, by decide, by decide,
    read⟩

end TypedRoutes.Route
