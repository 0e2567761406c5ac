import TypedRoutes.Proofs.Declaration.NormalForm

/-!
Dotted names against paths of segments. The segments of a name are the only texts without dots that
give the name when they are joined by dots; a dot at an end of the name, or next to another dot,
stands beside an empty segment. So names and paths of such segments lead to each other, and the text
of a reference is its name with the texts of its arguments behind it.
-/

set_option autoImplicit false
set_option relaxedAutoImplicit false

namespace TypedRoutes.Declaration

private theorem splitAt_eq_splitOn (separator : Char) (chars : List Char) :
    splitAt separator chars = chars.splitOn separator := by
  induction chars with
  | nil => rfl
  | cons c rest ih =>
    obtain ⟨part, more, parts⟩ :=
      List.exists_cons_of_ne_nil (List.splitOn_ne_nil separator rest)
    rw [splitAt, List.splitOn_cons_eq_if_modifyHead, ih, parts]
    by_cases cut : c = separator
    · rw [if_pos cut, if_pos (beq_iff_eq.mpr cut)]
    · rw [if_neg cut, if_neg (mt beq_iff_eq.mp cut), List.modifyHead_cons]

private theorem splitAt_ne_nil (separator : Char) (chars : List Char) :
    splitAt separator chars ≠ [] := by
  rw [splitAt_eq_splitOn]
  exact List.splitOn_ne_nil separator chars

private theorem not_mem_of_mem_splitAt {separator : Char} {chars part : List Char}
    (hpart : part ∈ splitAt separator chars) : separator ∉ part := by
  induction chars generalizing part with
  | nil =>
    rw [splitAt, List.mem_singleton] at hpart
    rw [hpart]
    exact List.not_mem_nil
  | cons c rest ih =>
    rw [splitAt] at hpart
    by_cases cut : c = separator
    · rw [if_pos cut, List.mem_cons] at hpart
      obtain rfl | later := hpart
      · exact List.not_mem_nil
      · exact ih later
    · obtain ⟨first, more, parts⟩ := List.exists_cons_of_ne_nil (splitAt_ne_nil separator rest)
      simp only [if_neg cut, parts, List.mem_cons] at hpart ih
      obtain rfl | later := hpart
      · -- the character goes to the first part of the rest
        rw [List.mem_cons, not_or]
        exact ⟨Ne.symm cut, ih (.inl rfl)⟩
      · exact ih (.inr later)

/-- The parts of a text are the only parts without the separator that it is joined from. -/
private theorem splitAt_eq_iff {separator : Char} {chars : List Char} {parts : List (List Char)} :
    splitAt separator chars = parts ↔
      parts ≠ [] ∧ (∀ part ∈ parts, separator ∉ part) ∧
        List.intercalate [separator] parts = chars := by
  constructor
  · rintro rfl
    refine ⟨splitAt_ne_nil separator chars, fun part hpart => not_mem_of_mem_splitAt hpart, ?_⟩
    rw [splitAt_eq_splitOn]
    exact List.intercalate_splitOn separator
  · rintro ⟨nonempty, free, rfl⟩
    rw [splitAt_eq_splitOn]
    exact List.splitOn_intercalate separator free nonempty

private theorem segments_eq_iff {name : String} {path : List String} :
    segments name = path ↔
      path ≠ [] ∧ (∀ segment ∈ path, '.' ∉ segment.toList) ∧ ".".intercalate path = name := by
  have chars : segments name = path ↔ splitAt '.' name.toList = path.map String.toList := by
    constructor
    · rintro rfl
      simp [segments]
    · intro parts
      simp [segments, parts]
  have joined : List.intercalate ['.'] (path.map String.toList) = name.toList ↔
      ".".intercalate path = name := by
    rw [← String.toList_inj, String.toList_intercalate]
    rfl
  rw [chars, splitAt_eq_iff, joined, List.forall_mem_map, ne_eq, List.map_eq_nil_iff]

private theorem intercalate_segments (name : String) : ".".intercalate (segments name) = name :=
  (segments_eq_iff.mp rfl).2.2

namespace TypeExpr

private theorem joinedChars_eq_intercalate (separator : List Char) (types : List TypeExpr) :
    joinedChars separator types = List.intercalate separator (types.map chars) := by
  induction types with
  | nil => rw [joinedChars, List.map_nil, List.intercalate_nil]
  | cons type rest ih =>
    by_cases last : rest = []
    · rw [last, joinedChars, List.map_singleton, List.intercalate_singleton]
    · have more : rest.map chars ≠ [] := mt List.map_eq_nil_iff.mp last
      rw [joinedChars_cons separator type last, ih, List.map_cons,
        List.intercalate_cons_of_ne_nil more, List.append_assoc]

private theorem print_reference (path : List String) (args : List TypeExpr) :
    (reference path args).print = ".".intercalate path ++
      if args.isEmpty then "" else "<" ++ ", ".intercalate (args.map print) ++ ">" := by
  have texts : (args.map print).map String.toList = args.map chars := by
    simp [print, Function.comp_def]
  rw [print, ← String.toList_inj, String.toList_ofList, String.toList_append,
    String.toList_intercalate]
  cases args with
  | nil =>
    rw [chars, List.isEmpty_nil, if_pos rfl, String.toList_empty, List.append_nil]
    rfl
  | cons arg args =>
    rw [chars, List.isEmpty_cons, if_neg Bool.false_ne_true, joinedChars_eq_intercalate, ← texts,
      String.toList_append, String.toList_append, String.toList_intercalate]
    rfl

/--
The text of a dotted name is the name, wherever its dots stand. Segments joined by dots are read as
the reference with these segments exactly if there are some and none of them has a dot in it. And
the text of a name with arguments is the text of the name, with the texts of the arguments behind it
between angle brackets if there are any.
-/
theorem dotted_names_round_trip :
    (∀ name : String, (qualified name).print = name) ∧
    (∀ path : List String, qualified (".".intercalate path) = named path ↔
      path ≠ [] ∧ ∀ segment ∈ path, '.' ∉ segment.toList) ∧
    ∀ (name : String) (args : List TypeExpr),
      (generic name args).print = (qualified name).print ++
        if args.isEmpty then "" else "<" ++ ", ".intercalate (args.map print) ++ ">" := by
  have text (name : String) : (qualified name).print = name := by
    rw [qualified, print_reference, intercalate_segments, List.isEmpty_nil, if_pos rfl,
      String.append_empty]
  refine ⟨text, fun path => ?_, fun name args => ?_⟩
  · have same : qualified (".".intercalate path) = named path ↔
        segments (".".intercalate path) = path := by
      rw [qualified, named, reference.injEq, and_iff_left rfl]
    rw [same, segments_eq_iff, and_iff_left rfl]
  · rw [text, generic, print_reference, intercalate_segments]

/-- Dots at both ends of a name and next to each other, and a path without segments. -/
theorem dotted_names_round_trip_edgeDots :
    (qualified "..Pet.").print = "..Pet." ∧
    (["", "", "Pet", ""] ≠ [] ∧ ∀ segment ∈ ["", "", "Pet", ""], '.' ∉ segment.toList) ∧
    qualified (".".intercalate ["", "", "Pet", ""]) = named ["", "", "Pet", ""] ∧
    qualified (".".intercalate []) ≠ named [] ∧
    (generic "..Pet." [named ["Tag"], .array (.keyword .null)]).print = "..Pet.<Tag, null[]>" := by
  obtain ⟨text, read, applied⟩ := dotted_names_round_trip
  have free : ["", "", "Pet", ""] ≠ [] ∧ ∀ segment ∈ ["", "", "Pet", ""], '.' ∉ segment.toList := by
    decide
  refine ⟨text _, free, (read _).mpr free, fun same => ((read []).mp same).1 rfl, ?_⟩
  rw [applied, text]
  decide

end TypeExpr

end TypedRoutes.Declaration
