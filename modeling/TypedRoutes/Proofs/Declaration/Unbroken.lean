import TypedRoutes.Proofs.Declaration.Unambiguous

/-!
What can break the line of a type. The segments of references and carried text stand in the text of
a type as they are; everything else in it is a fixed sign, a bare name or a string literal, and none
of these has a control character.
-/

set_option autoImplicit false
set_option relaxedAutoImplicit false

namespace TypedRoutes.Declaration

open Text (isControl)

def TypeExpr.bareTexts : TypeExpr → List String
  | .reference path _ => path
  | .raw text => [text]
  | _ => []

private theorem not_mem_of_isControl {signs : List Char} {c : Char} (control : isControl c = true)
    (visible : signs.all (fun sign => !isControl sign) = true) : c ∉ signs := by
  intro hc
  rw [Text.isControl_eq_false_of_mem visible hc] at control
  cases control

private theorem mem_of_mem_between (front back : List Char) {inner : List Char} {c : Char}
    (control : isControl c = true)
    (visible : (front ++ back).all (fun sign => !isControl sign) = true)
    (h : c ∈ front ++ (inner ++ back)) : c ∈ inner := by
  have absent := not_mem_of_isControl control visible
  rw [List.mem_append, not_or] at absent
  rw [List.mem_append, List.mem_append] at h
  rcases h with before | inside | behind
  · exact absurd before absent.1
  · exact inside
  · exact absurd behind absent.2

namespace TypeExpr

private theorem mem_pathChars {path : List String} {c : Char} (h : c ∈ pathChars path) :
    c ∈ ['.'] ∨ ∃ segment ∈ path, c ∈ segment.toList := by
  induction path with
  | nil => simp [pathChars] at h
  | cons segment rest ih =>
    by_cases last : rest = []
    · subst last
      exact .inr ⟨segment, List.mem_cons_self, by simpa [pathChars] using h⟩
    · rw [pathChars, List.map_cons, List.intercalate_cons_of_ne_nil (by simpa using last),
        List.mem_append, List.mem_append] at h
      rcases h with (here | dot) | later
      · exact .inr ⟨segment, List.mem_cons_self, here⟩
      · exact .inl dot
      · obtain dot | ⟨other, hother, inside⟩ := ih later
        · exact .inl dot
        · exact .inr ⟨other, List.mem_cons_of_mem _ hother, inside⟩

private theorem mem_joinedChars {separator : List Char} {types : List TypeExpr} {c : Char}
    (h : c ∈ joinedChars separator types) :
    c ∈ separator ∨ ∃ type ∈ types, c ∈ type.chars := by
  induction types with
  | nil => simp [joinedChars] at h
  | cons type rest ih =>
    cases rest with
    | nil => exact .inr ⟨type, List.mem_cons_self, h⟩
    | cons next more =>
      rw [joinedChars, List.mem_append, List.mem_append] at h
      rcases h with here | between | later
      · exact .inr ⟨type, List.mem_cons_self, here⟩
      · exact .inl between
      · obtain between | ⟨other, hother, inside⟩ := ih later
        · exact .inl between
        · exact .inr ⟨other, List.mem_cons_of_mem _ hother, inside⟩

private theorem mem_memberChars {members : List Property} {c : Char}
    (h : c ∈ Property.memberChars members) :
    c ∈ [';', ' '] ∨ ∃ member ∈ members, c ∈ member.signatureChars := by
  induction members with
  | nil => simp [Property.memberChars] at h
  | cons member rest ih =>
    rw [Property.memberChars, List.mem_append, List.mem_cons, List.mem_cons] at h
    rcases h with here | semicolon | blank | later
    · exact .inr ⟨member, List.mem_cons_self, here⟩
    · exact .inl (by simp [semicolon])
    · exact .inl (by simp [blank])
    · obtain between | ⟨other, hother, inside⟩ := ih later
      · exact .inl between
      · exact .inr ⟨other, List.mem_cons_of_mem _ hother, inside⟩

private theorem not_mem_name_of_isControl {name : String} {c : Char} (control : isControl c = true)
    (identifier : Text.isIdentifier name = true) : c ∉ name.toList := by
  intro hc
  obtain ⟨-, -, -, -, all⟩ := Text.toList_of_isIdentifier identifier
  have accepted := List.all_eq_true.mp all c hc
  rw [Text.isControl_of_isNameRest accepted] at control
  cases control

private theorem mem_type_of_mem_signatureChars {member : Property} {c : Char}
    (h : c ∈ member.signatureChars) (control : isControl c = true) : c ∈ member.type.chars := by
  obtain ⟨name, optional, type, comment⟩ := member
  rw [Property.signatureChars, List.mem_append, List.mem_append, List.mem_cons, List.mem_cons] at h
  rcases h with inName | mark | colon | blank | inside
  · obtain ⟨bare, chars⟩ | ⟨-, chars⟩ := Text.toList_propertyName name
    · rw [chars] at inName
      exact absurd inName (not_mem_name_of_isControl control bare)
    · rw [chars] at inName
      rw [Text.isControl_eq_false_of_mem_quoteChars inName] at control
      cases control
  · cases optional with
    | true => exact absurd mark (not_mem_of_isControl control (by decide))
    | false => cases mark
  · exact absurd (List.mem_singleton.mpr colon) (not_mem_of_isControl control (by decide))
  · exact absurd (List.mem_singleton.mpr blank) (not_mem_of_isControl control (by decide))
  · exact inside

private theorem exists_bareText_of_isControl {type : TypeExpr} {c : Char} (h : c ∈ type.chars)
    (control : isControl c = true) :
    ∃ node ∈ type.nodes, ∃ text ∈ node.bareTexts, c ∈ text.toList := by
  induction type with
  | reference path args ih =>
    rw [chars_of_spelling? rfl, List.mem_append] at h
    rcases h with inPath | behind
    · obtain dot | ⟨segment, hsegment, inside⟩ := mem_pathChars inPath
      · exact absurd dot (not_mem_of_isControl control (by decide))
      · exact ⟨_, mem_nodes_self _, segment, hsegment, inside⟩
    · cases args with
      | nil => cases behind
      | cons arg args =>
        have inside : c ∈ joinedChars [',', ' '] (arg :: args) :=
          mem_of_mem_between ['<'] ['>'] control (by decide) behind
        obtain comma | ⟨part, hpart, inside⟩ := mem_joinedChars inside
        · exact absurd comma (not_mem_of_isControl control (by decide))
        · obtain ⟨node, hnode, shown⟩ := ih part hpart inside
          exact ⟨node, nodes_arg_subset path hpart hnode, shown⟩
  | union members ih =>
    cases members with
    | nil => exact absurd h (not_mem_of_isControl control (by decide))
    | cons member members =>
      rw [chars] at h
      obtain bar | ⟨part, hpart, inside⟩ := mem_joinedChars h
      · exact absurd bar (not_mem_of_isControl control (by decide))
      · obtain ⟨node, hnode, shown⟩ := ih part hpart inside
        exact ⟨node, nodes_member_subset hpart hnode, shown⟩
  | keyword word => exact absurd h (not_mem_name_of_isControl control (isIdentifier_word word))
  | stringLiteral value =>
    rw [Text.isControl_eq_false_of_mem_quoteChars h] at control
    cases control
  | array element ih =>
    have inside : c ∈ element.chars := by
      rw [chars] at h
      split at h
      · exact mem_of_mem_between ['('] [')', '[', ']'] control (by decide) h
      · exact mem_of_mem_between [] ['[', ']'] control (by decide) h
    obtain ⟨node, hnode, shown⟩ := ih inside
    exact ⟨node, nodes_element_subset element hnode, shown⟩
  | object members ih =>
    cases members with
    | nil => exact absurd h (not_mem_of_isControl control (by decide))
    | cons member members =>
      have inside : c ∈ Property.memberChars (member :: members) := by
        rw [chars] at h
        exact mem_of_mem_between ['{', ' '] ['}'] control (by decide) h
      obtain between | ⟨part, hpart, inside⟩ := mem_memberChars inside
      · exact absurd between (not_mem_of_isControl control (by decide))
      · obtain ⟨node, hnode, shown⟩ :=
          ih part hpart (mem_type_of_mem_signatureChars inside control)
        exact ⟨node, nodes_property_subset hpart hnode, shown⟩
  | raw text => exact ⟨_, mem_nodes_self _, text, List.mem_singleton_self text, h⟩

/--
String literals end where they ought to and show no control character, so that no two texts and no
two property names are written alike. And whichever control characters break lines, the text of a
type without carried text is unbroken where the segments of its references are.
-/
theorem literals_read_back_unbroken :
    (∀ text rest : String, Text.readLiteral? (Text.quote text ++ rest) = some (text, rest)) ∧
    (∀ text : String, ∀ c ∈ (Text.quote text).toList, isControl c = false) ∧
    Function.Injective Text.quote ∧
    Function.Injective Text.propertyName ∧
    (∀ name text : String, Text.isIdentifier name = true → Text.propertyName name ≠ Text.quote text) ∧
    ∀ breaks : Char → Bool, (∀ c, breaks c = true → isControl c = true) → ∀ type : TypeExpr,
      (∀ text, .raw text ∉ type.nodes) →
      (∀ path args, .reference path args ∈ type.nodes →
        ∀ segment ∈ path, segment.toList.any breaks = false) →
      type.print.toList.any breaks = false := by
  refine ⟨Text.readLiteral?_quote, ?_, Text.quote_injective, Text.propertyName_injective, ?_, ?_⟩
  · intro text c hc
    rw [Text.quote, String.toList_ofList] at hc
    exact Text.isControl_eq_false_of_mem_quoteChars hc
  · intro name text bare same
    rw [Text.propertyName, if_pos bare] at same
    rw [same, Text.isIdentifier_quote] at bare
    cases bare
  · intro breaks controls type uncarried unbroken
    rw [List.any_eq_false]
    intro c hc broken
    rw [print, String.toList_ofList] at hc
    obtain ⟨node, hnode, text, htext, inside⟩ :=
      exists_bareText_of_isControl hc (controls c broken)
    cases node with
    | reference path args =>
      exact List.any_eq_false.mp (unbroken path args hnode text htext) c inside broken
    | raw carried => exact uncarried carried hnode
    | _ => cases htext

/-- A member whose name, type and comment have line breaks, quotes and a backslash in them. -/
def brokenMember : Property :=
  ⟨"first\nline", true, .array (.reference ["Api", "Page"] [.stringLiteral "say \"hi\\\"\r\n"]),
    some "a\nb"⟩

theorem literals_read_back_unbroken_brokenMember :
    Text.readLiteral? (Text.quote "say \"hi\\\"\r\n" ++ ">[]; \"") =
      some ("say \"hi\\\"\r\n", ">[]; \"") ∧
    (TypeExpr.object [brokenMember]).print =
      "\x7b \"first\\nline\"?: Api.Page<\"say \\\"hi\\\\\\\"\\r\\n\">[]; \x7d" ∧
    Text.propertyName "Page" ≠ Text.quote "Page" ∧
    (TypeExpr.object [brokenMember]).print.toList.any (fun c => c == '\n' || c == '\r') = false := by
  obtain ⟨read, -, -, -, bare, unbroken⟩ := literals_read_back_unbroken
  have controls : ∀ c, (c == '\n' || c == '\r') = true → isControl c = true := by
    intro c hc
    rw [Bool.or_eq_true, beq_iff_eq, beq_iff_eq] at hc
    rcases hc with rfl | rfl
    · decide
    · decide
  refine ⟨read _ _, by decide, bare "Page" "Page" (by decide), unbroken _ controls _ ?_ ?_⟩
  · intro text carried
    simp [brokenMember, nodes, allNodes, Property.allNodes] at carried
  · intro path args shown segment hsegment
    simp only [brokenMember, nodes, allNodes, Property.allNodes, List.append_nil, List.mem_cons,
      List.not_mem_nil, or_false, reduceCtorEq, false_or, reference.injEq] at shown
    obtain ⟨rfl, -⟩ := shown
    rcases List.mem_cons.mp hsegment with rfl | hsegment
    · decide
    · rw [List.mem_singleton.mp hsegment]
      decide

end TypeExpr

end TypedRoutes.Declaration
