import Mathlib.Data.List.Forall2
import TypedRoutes.Proofs.Declaration.Layout
import TypedRoutes.Proofs.Declaration.NormalForm

/-!
Comments at the ends of lines. A printed tree is the print of the tree without its comments, with
notes behind some of its lines. A note is the text of a comment as it is, so that every line keeps
its place exactly as long as no comment breaks its line.
-/

set_option autoImplicit false
set_option relaxedAutoImplicit false

namespace TypedRoutes.Declaration

mutual

def TypeExpr.withoutComments : TypeExpr → TypeExpr
  | .reference path args => .reference path (TypeExpr.allWithoutComments args)
  | .union members => .union (TypeExpr.allWithoutComments members)
  | .keyword word => .keyword word
  | .stringLiteral value => .stringLiteral value
  | .array element => .array element.withoutComments
  | .object members => .object (Property.allWithoutComments members)
  | .raw text => .raw text

def TypeExpr.allWithoutComments : List TypeExpr → List TypeExpr
  | [] => []
  | type :: rest => type.withoutComments :: TypeExpr.allWithoutComments rest

def Property.allWithoutComments : List Property → List Property
  | [] => []
  | ⟨name, optional, type, _⟩ :: rest =>
    ⟨name, optional, type.withoutComments, none⟩ :: Property.allWithoutComments rest

end

/-- A member without its comment and those inside its type. -/
def Property.withoutComments (member : Property) : Property :=
  ⟨member.name, member.optional, member.type.withoutComments, none⟩

mutual

def Statement.withoutComments : Statement → Statement
  | .importDecl decl => .importDecl decl
  | .namespaceDecl ⟨name, declared, exported, none⟩ =>
    .namespaceDecl ⟨name, declared, exported, none⟩
  | .namespaceDecl ⟨name, declared, exported, some body⟩ =>
    .namespaceDecl ⟨name, declared, exported, some (Statement.allWithoutComments body)⟩
  | .interfaceDecl decl =>
    .interfaceDecl { decl with members := decl.members.map Property.withoutComments }
  | .aliasDecl decl =>
    .aliasDecl { decl with type := decl.type.withoutComments, comment := none }
  | .verbatim text => .verbatim text

def Statement.allWithoutComments : List Statement → List Statement
  | [] => []
  | statement :: rest => statement.withoutComments :: Statement.allWithoutComments rest

/-- The comments of the members of interfaces and of the type aliases, in their order. -/
def Statement.comments : Statement → List String
  | .importDecl _ => []
  | .namespaceDecl ⟨_, _, _, none⟩ => []
  | .namespaceDecl ⟨_, _, _, some body⟩ => Statement.allComments body
  | .interfaceDecl decl => decl.members.filterMap Property.comment
  | .aliasDecl decl => decl.comment.toList
  | .verbatim _ => []

def Statement.allComments : List Statement → List String
  | [] => []
  | statement :: rest => statement.comments ++ Statement.allComments rest

end

def Tree.withoutComments (tree : Tree) : Tree := ⟨Statement.allWithoutComments tree.statements⟩

def Tree.comments (tree : Tree) : List String := Statement.allComments tree.statements

private theorem TypeExpr.allWithoutComments_eq_map (types : List TypeExpr) :
    TypeExpr.allWithoutComments types = types.map TypeExpr.withoutComments := by
  induction types with
  | nil => rfl
  | cons type rest ih => rw [allWithoutComments, ih, List.map_cons]

private theorem Property.allWithoutComments_eq_map (members : List Property) :
    Property.allWithoutComments members = members.map Property.withoutComments := by
  induction members with
  | nil => rfl
  | cons member rest ih =>
    obtain ⟨name, optional, type, comment⟩ := member
    rw [allWithoutComments, ih, List.map_cons]
    rfl

private theorem TypeExpr.isWideUnion_withoutComments (type : TypeExpr) :
    type.withoutComments.isWideUnion = type.isWideUnion := by
  cases type with
  | union members => rcases members with _ | ⟨first, _ | ⟨second, rest⟩⟩ <;> rfl
  | _ => rfl

private theorem TypeExpr.chars_withoutComments (type : TypeExpr) :
    type.withoutComments.chars = type.chars := by
  induction type with
  | reference path args ih =>
    have same := joinedChars_map [',', ' '] withoutComments ih
    rw [withoutComments, allWithoutComments_eq_map]
    cases args with
    | nil => rfl
    | cons arg rest =>
      rw [List.map_cons] at same ⊢
      rw [chars, chars, same]
  | union members ih =>
    have same := joinedChars_map [' ', '|', ' '] withoutComments ih
    rw [withoutComments, allWithoutComments_eq_map]
    cases members with
    | nil => rfl
    | cons member rest =>
      rw [List.map_cons] at same ⊢
      rw [chars, chars, same]
  | array element ih => rw [withoutComments, chars, chars, ih, isWideUnion_withoutComments]
  | object members ih =>
    have signatures : ∀ member ∈ members,
        member.withoutComments.signatureChars = member.signatureChars := by
      intro member hmember
      have type := ih member hmember
      obtain ⟨name, optional, shape, comment⟩ := member
      rw [Property.withoutComments, Property.signatureChars, Property.signatureChars, type]
    have same := Property.memberChars_map Property.withoutComments signatures
    rw [withoutComments, Property.allWithoutComments_eq_map]
    cases members with
    | nil => rfl
    | cons member rest =>
      rw [List.map_cons] at same ⊢
      rw [chars, chars, same]
  | keyword word => rfl
  | stringLiteral value => rfl
  | raw text => rfl

private theorem Property.signature_withoutComments (member : Property) :
    member.withoutComments.signature = member.signature := by
  obtain ⟨name, optional, type, comment⟩ := member
  simp only [Property.signature, Property.withoutComments, Property.signatureChars,
    TypeExpr.chars_withoutComments]

private theorem Property.line_withoutComments (member : Property) :
    member.withoutComments.line = member.signature ++ ";" := by
  rw [line, signature_withoutComments]
  simp [withoutComments, lineComment]

/-- A line of code and the comment behind it. -/
structure NotedLine where
  bare : Line
  comment : Option String := none

namespace NotedLine

def written (noted : NotedLine) : Line :=
  ⟨noted.bare.level, noted.bare.text ++ lineComment noted.comment⟩

def indentBy (levels : Nat) (noted : NotedLine) : NotedLine :=
  ⟨noted.bare.indentBy levels, noted.comment⟩

@[simp] theorem written_none (bare : Line) : (NotedLine.mk bare none).written = bare := by
  simp [written, lineComment]

end NotedLine

/-- Whether lines of code with their comments are those of some statements. -/
structure Annotates (noted : List NotedLine) (statements : List Statement) : Prop where
  written : Statement.allLines statements = noted.map NotedLine.written
  bare : Statement.allLines (Statement.allWithoutComments statements) = noted.map NotedLine.bare
  comments : Statement.allComments statements = noted.filterMap NotedLine.comment

namespace Annotates

theorem nil : Annotates [] [] := ⟨rfl, rfl, rfl⟩

theorem cons {noted more : List NotedLine} {statement : Statement} {rest : List Statement}
    (first : Annotates noted [statement]) (others : Annotates more rest) :
    Annotates (noted ++ more) (statement :: rest) := by
  constructor
  · rw [Statement.allLines_cons, first.written, others.written, List.map_append]
  · have bare := first.bare
    simp only [Statement.allWithoutComments] at bare ⊢
    rw [Statement.allLines_cons, bare, others.bare, List.map_append]
  · have comments := first.comments
    simp only [Statement.allComments, List.append_nil] at comments ⊢
    rw [comments, others.comments, List.filterMap_append]

private theorem of_silent {statement : Statement} (same : statement.withoutComments = statement)
    (silent : statement.comments = []) :
    Annotates ((Statement.allLines [statement]).map fun line => ⟨line, none⟩) [statement] := by
  constructor
  · rw [List.map_map]
    refine ((List.map_congr_left fun line _ => ?_).trans (List.map_id _)).symm
    exact NotedLine.written_none line
  · rw [Statement.allWithoutComments, Statement.allWithoutComments, same, List.map_map]
    exact (List.map_id _).symm
  · simp [Statement.allComments, silent]

theorem namespaceDecl {noted : List NotedLine} {body : List Statement}
    (inside : Annotates noted body) (name : String) (declared exported : Bool) :
    Annotates
      (⟨⟨0, Namespace.opening ⟨name, declared, exported, some body⟩⟩, none⟩ ::
        (noted.map (NotedLine.indentBy 1) ++ [⟨⟨0, "\x7d"⟩, none⟩]))
      [.namespaceDecl ⟨name, declared, exported, some body⟩] := by
  constructor
  · rw [Namespace.allLines_of_body rfl, inside.written, List.map_cons, List.map_append,
      List.map_map, List.map_map, List.map_singleton, NotedLine.written_none,
      NotedLine.written_none]
    rfl
  · have bodies : Statement.allWithoutComments [.namespaceDecl ⟨name, declared, exported, some body⟩] =
        [.namespaceDecl ⟨name, declared, exported, some (Statement.allWithoutComments body)⟩] := rfl
    rw [bodies, Namespace.allLines_of_body rfl, inside.bare, List.map_cons, List.map_append,
      List.map_map, List.map_map]
    rfl
  · have comments : Statement.allComments [.namespaceDecl ⟨name, declared, exported, some body⟩] =
        Statement.allComments body := by
      simp only [Statement.allComments, Statement.comments, List.append_nil]
    rw [comments, inside.comments, List.filterMap_cons_none rfl, List.filterMap_append,
      List.filterMap_map, List.filterMap_cons_none rfl, List.filterMap_nil, List.append_nil]
    rfl

theorem interfaceDecl (decl : Interface) :
    Annotates
      (⟨⟨0, decl.opening⟩, none⟩ ::
        (decl.members.map (fun member => ⟨⟨1, member.signature ++ ";"⟩, member.comment⟩) ++
          [⟨⟨0, "\x7d"⟩, none⟩]))
      [.interfaceDecl decl] := by
  constructor
  · rw [Interface.allLines_eq, List.map_cons, List.map_append, List.map_map, List.map_singleton,
      NotedLine.written_none, NotedLine.written_none]
    rfl
  · have members : Statement.allWithoutComments [.interfaceDecl decl] =
        [.interfaceDecl { decl with members := decl.members.map Property.withoutComments }] := rfl
    have lines : (decl.members.map Property.withoutComments).map
        (fun member => Line.mk 1 member.line) =
          decl.members.map fun member => Line.mk 1 (member.signature ++ ";") := by
      rw [List.map_map]
      refine List.map_congr_left fun member _ => ?_
      rw [Function.comp_apply, Property.line_withoutComments]
    rw [members, Interface.allLines_eq, lines, List.map_cons, List.map_append, List.map_map]
    rfl
  · rw [List.filterMap_cons_none rfl, List.filterMap_append, List.filterMap_map,
      List.filterMap_cons_none rfl, List.filterMap_nil, List.append_nil]
    exact List.append_nil _

theorem aliasDecl (decl : TypeAlias) :
    Annotates [⟨⟨0, { decl with comment := none }.line⟩, decl.comment⟩] [.aliasDecl decl] := by
  constructor
  · simp [Statement.allLines, Statement.allFragments, Statement.fragments, Fragment.allLines,
      Fragment.lines, NotedLine.written, TypeAlias.line, lineComment]
  · simp [Statement.allLines, Statement.allFragments, Statement.fragments, Fragment.allLines,
      Fragment.lines, Statement.allWithoutComments, Statement.withoutComments, TypeAlias.line,
      TypeExpr.print, TypeExpr.chars_withoutComments]
  · cases h : decl.comment <;> simp [Statement.allComments, Statement.comments, h]

end Annotates

mutual

private theorem Statement.exists_annotates : ∀ statement : Statement,
    ∃ noted, Annotates noted [statement]
  | .importDecl decl => ⟨_, .of_silent rfl rfl⟩
  | .namespaceDecl ⟨name, declared, exported, none⟩ => ⟨_, .of_silent rfl rfl⟩
  | .namespaceDecl ⟨name, declared, exported, some body⟩ => by
    obtain ⟨noted, inside⟩ := Statement.exists_annotates_all body
    exact ⟨_, inside.namespaceDecl name declared exported⟩
  | .interfaceDecl decl => ⟨_, .interfaceDecl decl⟩
  | .aliasDecl decl => ⟨_, .aliasDecl decl⟩
  | .verbatim text => ⟨_, .of_silent rfl rfl⟩

private theorem Statement.exists_annotates_all : ∀ statements : List Statement,
    ∃ noted, Annotates noted statements
  | [] => ⟨[], .nil⟩
  | statement :: rest => by
    obtain ⟨noted, first⟩ := Statement.exists_annotates statement
    obtain ⟨more, others⟩ := Statement.exists_annotates_all rest
    exact ⟨noted ++ more, first.cons others⟩

end

/-- The characters that break a text into lines: the line feed, and none that opens a comment. -/
structure LineBreaks where
  isBreak : Char → Bool
  feed : isBreak '\n' = true
  opener : " // ".toList.any isBreak = false

namespace LineBreaks

def lines (breaks : LineBreaks) (text : String) : List String :=
  (text.toList.splitOnP breaks.isBreak).map String.ofList

end LineBreaks

/-- Whether a line is a line of code as it is, or with one of some comments behind it. -/
def IsNoted (comments : List String) (line bare : String) : Prop :=
  line = bare ∨ ∃ comment ∈ comments, line = bare ++ " // " ++ comment

private theorem length_splitOnP {α : Type} (p : α → Bool) (text : List α) :
    (text.splitOnP p).length = text.countP p + 1 := by
  induction text with
  | nil => rfl
  | cons c rest ih =>
    rw [List.splitOnP_cons_eq_if_modifyHead, List.countP_cons]
    split
    · rw [List.length_cons, ih]
    · rw [List.length_modifyHead, ih]

private theorem forall₂_splitOnP_append {α : Type} {p : α → Bool} {note : List α}
    (unbroken : note.any p = false) (text : List α) :
    List.Forall₂ (fun line bare => line = bare ∨ line = bare ++ note)
      ((text ++ note).splitOnP p) (text.splitOnP p) := by
  induction text with
  | nil =>
    have whole : note.splitOnP p = [note] :=
      List.splitOnP_eq_singleton fun c hc => by simpa using List.any_eq_false.mp unbroken c hc
    rw [List.nil_append, whole, List.splitOnP_nil]
    exact .cons (.inr rfl) .nil
  | cons c rest ih =>
    rw [List.cons_append, List.splitOnP_cons_eq_if_modifyHead, List.splitOnP_cons_eq_if_modifyHead]
    split
    · exact .cons (.inl rfl) ih
    · -- the character goes in front of the first piece of each, which both have
      generalize (rest ++ note).splitOnP p = lines, rest.splitOnP p = bares at ih ⊢
      cases ih with
      | nil => exact .nil
      | cons first others =>
        refine .cons ?_ others
        rcases first with rfl | rfl
        · exact .inl rfl
        · exact .inr rfl

/-- The characters of a line in front of its line feed. -/
def Line.content (unit : String) (line : Line) : List Char :=
  (String.join (List.replicate line.level unit) ++ line.text).toList

private theorem toList_printLines_cons (unit : String) (line : Line) (rest : List Line) :
    (printLines unit (line :: rest)).toList =
      line.content unit ++ '\n' :: (printLines unit rest).toList := by
  simp [printLines, Line.print, Line.content]

private theorem NotedLine.content_written (unit : String) (noted : NotedLine) :
    noted.written.content unit = noted.bare.content unit ++ (lineComment noted.comment).toList := by
  simp [Line.content, written]

namespace LineBreaks

variable (breaks : LineBreaks)

private theorem countP_lineComment (comment : Option String) :
    (lineComment comment).toList.countP breaks.isBreak =
      (comment.toList.flatMap String.toList).countP breaks.isBreak := by
  cases comment with
  | none => rfl
  | some text =>
    have opener : " // ".toList.countP breaks.isBreak = 0 :=
      List.countP_eq_zero.mpr (List.any_eq_false.mp breaks.opener)
    rw [lineComment, String.toList_append, List.countP_append, opener, Nat.zero_add]
    simp

private theorem countP_printLines (unit : String) (noted : List NotedLine) :
    (printLines unit (noted.map NotedLine.written)).toList.countP breaks.isBreak =
      (printLines unit (noted.map NotedLine.bare)).toList.countP breaks.isBreak +
        ((noted.filterMap NotedLine.comment).flatMap String.toList).countP breaks.isBreak := by
  induction noted with
  | nil => rfl
  | cons line rest ih =>
    have own : (line.comment.toList.flatMap String.toList).countP breaks.isBreak +
        ((rest.filterMap NotedLine.comment).flatMap String.toList).countP breaks.isBreak =
          (((line :: rest).filterMap NotedLine.comment).flatMap String.toList).countP breaks.isBreak := by
      cases h : line.comment with
      | none => simp [h]
      | some text => simp [h, List.countP_append]
    rw [← own, List.map_cons, List.map_cons, toList_printLines_cons, toList_printLines_cons,
      NotedLine.content_written]
    simp only [List.countP_append, List.countP_cons, countP_lineComment, ih]
    omega

private theorem length_lines (text : String) :
    (breaks.lines text).length = text.toList.countP breaks.isBreak + 1 := by
  rw [lines, List.length_map, length_splitOnP]

private theorem any_lineComment {comment : Option String}
    (unbroken : ∀ text ∈ comment, text.toList.any breaks.isBreak = false) :
    (lineComment comment).toList.any breaks.isBreak = false := by
  cases comment with
  | none => rfl
  | some text =>
    rw [lineComment, String.toList_append, List.any_append, breaks.opener, unbroken text rfl]
    rfl

private theorem forall₂_lines_printLines (unit : String) {comments : List String}
    (unbroken : ∀ comment ∈ comments, comment.toList.any breaks.isBreak = false)
    {noted : List NotedLine} (taken : noted.filterMap NotedLine.comment ⊆ comments) :
    List.Forall₂ (IsNoted comments)
      (breaks.lines (printLines unit (noted.map NotedLine.written)))
      (breaks.lines (printLines unit (noted.map NotedLine.bare))) := by
  unfold lines
  rw [List.forall₂_map_left_iff, List.forall₂_map_right_iff]
  induction noted with
  | nil => exact .cons (.inl rfl) .nil
  | cons line rest ih =>
    have own : ∀ text ∈ line.comment, text ∈ comments := by
      intro text htext
      exact taken (List.mem_filterMap.mpr ⟨line, List.mem_cons_self, htext⟩)
    have others : rest.filterMap NotedLine.comment ⊆ comments := by
      intro text htext
      obtain ⟨other, hother, same⟩ := List.mem_filterMap.mp htext
      exact taken (List.mem_filterMap.mpr ⟨other, List.mem_cons_of_mem _ hother, same⟩)
    have here := forall₂_splitOnP_append
      (breaks.any_lineComment fun text htext => unbroken text (own text htext))
      (line.bare.content unit)
    -- the feed at its end closes a line, so that the lines behind it are those of the rest
    rw [List.map_cons, List.map_cons, toList_printLines_cons, toList_printLines_cons,
      NotedLine.content_written, List.splitOnP_append_cons _ _ breaks.feed,
      List.splitOnP_append_cons _ _ breaks.feed]
    refine List.rel_append (here.imp fun piece bare shown => ?_) (ih others)
    rcases shown with rfl | rfl
    · exact .inl rfl
    · cases h : line.comment with
      | none => exact .inl (by simp [lineComment])
      | some text => exact .inr ⟨text, own text h, by
        rw [lineComment, String.ofList_append, String.ofList_toList, String.append_assoc]⟩

end LineBreaks

/--
Whatever breaks lines, the print of a tree has as many lines as the print of the tree without its
comments, and each of its lines is the line of code there or that line with a comment behind it,
exactly if no comment of a member or an alias has a line break in it.
-/
theorem comments_keep_lines_iff (breaks : LineBreaks) (indent : Indent) (tree : Tree) :
    ((breaks.lines (tree.printWith indent)).length =
        (breaks.lines (tree.withoutComments.printWith indent)).length ↔
      ∀ comment ∈ tree.comments, comment.toList.any breaks.isBreak = false) ∧
    (List.Forall₂ (IsNoted tree.comments) (breaks.lines (tree.printWith indent))
        (breaks.lines (tree.withoutComments.printWith indent)) ↔
      ∀ comment ∈ tree.comments, comment.toList.any breaks.isBreak = false) := by
  obtain ⟨noted, annotates⟩ := Statement.exists_annotates_all tree.statements
  have comments : tree.comments = noted.filterMap NotedLine.comment := annotates.comments
  have lengths : (breaks.lines (tree.printWith indent)).length =
      (breaks.lines (tree.withoutComments.printWith indent)).length ↔
        ∀ comment ∈ tree.comments, comment.toList.any breaks.isBreak = false := by
    rw [breaks.length_lines, breaks.length_lines, Tree.printWith_eq, Tree.printWith_eq,
      Tree.withoutComments, annotates.written, annotates.bare, breaks.countP_printLines, ← comments]
    have none : (tree.comments.flatMap String.toList).countP breaks.isBreak = 0 ↔
        ∀ comment ∈ tree.comments, comment.toList.any breaks.isBreak = false := by
      simp only [List.countP_eq_zero, List.mem_flatMap, List.any_eq_false]
      constructor
      · intro absent comment hcomment c hc
        exact absent c ⟨comment, hcomment, hc⟩
      · rintro absent c ⟨comment, hcomment, hc⟩
        exact absent comment hcomment c hc
    rw [← none]
    omega
  refine ⟨lengths, fun noted => lengths.mp noted.length_eq, fun unbroken => ?_⟩
  rw [Tree.printWith_eq, Tree.printWith_eq, Tree.withoutComments, annotates.written,
    annotates.bare]
  exact breaks.forall₂_lines_printLines indent.unit unbroken (comments ▸ List.Subset.refl _)

def feedBreaks : LineBreaks := ⟨fun c => c == '\n', rfl, by decide⟩

def commentedAlias : Tree :=
  ⟨[.aliasDecl { name := "Id", type := .keyword .number, comment := some "a\ntype Key = any;" }]⟩

/-- What a comment says behind its first line is printed as code. -/
theorem comment_becomes_code :
    commentedAlias.print = "type Id = number; // a\ntype Key = any;\n" ∧
    commentedAlias.withoutComments.print = "type Id = number;\n" ∧
    (feedBreaks.lines commentedAlias.print).length ≠
      (feedBreaks.lines commentedAlias.withoutComments.print).length ∧
    ¬ List.Forall₂ (IsNoted commentedAlias.comments) (feedBreaks.lines commentedAlias.print)
      (feedBreaks.lines commentedAlias.withoutComments.print) := by
  have lengths : (feedBreaks.lines commentedAlias.print).length ≠
      (feedBreaks.lines commentedAlias.withoutComments.print).length := by decide +kernel
  exact ⟨by decide +kernel, by decide +kernel, lengths, fun noted => lengths noted.length_eq⟩

end TypedRoutes.Declaration
