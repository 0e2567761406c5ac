import TypedRoutes.Proofs.Declaration.NormalForm
import TypedRoutes.Proofs.Text.Literal

/-!
Printing of types is unambiguous: two plain types have the same text exactly when they have the
same normal form.

Brackets stand behind what they belong to, so the text of a type is taken apart from the outside
in: a type is its alternatives between bars, an alternative is a core with brackets behind it, and
a core is told by its first character and closes itself.
-/

set_option autoImplicit false
set_option relaxedAutoImplicit false

namespace TypedRoutes.Declaration

open Text (Stops)

/-- Whether a text is empty or goes on with one of the given characters. -/
def Within (ends rest : List Char) : Prop := ∀ c ∈ rest.head?, c ∈ ends

private theorem within_cons {ends : List Char} {c : Char} (rest : List Char) (h : c ∈ ends) :
    Within ends (c :: rest) :=
  Text.forall_mem_head?_cons rest h

theorem Within.mono {ends more rest : List Char} (h : Within ends rest) (sub : ends ⊆ more) :
    Within more rest :=
  fun c hc => sub (h c hc)

theorem Within.stops {ends rest : List Char} {p : Char → Bool} (h : Within ends rest)
    (rejected : ends.any p = false) : Stops p rest := by
  intro c hc
  have none := List.any_eq_false.mp rejected c (h c hc)
  simpa using none

private theorem Within.ne_cons {ends rest : List Char} (h : Within ends rest) {c : Char}
    (tail : List Char) (other : c ∉ ends) : rest ≠ c :: tail := by
  intro cons
  exact other (h c (by rw [cons]; rfl))

def typeEnds : List Char := [',', '>', ';', ')']

/-- The characters that may follow an alternative: also the space before a bar. -/
def partEnds : List Char := ' ' :: typeEnds

def coreEnds : List Char := '[' :: partEnds

def brackets : Nat → List Char
  | 0 => []
  | n + 1 => '[' :: ']' :: brackets n

private theorem brackets_append (n : Nat) : brackets n ++ ['[', ']'] = brackets (n + 1) := by
  induction n with
  | zero => rfl
  | succ n ih =>
    rw [brackets, List.cons_append, List.cons_append, ih]
    rfl

private theorem within_brackets (n : Nat) {rest : List Char} (h : Within partEnds rest) :
    Within coreEnds (brackets n ++ rest) := by
  cases n with
  | zero => exact h.mono (List.subset_cons_self _ _)
  | succ n => exact within_cons _ List.mem_cons_self

private theorem brackets_cancel {m n : Nat} {rest more : List Char} (hrest : Within partEnds rest)
    (hmore : Within partEnds more) (same : brackets m ++ rest = brackets n ++ more) :
    m = n ∧ rest = more := by
  induction m generalizing n with
  | zero =>
    cases n with
    | zero => exact ⟨rfl, same⟩
    | succ n => exact absurd same (hrest.ne_cons _ (by decide))
  | succ m ih =>
    cases n with
    | zero => exact absurd same.symm (hmore.ne_cons _ (by decide))
    | succ n =>
      have inner := (List.cons.inj (List.cons.inj same).2).2
      obtain ⟨rfl, ends⟩ := ih inner
      exact ⟨rfl, ends⟩

namespace TypeExpr

/-- A type without the brackets behind it; the brackets of a wide union stay with its parentheses. -/
def core : TypeExpr → TypeExpr
  | .array element => if element.isWideUnion then .array element else element.core
  | type => type

def rank : TypeExpr → Nat
  | .array element => if element.isWideUnion then 0 else element.rank + 1
  | _ => 0

/-- Puts a number of brackets behind a type. -/
def arrays : Nat → TypeExpr → TypeExpr
  | 0, type => type
  | n + 1, type => .array (arrays n type)

private theorem arrays_core (type : TypeExpr) : arrays type.rank type.core = type := by
  induction type with
  | array element ih =>
    cases wide : element.isWideUnion with
    | true => simp [core, rank, wide, arrays]
    | false => simp [core, rank, wide, arrays, ih]
  | _ => rfl

private theorem chars_core (type : TypeExpr) :
    type.chars = type.core.chars ++ brackets type.rank := by
  induction type with
  | array element ih =>
    cases wide : element.isWideUnion with
    | true => simp [core, rank, wide, brackets]
    | false =>
      simp only [chars, core, rank, wide, Bool.false_eq_true, if_false]
      rw [ih, List.append_assoc, brackets_append]
  | _ => simp [core, rank, brackets]

/-- A normal type that is neither a wide union nor an array of anything else. -/
def IsCore (type : TypeExpr) : Prop :=
  type.IsNormal ∧ type.isWideUnion = false ∧
    ∀ element, type = .array element → element.isWideUnion = true

private theorem isCore_core {type : TypeExpr} (normal : type.IsNormal)
    (narrow : type.isWideUnion = false) :
    type.core.IsCore := by
  induction normal with
  | reference name normal => exact ⟨.reference name normal, narrow, nofun⟩
  | keyword word => exact ⟨.keyword word, narrow, nofun⟩
  | stringLiteral value => exact ⟨.stringLiteral value, narrow, nofun⟩
  | union two normal inner => simp [isWideUnion_union two] at narrow
  | @array element normal ih =>
    cases wide : element.isWideUnion with
    | true =>
      simp only [core, wide, if_true]
      refine ⟨.array normal, narrow, ?_⟩
      rintro _ ⟨⟩
      exact wide
    | false =>
      simp only [core, wide, Bool.false_eq_true, if_false]
      exact ih wide
  | object normal silent => exact ⟨.object normal silent, narrow, nofun⟩

/-- A core is told from every other core by its text, whatever follows either. -/
def CoreCancels (type : TypeExpr) : Prop :=
  ∀ other rest more, other.IsCore → Within coreEnds rest → Within coreEnds more →
    type.chars ++ rest = other.chars ++ more → type = other ∧ rest = more

/-- A type is told from every other normal type by its text, whatever follows either. -/
def Cancels (type : TypeExpr) : Prop :=
  ∀ other rest more, other.IsNormal → Within typeEnds rest → Within typeEnds more →
    type.chars ++ rest = other.chars ++ more → type = other ∧ rest = more

private theorem part_cancel {type other : TypeExpr} {rest more : List Char}
    (cancels : type.core.CoreCancels) (normal : other.IsNormal)
    (narrow : other.isWideUnion = false) (hrest : Within partEnds rest)
    (hmore : Within partEnds more) (same : type.chars ++ rest = other.chars ++ more) :
    type = other ∧ rest = more := by
  rw [chars_core type, chars_core other, List.append_assoc, List.append_assoc] at same
  obtain ⟨cores, tails⟩ := cancels other.core _ _ (isCore_core normal narrow)
    (within_brackets _ hrest) (within_brackets _ hmore) same
  obtain ⟨ranks, ends⟩ := brackets_cancel hrest hmore tails
  have types : type = other := by rw [← arrays_core type, cores, ranks, arrays_core]
  exact ⟨types, ends⟩

private theorem joinedChars_cancel {c : Char} {separator ends rest more : List Char}
    (fresh : c ∉ ends) {types others : List TypeExpr} (htypes : types ≠ []) (hothers : others ≠ [])
    (cancels : ∀ type ∈ types, ∀ other ∈ others, ∀ rest more, Within (c :: ends) rest →
      Within (c :: ends) more → type.chars ++ rest = other.chars ++ more →
      type = other ∧ rest = more)
    (hrest : Within ends rest) (hmore : Within ends more)
    (same : joinedChars (c :: separator) types ++ rest =
      joinedChars (c :: separator) others ++ more) :
    types = others ∧ rest = more := by
  have wider {text : List Char} (h : Within ends text) : Within (c :: ends) text :=
    h.mono (List.subset_cons_self _ _)
  induction types generalizing others with
  | nil => exact absurd rfl htypes
  | cons type types ih =>
    obtain ⟨other, others, rfl⟩ := List.exists_cons_of_ne_nil hothers
    have heads := cancels type List.mem_cons_self other List.mem_cons_self
    by_cases last : types = [] <;> by_cases last' : others = []
    · rw [last, last', joinedChars, joinedChars] at same
      obtain ⟨rfl, ends⟩ := heads _ _ (wider hrest) (wider hmore) same
      exact ⟨by rw [last, last'], ends⟩
    · -- one text ends where the other has a separator
      rw [last, joinedChars, joinedChars_cons _ other last', List.append_assoc] at same
      have split := (heads _ _ (wider hrest) (within_cons _ List.mem_cons_self) same).2
      exact absurd split (hrest.ne_cons _ fresh)
    · rw [last', joinedChars, joinedChars_cons _ type last, List.append_assoc] at same
      have split := (heads _ _ (within_cons _ List.mem_cons_self) (wider hmore) same).2
      exact absurd split.symm (hmore.ne_cons _ fresh)
    · simp only [joinedChars_cons _ _ last, joinedChars_cons _ _ last', List.append_assoc,
        List.cons_append] at same
      obtain ⟨rfl, tails⟩ := heads _ _ (within_cons _ List.mem_cons_self)
        (within_cons _ List.mem_cons_self) same
      have inner := List.append_cancel_left (List.cons.inj tails).2
      obtain ⟨rfl, ends⟩ := ih last last' (fun type htype other hother =>
        cancels type (.tail _ htype) other (.tail _ hother)) inner
      exact ⟨rfl, ends⟩

private theorem cancels_of_cores {type : TypeExpr}
    (cores : ∀ part ∈ type.alternatives, part.core.CoreCancels) : type.Cancels := by
  intro other rest more hother hrest hmore same
  rw [← joinedChars_alternatives type, ← joinedChars_alternatives other] at same
  have parts := joinedChars_cancel (by decide) (alternatives_ne_nil type)
    (alternatives_ne_nil other) (fun part hpart part' hpart' rest more hrest hmore same =>
      have shown := hother.alternatives part' hpart'
      part_cancel (cores part hpart) shown.1 shown.2 hrest hmore same) hrest hmore same
  have types : type = other := by
    rw [← unionOf_alternatives type, parts.1, unionOf_alternatives]
  exact ⟨types, parts.2⟩

/-- The path and the arguments of a reference; a keyword is written like a reference to it. -/
def spelling? : TypeExpr → Option (List String × List TypeExpr)
  | .reference path args => some (path, args)
  | .keyword word => some ([word.word], [])
  | _ => none

def opener? : TypeExpr → Option Char
  | .stringLiteral _ => some '"'
  | .object _ => some '{'
  | .array _ => some '('
  | _ => none

def pathChars (path : List String) : List Char :=
  List.intercalate ['.'] (path.map String.toList)

def argumentChars : List TypeExpr → List Char
  | [] => []
  | arg :: args => '<' :: (joinedChars [',', ' '] (arg :: args) ++ ['>'])

theorem chars_of_spelling? {type : TypeExpr} {path : List String} {args : List TypeExpr}
    (h : type.spelling? = some (path, args)) : type.chars = pathChars path ++ argumentChars args := by
  cases type with
  | reference path' args' =>
    obtain ⟨rfl, rfl⟩ := Prod.mk.inj (Option.some.inj h)
    cases args' with
    | nil => simp [chars, pathChars, argumentChars]
    | cons arg args' => rw [chars, pathChars, argumentChars]
  | keyword word =>
    obtain ⟨rfl, rfl⟩ := Prod.mk.inj (Option.some.inj h)
    simp [chars, pathChars, argumentChars]
  | _ => simp [spelling?] at h

theorem isIdentifier_word (keyword : Keyword) : Text.isIdentifier keyword.word = true := by
  cases keyword <;> decide

private theorem word_injective {keyword other : Keyword} (h : keyword.word = other.word) :
    keyword = other := by
  cases keyword <;> cases other <;> first | rfl | simp [Keyword.word] at h

theorem IsNormal.spelling {type : TypeExpr} (normal : type.IsNormal) {path : List String}
    {args : List TypeExpr} (h : type.spelling? = some (path, args)) :
    path ≠ [] ∧ (∀ segment ∈ path, Text.isIdentifier segment = true) ∧
      ∀ arg ∈ args, arg.IsNormal := by
  cases normal with
  | reference name normal =>
    obtain ⟨rfl, rfl⟩ := Prod.mk.inj (Option.some.inj h)
    exact ⟨name.1, name.2.1, normal⟩
  | keyword word =>
    obtain ⟨rfl, rfl⟩ := Prod.mk.inj (Option.some.inj h)
    refine ⟨List.cons_ne_nil _ _, fun segment hsegment => ?_, nofun⟩
    rw [List.mem_singleton.mp hsegment]
    exact isIdentifier_word word
  | _ => simp [spelling?] at h

private theorem eq_of_spelling? {type other : TypeExpr} (normal : type.IsNormal)
    (normal' : other.IsNormal)
    {spelling : List String × List TypeExpr} (h : type.spelling? = some spelling)
    (h' : other.spelling? = some spelling) : type = other := by
  have same : type.spelling? = other.spelling? := h.trans h'.symm
  clear h'
  cases normal with
  | reference name normal =>
    cases normal' with
    | reference name' normal' =>
      obtain ⟨rfl, rfl⟩ := Prod.mk.inj (Option.some.inj same)
      rfl
    | keyword word =>
      obtain ⟨rfl, rfl⟩ := Prod.mk.inj (Option.some.inj same)
      exact absurd rfl (name.2.2 rfl word)
    | _ => simp [spelling?] at same
  | keyword word =>
    cases normal' with
    | reference name' normal' =>
      obtain ⟨rfl, rfl⟩ := Prod.mk.inj (Option.some.inj same)
      exact absurd rfl (name'.2.2 rfl word)
    | keyword word' =>
      have words := (Prod.mk.inj (Option.some.inj same)).1
      rw [word_injective (List.cons.inj words).1]
    | _ => simp [spelling?] at same
  | _ => simp [spelling?] at h

def isPathChar (c : Char) : Bool := Text.isNameRest c || c == '.'

theorem pathChars_identifiers {path : List String} (nonempty : path ≠ [])
    (identifiers : ∀ segment ∈ path, Text.isIdentifier segment = true) :
    (∃ c rest, pathChars path = c :: rest ∧ Text.isNameStart c = true) ∧
      (pathChars path).all isPathChar = true := by
  induction path with
  | nil => exact absurd rfl nonempty
  | cons segment rest ih =>
    obtain ⟨first, others⟩ := List.forall_mem_cons.mp identifiers
    obtain ⟨c, tail, chars, start, all⟩ := Text.toList_of_isIdentifier first
    have all' : segment.toList.all isPathChar = true := by
      rw [List.all_eq_true] at all ⊢
      intro d hd
      rw [isPathChar, all d hd, Bool.true_or]
    by_cases last : rest = []
    · rw [last]
      refine ⟨⟨c, tail, by simp [pathChars, chars], start⟩, ?_⟩
      simpa [pathChars] using all'
    · have split : pathChars (segment :: rest) = segment.toList ++ '.' :: pathChars rest := by
        rw [pathChars, List.map_cons, List.intercalate_cons_of_ne_nil (by simpa using last)]
        simp [pathChars]
      refine ⟨⟨c, tail ++ '.' :: pathChars rest, by rw [split, chars]; rfl, start⟩, ?_⟩
      rw [split, List.all_append, all', List.all_cons, (ih last others).2]
      rfl

private theorem pathChars_injective {path other : List String} (nonempty : path ≠ [])
    (nonempty' : other ≠ []) (identifiers : ∀ segment ∈ path, Text.isIdentifier segment = true)
    (identifiers' : ∀ segment ∈ other, Text.isIdentifier segment = true)
    (same : pathChars path = pathChars other) : path = other := by
  have split {names : List String} (nonempty : names ≠ [])
      (identifiers : ∀ segment ∈ names, Text.isIdentifier segment = true) :
      (pathChars names).splitOn '.' = names.map String.toList := by
    refine List.splitOn_intercalate '.' (fun chars hchars dot => ?_) (by simpa using nonempty)
    obtain ⟨segment, hsegment, rfl⟩ := List.mem_map.mp hchars
    obtain ⟨-, -, -, -, all⟩ := Text.toList_of_isIdentifier (identifiers segment hsegment)
    have accepted := List.all_eq_true.mp all '.' dot
    simp [Text.isNameRest] at accepted
  have segments := split nonempty identifiers
  rw [same, split nonempty' identifiers'] at segments
  exact ((List.map_inj_right fun _ _ => String.toList_inj.mp).mp segments).symm

private theorem opener?_of_spelling? {type : TypeExpr} {spelling : List String × List TypeExpr}
    (h : type.spelling? = some spelling) : type.opener? = none := by
  cases type <;> first | rfl | simp [spelling?] at h

private theorem IsCore.exists_spelling? {type : TypeExpr} (core : type.IsCore)
    (unopened : type.opener? = none) : ∃ path args, type.spelling? = some (path, args) := by
  obtain ⟨normal, narrow, -⟩ := core
  cases normal with
  | @reference path args name normal => exact ⟨path, args, rfl⟩
  | keyword word => exact ⟨[word.word], [], rfl⟩
  | union two normal inner => simp [isWideUnion_union two] at narrow
  | _ => simp [opener?] at unopened

theorem IsCore.head {type : TypeExpr} (core : type.IsCore) :
    ∃ c rest, type.chars = c :: rest ∧
      type.opener? = if Text.isNameStart c then none else some c := by
  obtain ⟨normal, narrow, wide⟩ := core
  cases spelled : type.spelling? with
  | some spelling =>
    obtain ⟨path, args⟩ := spelling
    obtain ⟨nonempty, identifiers, -⟩ := normal.spelling spelled
    obtain ⟨⟨c, rest, chars, start⟩, -⟩ := pathChars_identifiers nonempty identifiers
    refine ⟨c, rest ++ argumentChars args, by rw [chars_of_spelling? spelled, chars]; rfl, ?_⟩
    rw [if_pos start]
    exact opener?_of_spelling? spelled
  | none =>
    cases normal with
    | stringLiteral value => exact ⟨'"', _, by rw [chars, Text.quoteChars], rfl⟩
    | @object members normal silent =>
      cases members with
      | nil => exact ⟨'{', _, by rw [chars], rfl⟩
      | cons member members => exact ⟨'{', _, by rw [chars], rfl⟩
    | @array element normal =>
      exact ⟨'(', _, by rw [chars, if_pos (wide element rfl)], rfl⟩
    | union two normal inner => simp [isWideUnion_union two] at narrow
    | _ => simp [spelling?] at spelled

private theorem opener?_eq {type other : TypeExpr} (core : type.IsCore) (core' : other.IsCore)
    {rest more : List Char} (same : type.chars ++ rest = other.chars ++ more) :
    other.opener? = type.opener? := by
  obtain ⟨c, tail, chars, opener⟩ := core.head
  obtain ⟨d, tail', chars', opener'⟩ := core'.head
  rw [chars, chars'] at same
  rw [opener, opener', (List.cons.inj same).1]

private theorem joinedArgs_cancel {args others : List TypeExpr} {rest more : List Char}
    (hargs : args ≠ []) (hothers : others ≠ []) (cancels : ∀ arg ∈ args, arg.Cancels)
    (normal : ∀ other ∈ others, other.IsNormal)
    (same : joinedChars [',', ' '] args ++ '>' :: rest =
      joinedChars [',', ' '] others ++ '>' :: more) :
    args = others ∧ rest = more := by
  have inside : [',', '>'] ⊆ typeEnds := by decide
  have closing (text : List Char) : Within ['>'] ('>' :: text) := within_cons text (by decide)
  obtain ⟨types, ends⟩ := joinedChars_cancel (by decide) hargs hothers
    (fun arg harg other hother rest more hrest hmore same =>
      cancels arg harg other rest more (normal other hother) (hrest.mono inside)
        (hmore.mono inside) same) (closing rest) (closing more) same
  exact ⟨types, (List.cons.inj ends).2⟩

private theorem named_cancels {type : TypeExpr} (core : type.IsCore) {path : List String}
    {args : List TypeExpr} (spelled : type.spelling? = some (path, args))
    (cancels : ∀ arg ∈ args, arg.Cancels) : type.CoreCancels := by
  intro other rest more core' hrest hmore same
  have unopened := (opener?_eq core core' same).trans (opener?_of_spelling? spelled)
  obtain ⟨path', args', spelled'⟩ := core'.exists_spelling? unopened
  obtain ⟨nonempty, identifiers, -⟩ := core.1.spelling spelled
  obtain ⟨nonempty', identifiers', normal'⟩ := core'.1.spelling spelled'
  rw [chars_of_spelling? spelled, chars_of_spelling? spelled', List.append_assoc,
    List.append_assoc] at same
  have stops (args : List TypeExpr) {text : List Char} (h : Within coreEnds text) :
      Stops isPathChar (argumentChars args ++ text) := by
    cases args with
    | nil => exact h.stops (by decide)
    | cons arg args => exact Text.stops_cons _ (by decide)
  obtain ⟨paths, tails⟩ := Text.word_cancel (pathChars_identifiers nonempty identifiers).2
    (pathChars_identifiers nonempty' identifiers').2 (stops args hrest) (stops args' hmore) same
  obtain rfl := pathChars_injective nonempty nonempty' identifiers identifiers' paths
  obtain ⟨rfl, ends⟩ : args = args' ∧ rest = more := by
    cases args with
    | nil =>
      cases args' with
      | nil => exact ⟨rfl, tails⟩
      | cons arg' args' => exact absurd tails (hrest.ne_cons _ (by decide))
    | cons arg args =>
      cases args' with
      | nil => exact absurd tails.symm (hmore.ne_cons _ (by decide))
      | cons arg' args' =>
        simp only [argumentChars, List.cons_append, List.append_assoc, List.cons.injEq,
          true_and] at tails
        exact joinedArgs_cancel (List.cons_ne_nil _ _) (List.cons_ne_nil _ _) cancels normal' tails
  exact ⟨eq_of_spelling? core.1 core'.1 spelled spelled', ends⟩

private theorem stringLiteral_cancels (value : String) :
    (TypeExpr.stringLiteral value).CoreCancels := by
  intro other rest more core' hrest hmore same
  have opener := opener?_eq ⟨.stringLiteral value, rfl, nofun⟩ core' same
  cases other with
  | stringLiteral value' =>
    rw [chars, chars] at same
    obtain ⟨values, ends⟩ := Text.quoteChars_cancel same
    exact ⟨by rw [String.toList_inj.mp values], ends⟩
  | _ => simp [opener?] at opener

private theorem group_cancels {element : TypeExpr} (normal : element.IsNormal)
    (wide : element.isWideUnion = true) (cancels : element.Cancels) :
    (TypeExpr.array element).CoreCancels := by
  intro other rest more core' hrest hmore same
  have core : (TypeExpr.array element).IsCore := by
    refine ⟨.array normal, rfl, ?_⟩
    rintro _ ⟨⟩
    exact wide
  have opener := opener?_eq core core' same
  cases other with
  | array element' =>
    obtain ⟨normal', -, wide'⟩ := core'
    cases normal' with
    | array normal' =>
      rw [chars, chars, if_pos wide, if_pos (wide' element' rfl)] at same
      simp only [List.cons_append, List.append_assoc, List.nil_append, List.cons.injEq,
        true_and] at same
      obtain ⟨rfl, tails⟩ := cancels element' _ _ normal' (within_cons _ (by decide))
        (within_cons _ (by decide)) same
      simp only [List.cons.injEq, true_and] at tails
      exact ⟨rfl, tails⟩
  | _ => simp [opener?] at opener

end TypeExpr

private theorem Property.signatureChars_cancel {member other : Property} {rest more : List Char}
    (cancels : member.type.Cancels) (normal : other.type.IsNormal) (silent : member.comment = none)
    (silent' : other.comment = none)
    (same : member.signatureChars ++ ';' :: rest = other.signatureChars ++ ';' :: more) :
    member = other ∧ rest = more := by
  obtain ⟨name, optional, type, comment⟩ := member
  obtain ⟨name', optional', type', comment'⟩ := other
  rw [Property.signatureChars, Property.signatureChars, List.append_assoc, List.append_assoc]
    at same
  have stops (optional : Bool) (text : List Char) :
      Stops Text.isNameRest ((if optional then ['?'] else []) ++ ':' :: text) := by
    cases optional <;> exact Text.stops_cons _ (by decide)
  rw [List.append_assoc, List.append_assoc, List.cons_append, List.cons_append] at same
  obtain ⟨rfl, marks⟩ := Text.propertyName_cancel (stops _ _) (stops _ _) same
  obtain ⟨rfl, types⟩ : optional = optional' ∧
      type.chars ++ ';' :: rest = type'.chars ++ ';' :: more := by
    cases optional <;> cases optional' <;> simp at marks ⊢ <;> exact marks
  obtain ⟨rfl, ends⟩ := cancels type' _ _ normal (within_cons _ (by decide))
    (within_cons _ (by decide)) types
  obtain rfl : comment = none := silent
  obtain rfl : comment' = none := silent'
  exact ⟨rfl, (List.cons.inj ends).2⟩

private theorem Property.memberChars_cancel {members others : List Property} {rest more : List Char}
    (cancels : ∀ member ∈ members, member.type.Cancels)
    (normal : ∀ other ∈ others, other.type.IsNormal)
    (silent : ∀ member ∈ members, member.comment = none)
    (silent' : ∀ other ∈ others, other.comment = none)
    (same : Property.memberChars members ++ '}' :: rest =
      Property.memberChars others ++ '}' :: more) :
    members = others ∧ rest = more := by
  have unclosed (member : Property) (members : List Property) (text tail : List Char) :
      Property.memberChars (member :: members) ++ text ≠ '}' :: tail := by
    intro same
    obtain ⟨name, optional, type, comment⟩ := member
    obtain ⟨c, word, chars, starts⟩ := Text.head_propertyName name
    rw [Property.memberChars, Property.signatureChars, chars] at same
    obtain rfl := (List.cons.inj same).1
    revert starts
    decide
  induction members generalizing others with
  | nil =>
    cases others with
    | nil => exact ⟨rfl, (List.cons.inj same).2⟩
    | cons other others => exact absurd same.symm (unclosed other others _ _)
  | cons member members ih =>
    cases others with
    | nil => exact absurd same (unclosed member members _ _)
    | cons other others =>
      rw [List.forall_mem_cons] at cancels normal silent silent'
      rw [Property.memberChars, Property.memberChars, List.append_assoc, List.append_assoc,
        List.cons_append, List.cons_append] at same
      obtain ⟨rfl, tails⟩ :=
        Property.signatureChars_cancel cancels.1 normal.1 silent.1 silent'.1 same
      obtain ⟨rfl, ends⟩ :=
        ih cancels.2 normal.2 silent.2 silent'.2 (List.cons.inj tails).2
      exact ⟨rfl, ends⟩

namespace TypeExpr

private theorem object_cancels {members : List Property}
    (normal : ∀ member ∈ members, member.type.IsNormal)
    (silent : ∀ member ∈ members, member.comment = none)
    (cancels : ∀ member ∈ members, member.type.Cancels) :
    (TypeExpr.object members).CoreCancels := by
  intro other rest more core' hrest hmore same
  have opener := opener?_eq ⟨.object normal silent, rfl, nofun⟩ core' same
  cases other with
  | object members' =>
    cases core'.1 with
    | object normal' silent' =>
      cases members with
      | nil =>
        cases members' with
        | nil =>
          rw [chars] at same
          exact ⟨rfl, List.append_cancel_left same⟩
        | cons member' members' => simp [chars] at same
      | cons member members =>
        cases members' with
        | nil => simp [chars] at same
        | cons member' members' =>
          simp only [chars, List.cons_append, List.append_assoc, List.nil_append,
            List.cons.injEq, true_and] at same
          obtain ⟨types, ends⟩ :=
            Property.memberChars_cancel cancels normal' silent silent' same
          exact ⟨by rw [types], ends⟩
  | _ => simp [opener?] at opener

/-- The cores of the alternatives of a normal type are told by their texts. -/
private theorem IsNormal.coreCancels {type : TypeExpr} (normal : type.IsNormal) :
    ∀ part ∈ type.alternatives, part.core.CoreCancels := by
  -- The induction carries the cores only: what follows the element of an array is a bracket, and
  -- with a bracket behind it a whole type is not told from its arrays.
  induction normal with
  | @reference path args name normal ih =>
    intro part hpart
    obtain rfl := List.mem_singleton.mp hpart
    exact named_cancels ⟨.reference name normal, rfl, nofun⟩ rfl
      fun arg harg => cancels_of_cores (ih arg harg)
  | keyword word =>
    intro part hpart
    obtain rfl := List.mem_singleton.mp hpart
    exact named_cancels ⟨.keyword word, rfl, nofun⟩ rfl nofun
  | stringLiteral value =>
    intro part hpart
    obtain rfl := List.mem_singleton.mp hpart
    exact stringLiteral_cancels value
  | union two normal narrow ih =>
    intro part hpart
    rw [alternatives_union two] at hpart
    refine ih part hpart part ?_
    rw [alternatives_of_narrow (narrow part hpart)]
    exact List.mem_singleton_self part
  | @array element normal ih =>
    intro part hpart
    obtain rfl := List.mem_singleton.mp hpart
    cases wide : element.isWideUnion with
    | true =>
      simp only [core, wide, if_true]
      exact group_cancels normal wide (cancels_of_cores ih)
    | false =>
      simp only [core, wide, Bool.false_eq_true, if_false]
      refine ih element ?_
      rw [alternatives_of_narrow wide]
      exact List.mem_singleton_self element
  | object normal silent ih =>
    intro part hpart
    obtain rfl := List.mem_singleton.mp hpart
    exact object_cancels normal silent fun member hmember => cancels_of_cores (ih member hmember)

private theorem IsNormal.eq_of_chars_eq {type other : TypeExpr} (normal : type.IsNormal)
    (normal' : other.IsNormal) (same : type.chars = other.chars) : type = other := by
  have closed : Within typeEnds [] := nofun
  refine (cancels_of_cores normal.coreCancels other [] [] normal' closed closed ?_).1
  rw [same]

/-- Plain types have the same text exactly when they have the same normal form. -/
theorem print_eq_iff_normalize_eq {type other : TypeExpr} (plain : type.IsPlain)
    (plain' : other.IsPlain) : type.print = other.print ↔ type.normalize = other.normalize := by
  have texts : type.print = other.print ↔ type.chars = other.chars := by
    unfold print
    exact String.ofList_inj
  rw [texts]
  constructor
  · intro same
    refine (isNormal_normalize plain).eq_of_chars_eq (isNormal_normalize plain') ?_
    rw [chars_normalize plain, chars_normalize plain', same]
  · intro same
    rw [← chars_normalize plain, ← chars_normalize plain', same]

def nestedPets : TypeExpr :=
  .array (.union [.union [.named ["Pet"], .keyword .null],
    .object [⟨"full name", true, .union [.keyword .string], some "as registered"⟩]])

def flatPets : TypeExpr :=
  .array (.union [.named ["Pet"], .keyword .null,
    .object [⟨"full name", true, .keyword .string, none⟩]])

theorem print_nestedPets :
    nestedPets.IsPlain ∧ flatPets.IsPlain ∧ nestedPets.print = flatPets.print := by
  have plain : nestedPets.IsPlain := by decide
  have plain' : flatPets.IsPlain := by decide
  exact ⟨plain, plain', (print_eq_iff_normalize_eq plain plain').mpr rfl⟩

end TypeExpr

end TypedRoutes.Declaration
