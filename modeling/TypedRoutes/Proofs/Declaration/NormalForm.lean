import TypedRoutes.Declaration.Type

/-!
Normal forms of type expressions: what is left of a type once the ways of writing a union that its
text does not show, and the comments of inline members, are taken out. A type and its normal form
have the same text.
-/

set_option autoImplicit false
set_option relaxedAutoImplicit false

namespace TypedRoutes.Declaration

/-- Induction over type expressions, with an assumption for every immediate part. -/
@[elab_as_elim, induction_eliminator]
theorem TypeExpr.induction {motive : TypeExpr → Prop}
    (reference : ∀ path args, (∀ arg ∈ args, motive arg) → motive (.reference path args))
    (union : ∀ members, (∀ member ∈ members, motive member) → motive (.union members))
    (keyword : ∀ word, motive (.keyword word))
    (stringLiteral : ∀ value, motive (.stringLiteral value))
    (array : ∀ element, motive element → motive (.array element))
    (object : ∀ members, (∀ member ∈ members, motive member.type) → motive (.object members))
    (raw : ∀ text, motive (.raw text)) (type : TypeExpr) : motive type :=
  @TypeExpr.rec motive (fun member => motive member.type) (fun types => ∀ type ∈ types, motive type)
    (fun members => ∀ member ∈ members, motive member.type)
    reference union keyword stringLiteral array object raw (fun _ _ _ _ part => part)
    (fun _ absent => nomatch absent) (fun _ _ first rest => List.forall_mem_cons.mpr ⟨first, rest⟩)
    (fun _ absent => nomatch absent) (fun _ _ first rest => List.forall_mem_cons.mpr ⟨first, rest⟩)
    type

mutual

def TypeExpr.nodes : TypeExpr → List TypeExpr
  | .reference path args => .reference path args :: TypeExpr.allNodes args
  | .union members => .union members :: TypeExpr.allNodes members
  | .keyword word => [.keyword word]
  | .stringLiteral value => [.stringLiteral value]
  | .array element => .array element :: element.nodes
  | .object members => .object members :: Property.allNodes members
  | .raw text => [.raw text]

def TypeExpr.allNodes : List TypeExpr → List TypeExpr
  | [] => []
  | type :: rest => type.nodes ++ TypeExpr.allNodes rest

def Property.allNodes : List Property → List TypeExpr
  | [] => []
  | ⟨_, _, type, _⟩ :: rest => type.nodes ++ Property.allNodes rest

end

/-- A path of identifiers that, when it stands alone, is not the word of a keyword. -/
def IsTypeName (path : List String) (args : List TypeExpr) : Prop :=
  path ≠ [] ∧ (∀ segment ∈ path, Text.isIdentifier segment = true) ∧
    (args = [] → ∀ keyword : Keyword, path ≠ [keyword.word])

def TypeExpr.isSingleUnion : TypeExpr → Bool
  | .union [_] => true
  | _ => false

def TypeExpr.IsPlainNode : TypeExpr → Prop
  | .reference path args => IsTypeName path args
  | .array element => element.isSingleUnion = false
  | .raw _ => False
  | _ => True

/--
A type without carried text, whose references are named by identifiers and not like keywords, and
whose arrays have no union of one member directly inside.
-/
def TypeExpr.IsPlain (type : TypeExpr) : Prop := ∀ node ∈ type.nodes, node.IsPlainNode

instance (path : List String) : Decidable (∀ keyword : Keyword, path ≠ [keyword.word]) :=
  decidable_of_iff (∀ keyword ∈ Keyword.all, path ≠ [keyword.word])
    ⟨fun h keyword => h keyword (by cases keyword <;> decide), fun h keyword _ => h keyword⟩

instance (path : List String) (args : List TypeExpr) : Decidable (IsTypeName path args) :=
  inferInstanceAs (Decidable (_ ∧ _ ∧ _))

instance : DecidablePred TypeExpr.IsPlainNode
  | .reference path args => inferInstanceAs (Decidable (IsTypeName path args))
  | .array element => inferInstanceAs (Decidable (element.isSingleUnion = false))
  | .raw _ => inferInstanceAs (Decidable False)
  | .union _ | .keyword _ | .stringLiteral _ | .object _ => inferInstanceAs (Decidable True)

instance : DecidablePred TypeExpr.IsPlain := fun type =>
  inferInstanceAs (Decidable (∀ node ∈ type.nodes, node.IsPlainNode))

def TypeExpr.alternatives : TypeExpr → List TypeExpr
  | .union (first :: second :: rest) => first :: second :: rest
  | type => [type]

def TypeExpr.unionOf : List TypeExpr → TypeExpr
  | [] => .keyword .never
  | [type] => type
  | first :: second :: rest => .union (first :: second :: rest)

mutual

/--
The normal form of a type: an empty union is `never`, a union of one member is the member, the
unions inside a union are spliced into it, and members of inline objects have no comments.
-/
def TypeExpr.normalize : TypeExpr → TypeExpr
  | .reference path args => .reference path (TypeExpr.normalizeAll args)
  | .union members => .unionOf ((TypeExpr.normalizeAll members).flatMap TypeExpr.alternatives)
  | .keyword word => .keyword word
  | .stringLiteral value => .stringLiteral value
  | .array element => .array element.normalize
  | .object members => .object (Property.normalizeAll members)
  | .raw text => .raw text

def TypeExpr.normalizeAll : List TypeExpr → List TypeExpr
  | [] => []
  | type :: rest => type.normalize :: TypeExpr.normalizeAll rest

def Property.normalizeAll : List Property → List Property
  | [] => []
  | ⟨name, optional, type, _⟩ :: rest =>
    ⟨name, optional, type.normalize, none⟩ :: Property.normalizeAll rest

end

/-- A member with a normal type and without a comment. -/
def Property.normalize (member : Property) : Property :=
  ⟨member.name, member.optional, member.type.normalize, none⟩

private theorem TypeExpr.normalizeAll_eq_map (types : List TypeExpr) :
    TypeExpr.normalizeAll types = types.map TypeExpr.normalize := by
  induction types with
  | nil => rfl
  | cons type rest ih => rw [TypeExpr.normalizeAll, ih, List.map_cons]

private theorem Property.normalizeAll_eq_map (members : List Property) :
    Property.normalizeAll members = members.map Property.normalize := by
  induction members with
  | nil => rfl
  | cons member rest ih =>
    obtain ⟨name, optional, type, comment⟩ := member
    rw [Property.normalizeAll, ih, List.map_cons]
    rfl

private theorem TypeExpr.mem_allNodes {types : List TypeExpr} {type node : TypeExpr}
    (htype : type ∈ types) (hnode : node ∈ type.nodes) : node ∈ TypeExpr.allNodes types := by
  induction types with
  | nil => nomatch htype
  | cons first rest ih =>
    rw [TypeExpr.allNodes, List.mem_append]
    obtain rfl | later := List.mem_cons.mp htype
    · exact .inl hnode
    · exact .inr (ih later)

theorem TypeExpr.exists_of_mem_allNodes {types : List TypeExpr} {node : TypeExpr}
    (hnode : node ∈ TypeExpr.allNodes types) : ∃ type ∈ types, node ∈ type.nodes := by
  induction types with
  | nil => nomatch hnode
  | cons first rest ih =>
    rw [TypeExpr.allNodes, List.mem_append] at hnode
    obtain here | later := hnode
    · exact ⟨first, List.mem_cons_self, here⟩
    · obtain ⟨type, htype, inside⟩ := ih later
      exact ⟨type, List.mem_cons_of_mem _ htype, inside⟩

private theorem Property.mem_allNodes {members : List Property} {member : Property}
    {node : TypeExpr} (hmember : member ∈ members) (hnode : node ∈ member.type.nodes) :
    node ∈ Property.allNodes members := by
  induction members with
  | nil => nomatch hmember
  | cons first rest ih =>
    obtain ⟨name, optional, type, comment⟩ := first
    rw [Property.allNodes, List.mem_append]
    obtain rfl | later := List.mem_cons.mp hmember
    · exact .inl hnode
    · exact .inr (ih later)

theorem Property.exists_of_mem_allNodes {members : List Property} {node : TypeExpr}
    (hnode : node ∈ Property.allNodes members) : ∃ member ∈ members, node ∈ member.type.nodes := by
  induction members with
  | nil => nomatch hnode
  | cons first rest ih =>
    obtain ⟨name, optional, type, comment⟩ := first
    rw [Property.allNodes, List.mem_append] at hnode
    obtain here | later := hnode
    · exact ⟨_, List.mem_cons_self, here⟩
    · obtain ⟨member, hmember, inside⟩ := ih later
      exact ⟨member, List.mem_cons_of_mem _ hmember, inside⟩

namespace TypeExpr

theorem mem_nodes_self (type : TypeExpr) : type ∈ type.nodes := by
  cases type <;> exact List.mem_cons_self

theorem nodes_arg_subset (path : List String) {args : List TypeExpr} {arg : TypeExpr}
    (harg : arg ∈ args) : arg.nodes ⊆ (TypeExpr.reference path args).nodes := by
  intro node hnode
  exact List.mem_cons_of_mem _ (mem_allNodes harg hnode)

theorem nodes_member_subset {members : List TypeExpr} {member : TypeExpr}
    (hmember : member ∈ members) : member.nodes ⊆ (TypeExpr.union members).nodes := by
  intro node hnode
  exact List.mem_cons_of_mem _ (mem_allNodes hmember hnode)

theorem nodes_element_subset (element : TypeExpr) :
    element.nodes ⊆ (TypeExpr.array element).nodes :=
  List.subset_cons_self _ _

theorem nodes_property_subset {members : List Property} {member : Property}
    (hmember : member ∈ members) : member.type.nodes ⊆ (TypeExpr.object members).nodes := by
  intro node hnode
  exact List.mem_cons_of_mem _ (Property.mem_allNodes hmember hnode)

theorem nodes_subset_of_mem {type part : TypeExpr} (hpart : part ∈ type.nodes) :
    part.nodes ⊆ type.nodes := by
  induction type with
  | reference path args ih =>
    obtain rfl | inside := List.mem_cons.mp hpart
    · exact List.Subset.refl _
    · obtain ⟨arg, harg, inside⟩ := exists_of_mem_allNodes inside
      exact List.Subset.trans (ih arg harg inside) (nodes_arg_subset path harg)
  | union members ih =>
    obtain rfl | inside := List.mem_cons.mp hpart
    · exact List.Subset.refl _
    · obtain ⟨member, hmember, inside⟩ := exists_of_mem_allNodes inside
      exact List.Subset.trans (ih member hmember inside) (nodes_member_subset hmember)
  | array element ih =>
    obtain rfl | inside := List.mem_cons.mp hpart
    · exact List.Subset.refl _
    · exact List.Subset.trans (ih inside) (nodes_element_subset element)
  | object members ih =>
    obtain rfl | inside := List.mem_cons.mp hpart
    · exact List.Subset.refl _
    · obtain ⟨member, hmember, inside⟩ := Property.exists_of_mem_allNodes inside
      exact List.Subset.trans (ih member hmember inside) (nodes_property_subset hmember)
  | keyword word | stringLiteral value | raw text =>
    rw [List.mem_singleton.mp hpart]
    exact List.Subset.refl _

theorem IsPlain.reference {path : List String} {args : List TypeExpr}
    (h : (TypeExpr.reference path args).IsPlain) :
    IsTypeName path args ∧ ∀ arg ∈ args, arg.IsPlain := by
  have name := h (.reference path args) (mem_nodes_self _)
  exact ⟨name, fun arg harg node hnode => h node (nodes_arg_subset path harg hnode)⟩

theorem IsPlain.union {members : List TypeExpr} (h : (TypeExpr.union members).IsPlain) :
    ∀ member ∈ members, member.IsPlain := by
  intro member hmember node hnode
  exact h node (nodes_member_subset hmember hnode)

theorem IsPlain.array {element : TypeExpr} (h : (TypeExpr.array element).IsPlain) :
    element.isSingleUnion = false ∧ element.IsPlain := by
  have single := h (.array element) (mem_nodes_self _)
  exact ⟨single, fun node hnode => h node (nodes_element_subset element hnode)⟩

theorem IsPlain.object {members : List Property} (h : (TypeExpr.object members).IsPlain) :
    ∀ member ∈ members, member.type.IsPlain := by
  intro member hmember node hnode
  exact h node (nodes_property_subset hmember hnode)

private theorem not_isPlain_raw (text : String) : ¬ (TypeExpr.raw text).IsPlain := by
  intro h
  exact h (.raw text) (mem_nodes_self _)

theorem joinedChars_cons (separator : List Char) (type : TypeExpr) {rest : List TypeExpr}
    (h : rest ≠ []) :
    joinedChars separator (type :: rest) =
      type.chars ++ (separator ++ joinedChars separator rest) := by
  cases rest with
  | nil => exact absurd rfl h
  | cons next more => rw [joinedChars]

private theorem joinedChars_append (separator : List Char) {types more : List TypeExpr}
    (htypes : types ≠ []) (hmore : more ≠ []) :
    joinedChars separator (types ++ more) =
      joinedChars separator types ++ (separator ++ joinedChars separator more) := by
  induction types with
  | nil => exact absurd rfl htypes
  | cons type rest ih =>
    by_cases last : rest = []
    · rw [last, List.singleton_append, joinedChars_cons separator type hmore]
      rfl
    · have more' : rest ++ more ≠ [] := by simp [last]
      rw [List.cons_append, joinedChars_cons separator type more', ih last,
        joinedChars_cons separator type last]
      simp only [List.append_assoc]

private theorem joinedChars_flatMap (separator : List Char) {types : List TypeExpr}
    (parts : TypeExpr → List TypeExpr) (nonempty : ∀ type, parts type ≠ [])
    (same : ∀ type ∈ types, joinedChars separator (parts type) = type.chars) :
    joinedChars separator (types.flatMap parts) = joinedChars separator types := by
  induction types with
  | nil => rfl
  | cons type rest ih =>
    obtain ⟨first, others⟩ := List.forall_mem_cons.mp same
    rw [List.flatMap_cons]
    by_cases last : rest = []
    · rw [last, List.flatMap_nil, List.append_nil]
      exact first
    · have more : rest.flatMap parts ≠ [] := by
        obtain ⟨next, tail, rfl⟩ := List.exists_cons_of_ne_nil last
        simp [nonempty next]
      rw [joinedChars_append separator (nonempty type) more, first, ih others,
        joinedChars_cons separator type last]

theorem joinedChars_map (separator : List Char) (f : TypeExpr → TypeExpr) {types : List TypeExpr}
    (same : ∀ type ∈ types, (f type).chars = type.chars) :
    joinedChars separator (types.map f) = joinedChars separator types := by
  rw [List.map_eq_flatMap]
  exact joinedChars_flatMap separator _ (by simp) same

theorem alternatives_ne_nil (type : TypeExpr) : type.alternatives ≠ [] := by
  unfold alternatives
  split <;> simp

theorem joinedChars_alternatives (type : TypeExpr) :
    joinedChars [' ', '|', ' '] type.alternatives = type.chars := by
  unfold alternatives
  split <;> rfl

private theorem chars_unionOf {types : List TypeExpr} (h : types ≠ []) :
    (unionOf types).chars = joinedChars [' ', '|', ' '] types := by
  match types, h with
  | [type], _ => rfl
  | first :: second :: rest, _ => rfl

private theorem isWideUnion_normalize {type : TypeExpr} (single : type.isSingleUnion = false) :
    type.normalize.isWideUnion = type.isWideUnion := by
  cases type with
  | union members =>
    match members, single with
    | [], _ => rfl
    | first :: second :: rest, _ =>
      obtain ⟨a, as, first⟩ := List.exists_cons_of_ne_nil (alternatives_ne_nil first.normalize)
      obtain ⟨b, bs, second⟩ := List.exists_cons_of_ne_nil (alternatives_ne_nil second.normalize)
      simp only [normalize, normalizeAll_eq_map, List.map_cons, List.flatMap_cons, first, second,
        List.cons_append]
      cases as <;> rfl
  | _ => rfl

end TypeExpr

theorem Property.memberChars_map (f : Property → Property) {members : List Property}
    (same : ∀ member ∈ members, (f member).signatureChars = member.signatureChars) :
    Property.memberChars (members.map f) = Property.memberChars members := by
  induction members with
  | nil => rfl
  | cons member rest ih =>
    obtain ⟨first, others⟩ := List.forall_mem_cons.mp same
    rw [List.map_cons, Property.memberChars, Property.memberChars, first, ih others]

/-- A plain type and its normal form have the same text. -/
theorem TypeExpr.chars_normalize {type : TypeExpr} (plain : type.IsPlain) :
    type.normalize.chars = type.chars := by
  induction type with
  | reference path args ih =>
    have same := joinedChars_map [',', ' '] normalize fun arg harg =>
      ih arg harg (plain.reference.2 arg harg)
    rw [normalize, normalizeAll_eq_map]
    cases args with
    | nil => rfl
    | cons arg rest =>
      rw [List.map_cons] at same ⊢
      rw [chars, chars, same]
  | union members ih =>
    rw [normalize, normalizeAll_eq_map]
    cases members with
    | nil => rfl
    | cons member rest =>
      have more : ((member :: rest).map normalize).flatMap alternatives ≠ [] := by
        simp [alternatives_ne_nil]
      rw [chars_unionOf more, joinedChars_flatMap _ _ alternatives_ne_nil
        fun type _ => joinedChars_alternatives type, joinedChars_map _ normalize
        fun type htype => ih type htype (plain.union type htype), chars]
  | array element ih =>
    obtain ⟨single, inner⟩ := plain.array
    rw [normalize, chars, chars, ih inner, isWideUnion_normalize single]
  | object members ih =>
    rw [normalize, Property.normalizeAll_eq_map]
    have same : ∀ member ∈ members, member.normalize.signatureChars = member.signatureChars := by
      intro member hmember
      have type := ih member hmember (plain.object member hmember)
      obtain ⟨name, optional, shape, comment⟩ := member
      rw [Property.normalize, Property.signatureChars, Property.signatureChars, type]
    cases members with
    | nil => rfl
    | cons member rest =>
      have chars' := Property.memberChars_map Property.normalize same
      rw [List.map_cons] at chars' ⊢
      rw [chars, chars, chars']
  | keyword word => rfl
  | stringLiteral value => rfl
  | raw text => rfl

/--
Types in normal form: unions are wide and have no wide union as a member, and the members of inline
objects have no comments.
-/
inductive TypeExpr.IsNormal : TypeExpr → Prop
  | reference {path : List String} {args : List TypeExpr} (name : IsTypeName path args)
      (normal : ∀ arg ∈ args, IsNormal arg) : IsNormal (.reference path args)
  | keyword (word : Keyword) : IsNormal (.keyword word)
  | stringLiteral (value : String) : IsNormal (.stringLiteral value)
  | union {members : List TypeExpr} (two : 2 ≤ members.length)
      (normal : ∀ member ∈ members, IsNormal member)
      (narrow : ∀ member ∈ members, member.isWideUnion = false) : IsNormal (.union members)
  | array {element : TypeExpr} (normal : IsNormal element) : IsNormal (.array element)
  | object {members : List Property} (normal : ∀ member ∈ members, IsNormal member.type)
      (silent : ∀ member ∈ members, member.comment = none) : IsNormal (.object members)

namespace TypeExpr

theorem alternatives_of_narrow {type : TypeExpr} (narrow : type.isWideUnion = false) :
    type.alternatives = [type] := by
  unfold alternatives
  split
  · simp [isWideUnion] at narrow
  · rfl

theorem isWideUnion_union {members : List TypeExpr} (two : 2 ≤ members.length) :
    (TypeExpr.union members).isWideUnion = true := by
  match members, two with
  | first :: second :: rest, _ => rfl

theorem alternatives_union {members : List TypeExpr} (two : 2 ≤ members.length) :
    (TypeExpr.union members).alternatives = members := by
  match members, two with
  | first :: second :: rest, _ => rfl

theorem unionOf_alternatives (type : TypeExpr) : unionOf type.alternatives = type := by
  unfold alternatives
  split <;> rfl

theorem IsNormal.alternatives {type : TypeExpr} (normal : type.IsNormal) :
    ∀ part ∈ type.alternatives, part.IsNormal ∧ part.isWideUnion = false := by
  intro part hpart
  cases wide : type.isWideUnion with
  | false =>
    rw [alternatives_of_narrow wide, List.mem_singleton] at hpart
    rw [hpart]
    exact ⟨normal, wide⟩
  | true =>
    cases normal with
    | union two normal narrow =>
      rw [alternatives_union two] at hpart
      exact ⟨normal part hpart, narrow part hpart⟩
    | _ => simp [isWideUnion] at wide

private theorem isNormal_unionOf {types : List TypeExpr}
    (h : ∀ type ∈ types, type.IsNormal ∧ type.isWideUnion = false) : (unionOf types).IsNormal := by
  match types, h with
  | [], _ => exact .keyword .never
  | [type], h => exact (h type (List.mem_singleton_self type)).1
  | first :: second :: rest, h =>
    exact .union (by simp) (fun type htype => (h type htype).1) fun type htype => (h type htype).2

theorem isNormal_normalize {type : TypeExpr} (plain : type.IsPlain) : type.normalize.IsNormal := by
  induction type with
  | reference path args ih =>
    obtain ⟨⟨nonempty, identifiers, free⟩, inner⟩ := plain.reference
    rw [normalize, normalizeAll_eq_map]
    refine .reference ⟨nonempty, identifiers, fun none => free (List.map_eq_nil_iff.mp none)⟩ ?_
    intro arg harg
    obtain ⟨source, hsource, rfl⟩ := List.mem_map.mp harg
    exact ih source hsource (inner source hsource)
  | union members ih =>
    rw [normalize, normalizeAll_eq_map]
    refine isNormal_unionOf fun part hpart => ?_
    obtain ⟨member, hmember, hpart⟩ := List.mem_flatMap.mp hpart
    obtain ⟨source, hsource, rfl⟩ := List.mem_map.mp hmember
    exact (ih source hsource (plain.union source hsource)).alternatives part hpart
  | keyword word => exact .keyword word
  | stringLiteral value => exact .stringLiteral value
  | array element ih =>
    rw [normalize]
    exact .array (ih plain.array.2)
  | object members ih =>
    rw [normalize, Property.normalizeAll_eq_map]
    refine .object (fun member hmember => ?_) (fun member hmember => ?_) <;>
      obtain ⟨source, hsource, rfl⟩ := List.mem_map.mp hmember
    · exact ih source hsource (plain.object source hsource)
    · rfl
  | raw text => exact absurd plain (not_isPlain_raw text)

end TypeExpr

end TypedRoutes.Declaration
