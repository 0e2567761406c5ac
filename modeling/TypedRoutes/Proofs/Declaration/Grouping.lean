import TypedRoutes.Proofs.Declaration.Unambiguous

/-!
Which arrays stand with their bars in parentheses. The text of a type is read from the left with
the depth of the brackets around each character; a bar at depth zero, outside string literals, is
exposed. The printer puts the element of an array in parentheses when it is a union of two or more
members, so that an exposed bar is left bare exactly where such a union is wrapped in unions of one
member.
-/

set_option autoImplicit false
set_option relaxedAutoImplicit false

namespace TypedRoutes.Declaration

/-- Where a reader stands in a text: in code, in a string literal or behind its backslash, and in
each case how many brackets are open. -/
inductive Scan where
  | code (depth : Nat)
  | literal (depth : Nat)
  | escape (depth : Nat)
  deriving DecidableEq, Repr

namespace Scan

/-- The brackets that open a group; the square ones behind an array enclose nothing. -/
def openers : List Char := ['(', '<', '{']

/-- The brackets that close a group. -/
def closers : List Char := [')', '>', '}']

def step : Scan → Char → Scan
  | .code depth, c =>
    if c = '"' then .literal depth
    else if c ∈ openers then .code (depth + 1)
    else if c ∈ closers then .code (depth - 1)
    else .code depth
  | .literal depth, c =>
    if c = '"' then .code depth
    else if c = '\\' then .escape depth
    else .literal depth
  | .escape depth, _ => .literal depth

/-- Whether a bar is read outside all groups and string literals. -/
def exposesBar : Scan → List Char → Bool
  | _, [] => false
  | scan, c :: rest => (scan == .code 0 && c == '|') || exposesBar (scan.step c) rest

private theorem exposesBar_append (scan : Scan) (text more : List Char) :
    scan.exposesBar (text ++ more) =
      (scan.exposesBar text || (text.foldl step scan).exposesBar more) := by
  induction text generalizing scan with
  | nil => rfl
  | cons c rest ih =>
    rw [List.cons_append, exposesBar, exposesBar, ih, List.foldl_cons, Bool.or_assoc]

end Scan

/-- Whether a text has a bar outside all its groups and string literals. -/
def ExposesBar (text : String) : Prop := Scan.exposesBar (.code 0) text.toList = true

instance (text : String) : Decidable (ExposesBar text) :=
  inferInstanceAs (Decidable (_ = true))

/--
A text that closes what it opens, and that shows a bar or not where it stands outside of all groups.
Inside a group it shows none.
-/
structure Balanced (shows : Bool) (text : List Char) : Prop where
  closed : ∀ depth, text.foldl Scan.step (.code depth) = .code depth
  exposed : ∀ depth, Scan.exposesBar (.code depth) text = (depth == 0 && shows)

namespace Balanced

variable {shows other : Bool} {text more : List Char}

theorem append (first : Balanced shows text) (second : Balanced other more) :
    Balanced (shows || other) (text ++ more) := by
  constructor
  · intro depth
    rw [List.foldl_append, first.closed, second.closed]
  · intro depth
    rw [Scan.exposesBar_append, first.closed, first.exposed, second.exposed,
      Bool.and_or_distrib_left]

def signs : List Char := '"' :: '|' :: (Scan.openers ++ Scan.closers)

private theorem of_quiet (quiet : text.all (fun c => !signs.contains c) = true) :
    Balanced false text := by
  induction text with
  | nil => exact ⟨fun _ => rfl, fun _ => by simp [Scan.exposesBar]⟩
  | cons c rest ih =>
    rw [List.all_cons, Bool.and_eq_true] at quiet
    obtain ⟨first, others⟩ := quiet
    have absent : c ∉ signs := by simpa using first
    simp only [signs, List.mem_cons, List.mem_append, not_or] at absent
    obtain ⟨quote, bar, opens, closes⟩ := absent
    have stays : ∀ depth, (Scan.code depth).step c = .code depth := by
      intro depth
      simp only [Scan.step, if_neg quote, if_neg opens, if_neg closes]
    constructor
    · intro depth
      rw [List.foldl_cons, stays]
      exact (ih others).closed depth
    · intro depth
      rw [Scan.exposesBar, stays, (ih others).exposed]
      simp [bar]

private theorem of_rejected {p : Char → Bool} (rejected : signs.any p = false)
    (accepted : text.all p = true) : Balanced false text := by
  refine of_quiet (List.all_eq_true.mpr fun c hc => ?_)
  have accepts := List.all_eq_true.mp accepted c hc
  have absent : c ∉ signs := fun member => List.any_eq_false.mp rejected c member accepts
  simpa using absent

theorem bar : Balanced true [' ', '|', ' '] := by
  constructor
  · intro depth
    rfl
  · intro depth
    cases depth with
    | zero => rfl
    | succ depth => simp [Scan.exposesBar, Scan.step, Scan.openers, Scan.closers]

private theorem group {opener closer : Char} (opens : opener ∈ Scan.openers)
    (closes : closer ∈ Scan.closers) (inner : Balanced shows text) :
    Balanced false (opener :: (text ++ [closer])) := by
  have down : ∀ depth, (Scan.code depth).step opener = .code (depth + 1) := by
    intro depth
    have quote : opener ≠ '"' := by
      rintro rfl
      exact absurd opens (by decide)
    simp only [Scan.step, if_neg quote, if_pos opens]
  have up : ∀ depth, (Scan.code (depth + 1)).step closer = .code depth := by
    intro depth
    have quote : closer ≠ '"' := by
      rintro rfl
      exact absurd closes (by decide)
    have apart : closer ∉ Scan.openers := by
      intro opens'
      have disjoint : Scan.closers.all (fun c => !Scan.openers.contains c) = true := by decide
      have absent := List.all_eq_true.mp disjoint closer closes
      simp [opens'] at absent
    simp only [Scan.step, if_neg quote, if_neg apart, if_pos closes, Nat.add_sub_cancel]
  constructor
  · intro depth
    rw [List.foldl_cons, down, List.foldl_append, inner.closed, List.foldl_cons, up, List.foldl_nil]
  · intro depth
    have noBar : opener ≠ '|' := by
      rintro rfl
      exact absurd opens (by decide)
    rw [Scan.exposesBar, down, Scan.exposesBar_append, inner.closed, inner.exposed]
    simp [Scan.exposesBar, noBar]

end Balanced

private theorem scan_escapeInLiteral (depth : Nat) (c : Char) :
    (Text.escapeInLiteral c).foldl Scan.step (.literal depth) = .literal depth ∧
      Scan.exposesBar (.literal depth) (Text.escapeInLiteral c) = false := by
  have plain : ∀ d, d ≠ '"' → d ≠ '\\' → (Scan.literal depth).step d = .literal depth := by
    intro d quote backslash
    simp only [Scan.step, if_neg quote, if_neg backslash]
  have digit : ∀ n, (Scan.literal depth).step (Text.hexDigit (n % 16)) = .literal depth := by
    intro n
    have digits : ∀ m < 16, Text.hexDigit m ≠ '"' ∧ Text.hexDigit m ≠ '\\' := by decide
    obtain ⟨quote, backslash⟩ := digits (n % 16) (Nat.mod_lt n (by omega))
    exact plain _ quote backslash
  have escape : (Scan.literal depth).step '\\' = .escape depth := rfl
  have escaped : ∀ d, (Scan.escape depth).step d = .literal depth := fun _ => rfl
  have hidden : (Scan.literal depth == .code 0) = false ∧ (Scan.escape depth == .code 0) = false :=
    ⟨rfl, rfl⟩
  unfold Text.escapeInLiteral
  split_ifs with quote backslash feed carriage tab control
  case neg => simp [Scan.exposesBar, plain c quote backslash, hidden]
  all_goals simp [Scan.exposesBar, Text.hexQuad, escape, escaped, digit, hidden]

theorem Balanced.quoteChars (text : List Char) : Balanced false (Text.quoteChars text) := by
  have inside : ∀ depth,
      (text.flatMap Text.escapeInLiteral).foldl Scan.step (.literal depth) = .literal depth ∧
        Scan.exposesBar (.literal depth) (text.flatMap Text.escapeInLiteral) = false := by
    intro depth
    induction text with
    | nil => exact ⟨rfl, rfl⟩
    | cons c rest ih =>
      obtain ⟨stays, silent⟩ := scan_escapeInLiteral depth c
      rw [List.flatMap_cons, List.foldl_append, Scan.exposesBar_append, stays, silent]
      exact ih
  have opens : ∀ depth, (Scan.code depth).step '"' = .literal depth := fun _ => rfl
  have ends : ∀ depth, (Scan.literal depth).step '"' = .code depth := fun _ => rfl
  unfold Text.quoteChars
  constructor
  · intro depth
    rw [List.foldl_cons, opens, List.foldl_append, (inside depth).1, List.foldl_cons, ends,
      List.foldl_nil]
  · intro depth
    rw [Scan.exposesBar, opens, Scan.exposesBar_append, (inside depth).1, (inside depth).2]
    simp [Scan.exposesBar]

/-- What a single node has to satisfy so that its text is known: no carried text, no odd names. -/
def TypeExpr.IsNamedNode : TypeExpr → Prop
  | .reference path _ => ∀ segment ∈ path, Text.isIdentifier segment = true
  | .raw _ => False
  | _ => True

/-- A type without carried text in which all references are named by identifiers. -/
def TypeExpr.IsNamed (type : TypeExpr) : Prop := ∀ node ∈ type.nodes, node.IsNamedNode

instance : DecidablePred TypeExpr.IsNamedNode
  | .reference path _ => inferInstanceAs (Decidable (∀ segment ∈ path, _ = true))
  | .raw _ => inferInstanceAs (Decidable False)
  | .array _ | .union _ | .keyword _ | .stringLiteral _ | .object _ =>
    inferInstanceAs (Decidable True)

instance : DecidablePred TypeExpr.IsNamed := fun type =>
  inferInstanceAs (Decidable (∀ node ∈ type.nodes, node.IsNamedNode))

/-- The type that is left when the unions of one member around it are taken off. -/
def TypeExpr.unwrap : TypeExpr → TypeExpr
  | .union [member] => member.unwrap
  | type => type

def TypeExpr.showsBar : TypeExpr → Bool
  | .union [] => false
  | .union [member] => member.showsBar
  | .union (_ :: _ :: _) => true
  | .array element => !element.isWideUnion && element.showsBar
  | _ => false

namespace TypeExpr

theorem IsNamed.mono {type part : TypeExpr} (named : type.IsNamed) (sub : part.nodes ⊆ type.nodes) :
    part.IsNamed :=
  fun node hnode => named node (sub hnode)

private theorem balanced_name {name : String} (identifier : Text.isIdentifier name = true) :
    Balanced false name.toList := by
  obtain ⟨-, -, -, -, all⟩ := Text.toList_of_isIdentifier identifier
  exact Balanced.of_rejected (by decide) all

private theorem balanced_pathChars {path : List String}
    (identifiers : ∀ segment ∈ path, Text.isIdentifier segment = true) :
    Balanced false (pathChars path) := by
  by_cases nonempty : path = []
  · rw [nonempty]
    exact Balanced.of_quiet (by decide)
  · obtain ⟨-, all⟩ := pathChars_identifiers nonempty identifiers
    exact Balanced.of_rejected (by decide) all

private theorem balanced_propertyName (name : String) :
    Balanced false (Text.propertyName name).toList := by
  obtain ⟨bare, chars⟩ | ⟨-, chars⟩ := Text.toList_propertyName name
  · rw [chars]
    exact balanced_name bare
  · rw [chars]
    exact Balanced.quoteChars _

/-- Joined types show a bar when one of them does, or when the separator that stands between two
of them does. -/
private theorem balanced_joinedChars {separator : List Char} {shows : Bool}
    (hseparator : Balanced shows separator) {types : List TypeExpr}
    (balanced : ∀ type ∈ types, Balanced type.showsBar type.chars) :
    Balanced (types.any showsBar || (decide (2 ≤ types.length) && shows))
      (joinedChars separator types) := by
  induction types with
  | nil => exact Balanced.of_quiet rfl
  | cons type rest ih =>
    obtain ⟨first, others⟩ := List.forall_mem_cons.mp balanced
    cases rest with
    | nil => simpa [joinedChars] using first
    | cons next more =>
      have joined := first.append (hseparator.append (ih others))
      rw [joinedChars]
      cases shows with
      | true => simpa using joined
      | false => simpa using joined

private theorem balanced_signatureChars {member : Property}
    (balanced : Balanced member.type.showsBar member.type.chars) :
    Balanced member.type.showsBar member.signatureChars := by
  obtain ⟨name, optional, type, comment⟩ := member
  have mark : Balanced false ((if optional then ['?'] else []) ++ [':', ' ']) := by
    refine Balanced.of_quiet ?_
    cases optional <;> decide
  have signature := (balanced_propertyName name).append (mark.append balanced)
  rw [Property.signatureChars]
  simpa using signature

private theorem balanced_memberChars {members : List Property}
    (balanced : ∀ member ∈ members, Balanced member.type.showsBar member.type.chars) :
    Balanced (members.any (·.type.showsBar)) (Property.memberChars members) := by
  induction members with
  | nil => exact Balanced.of_quiet (by decide)
  | cons member rest ih =>
    obtain ⟨first, others⟩ := List.forall_mem_cons.mp balanced
    have semicolon : Balanced false [';', ' '] := Balanced.of_quiet (by decide)
    have joined := (balanced_signatureChars first).append (semicolon.append (ih others))
    rw [Property.memberChars]
    simpa using joined

private theorem chars_array (element : TypeExpr) :
    (TypeExpr.array element).chars =
      (if element.isWideUnion then '(' :: (element.chars ++ [')']) else element.chars) ++
        ['[', ']'] := by
  rw [chars]
  split <;> simp

/-- The text of a type closes what it opens, and shows a bar exactly when the type says so. -/
private theorem balanced_chars {type : TypeExpr} (named : type.IsNamed) :
    Balanced type.showsBar type.chars := by
  induction type with
  | reference path args ih =>
    have name := balanced_pathChars (named _ (mem_nodes_self _))
    have comma : Balanced false [',', ' '] := Balanced.of_quiet (by decide)
    have inner := balanced_joinedChars comma fun arg harg =>
      ih arg harg (named.mono (nodes_arg_subset path harg))
    rw [chars_of_spelling? rfl]
    cases args with
    | nil => simpa [argumentChars, showsBar] using name
    | cons arg args => exact name.append (inner.group (by decide) (by decide))
  | union members ih =>
    have inner := balanced_joinedChars Balanced.bar fun member hmember =>
      ih member hmember (named.mono (nodes_member_subset hmember))
    -- an empty union is a word, and a union of one member has the text of the member
    rcases members with _ | ⟨member, _ | ⟨second, rest⟩⟩
    · exact Balanced.of_quiet (by decide)
    · simpa [chars, showsBar, joinedChars] using inner
    · simpa [chars, showsBar] using inner
  | keyword word => exact balanced_name (isIdentifier_word word)
  | stringLiteral value => exact Balanced.quoteChars value.toList
  | array element ih =>
    have inner := ih (named.mono (nodes_element_subset element))
    have brackets : Balanced false ['[', ']'] := Balanced.of_quiet (by decide)
    rw [chars_array, showsBar]
    cases wide : element.isWideUnion with
    | true => exact (inner.group (by decide) (by decide)).append brackets
    | false => simpa using inner.append brackets
  | object members ih =>
    have inner := balanced_memberChars fun member hmember =>
      ih member hmember (named.mono (nodes_property_subset hmember))
    have space : Balanced false [' '] := Balanced.of_quiet (by decide)
    have empty : Balanced false [] := Balanced.of_quiet rfl
    cases members with
    | nil => exact empty.group (by decide) (by decide)
    | cons member rest => exact (space.append inner).group (by decide) (by decide)
  | raw text => exact absurd (named _ (mem_nodes_self _)) id

private theorem exposesBar_print_iff {type : TypeExpr} (named : type.IsNamed) :
    ExposesBar type.print ↔ type.showsBar = true := by
  have shown := (balanced_chars named).exposed 0
  rw [ExposesBar, print, String.toList_ofList, shown]
  simp

private theorem showsBar_of_isWideUnion_unwrap {type : TypeExpr}
    (wide : type.unwrap.isWideUnion = true) :
    type.showsBar = true := by
  induction type with
  | union members ih =>
    match members, wide with
    | [member], wide =>
      rw [showsBar]
      exact ih member (List.mem_singleton_self member) wide
    | first :: second :: rest, _ => rfl
  | _ => simp [unwrap, isWideUnion] at wide

private theorem isWideUnion_unwrap_of_showsBar {type : TypeExpr}
    (groups : ∀ element, .array element ∈ type.nodes →
      element.unwrap.isWideUnion = true → element.isWideUnion = true)
    (shows : type.showsBar = true) : type.unwrap.isWideUnion = true := by
  induction type with
  | union members ih =>
    match members, shows with
    | [member], shows =>
      rw [unwrap]
      rw [showsBar] at shows
      have part := List.mem_singleton_self member
      exact ih member part (fun element h => groups element (nodes_member_subset part h)) shows
    | first :: second :: rest, _ => rfl
  | array element ih =>
    simp only [showsBar, Bool.and_eq_true, Bool.not_eq_true'] at shows
    obtain ⟨narrow, shows⟩ := shows
    -- what shows a bar in the element is a wide union, which would have its parentheses
    have wide := ih (fun inner h => groups inner (nodes_element_subset element h)) shows
    rw [groups element (mem_nodes_self _) wide] at narrow
    exact absurd narrow.symm Bool.false_ne_true
  | _ => simp [showsBar] at shows

private theorem print_array_eq_parenthesized_iff (element : TypeExpr) :
    (TypeExpr.array element).print = "(" ++ element.print ++ ")[]" ↔
      element.isWideUnion = true := by
  have chars : (TypeExpr.array element).print = "(" ++ element.print ++ ")[]" ↔
      (TypeExpr.array element).chars = '(' :: (element.chars ++ [')', '[', ']']) := by
    rw [← String.toList_inj]
    simp [print]
  rw [chars, TypeExpr.chars]
  cases element.isWideUnion with
  | true => simp
  | false =>
    refine iff_of_false (fun same => ?_) Bool.false_ne_true
    have lengths := congrArg List.length same
    simp at lengths

/--
In a type without carried text whose references are named by identifiers, every array whose element
has an exposed bar is written with parentheses around the element, exactly if no array of the type
has a union of two or more members wrapped in unions of one member as its element.
-/
theorem arrays_parenthesize_bars_iff {type : TypeExpr} (named : type.IsNamed) :
    (∀ element, .array element ∈ type.nodes → ExposesBar element.print →
        (TypeExpr.array element).print = "(" ++ element.print ++ ")[]") ↔
      ∀ element, .array element ∈ type.nodes →
        element.unwrap.isWideUnion = true → element.isWideUnion = true := by
  have inside : ∀ element, .array element ∈ type.nodes → element.nodes ⊆ type.nodes := by
    intro element harray
    exact List.Subset.trans (nodes_element_subset element) (nodes_subset_of_mem harray)
  constructor
  -- the bar of a wrapped union is exposed, and the printer sees no union of two members
  · intro parenthesizes element harray wide
    have exposes := (exposesBar_print_iff (named.mono (inside element harray))).mpr
      (showsBar_of_isWideUnion_unwrap wide)
    exact (print_array_eq_parenthesized_iff element).mp (parenthesizes element harray exposes)
  · intro groups element harray exposes
    have shows := (exposesBar_print_iff (named.mono (inside element harray))).mp exposes
    have wide := isWideUnion_unwrap_of_showsBar
      (fun inner hinner => groups inner (inside element harray hinner)) shows
    exact (print_array_eq_parenthesized_iff element).mpr (groups element harray wide)

def pagedLists : TypeExpr :=
  .reference ["Api", "Page"] [.array (.union [.keyword .string, .array (.keyword .number)])]

theorem arrays_parenthesize_bars_pagedLists :
    pagedLists.print = "Api.Page<(string | number[])[]>" ∧ pagedLists.IsNamed ∧
      ∀ element, .array element ∈ pagedLists.nodes → ExposesBar element.print →
        (TypeExpr.array element).print = "(" ++ element.print ++ ")[]" := by
  refine ⟨by decide, by decide, (arrays_parenthesize_bars_iff (by decide)).mpr ?_⟩
  intro element harray wide
  simp only [pagedLists, nodes, allNodes, List.append_nil, List.cons_append, List.nil_append,
    List.mem_cons, List.not_mem_nil, array.injEq, reduceCtorEq, false_or, or_false] at harray
  obtain rfl | rfl := harray
  · rfl
  · exact absurd wide (by decide)

def wrappedUnion : TypeExpr := .union [.union [.keyword .string, .keyword .number]]

/-- The brackets behind a wrapped union belong to its last member only. -/
theorem array_of_wrappedUnion_is_bare :
    (TypeExpr.array wrappedUnion).IsNamed ∧
      .array wrappedUnion ∈ (TypeExpr.array wrappedUnion).nodes ∧
      ExposesBar wrappedUnion.print ∧
      (TypeExpr.array wrappedUnion).print = "string | number[]" ∧
      (TypeExpr.array wrappedUnion).print ≠ "(" ++ wrappedUnion.print ++ ")[]" :=
  ⟨by decide, mem_nodes_self _, by decide, by decide, by decide⟩

end TypeExpr

end TypedRoutes.Declaration
