import TypedRoutes.Route.Resolution

/-!
Where the type of a category comes from. A path declares it or not, whatever the placeholder is;
what it declares is found under the first statement of the category's name.
-/

set_option autoImplicit false
set_option relaxedAutoImplicit false

namespace TypedRoutes.Route

open Declaration (Namespace Statement TypeExpr)
open Options (Placeholder)

/-- Whether a statement is the first of a scope that declares a name. -/
def FirstDeclared (name : String) (scope : List Statement) (declared : Statement) : Prop :=
  ∃ earlier later, scope = earlier ++ declared :: later ∧ declared.declaredName? = some name ∧
    ∀ other ∈ earlier, other.declaredName? ≠ some name

theorem findDeclaration?_eq_some_iff {name : String} {scope : List Statement}
    {declared : Statement} :
    findDeclaration? name scope = some declared ↔ FirstDeclared name scope declared := by
  unfold findDeclaration? FirstDeclared
  rw [List.find?_eq_some_iff_append, beq_iff_eq]
  constructor
  · rintro ⟨named, earlier, later, hscope, others⟩
    refine ⟨earlier, later, hscope, named, fun other hother same => ?_⟩
    simpa [same] using others other hother
  · rintro ⟨earlier, later, hscope, named, others⟩
    refine ⟨named, earlier, later, hscope, fun other hother => ?_⟩
    simpa using others other hother

def declaredType? (container : String) (path : Namespace) (category : Category) :
    Option TypeExpr :=
  (findDeclaration? category.lookupName path.statements).bind fun declared =>
    if category.isResponse then
      match responseNames category declared with
      | [] => none
      | names =>
        some (.union (names.map fun name => reference container path [category.lookupName, name]))
    else some (reference container path [category.lookupName])

theorem resolve_eq (container : String) (path : Namespace) (placeholder : Placeholder)
    (category : Category) :
    resolve container path placeholder category =
      (declaredType? container path category).getD (placeholderType placeholder) := by
  unfold resolve declaredType?
  cases findDeclaration? category.lookupName path.statements with
  | none => rfl
  | some declared =>
    simp only [Option.bind_some]
    split
    · cases responseNames category declared <;> rfl
    · rfl

theorem declaredType?_cases {container : String} {path : Namespace} {category : Category}
    {type : TypeExpr} (h : declaredType? container path category = some type) :
    ∃ declared, FirstDeclared category.lookupName path.statements declared ∧
      ((category.isResponse = false ∧ type = reference container path [category.lookupName]) ∨
        (category.isResponse = true ∧
          type = .union ((responseNames category declared).map fun name =>
            reference container path [category.lookupName, name]))) := by
  obtain ⟨declared, found, h⟩ := Option.bind_eq_some_iff.mp h
  refine ⟨declared, findDeclaration?_eq_some_iff.mp found, ?_⟩
  split at h
  case isTrue response =>
    refine .inr ⟨response, ?_⟩
    cases names : responseNames category declared with
    | nil => simp [names] at h
    | cons first rest =>
      rw [names] at h
      exact (Option.some.inj h).symm
  case isFalse response =>
    exact .inl ⟨Bool.eq_false_iff.mpr response, (Option.some.inj h).symm⟩

theorem isResponse_iff (category : Category) :
    category.isResponse = true ↔ category = .responses ∨ category = .successResponses := by
  cases category <;> decide

theorem exists_member_of_mem_responseNames {category : Category} {declared : Statement}
    {name : String} (h : name ∈ responseNames category declared) :
    ∃ responses member, declared = .namespaceDecl responses ∧ member ∈ responses.statements ∧
      member.isNamedType ∧ member.declaredName? = some name := by
  obtain ⟨listed, -⟩ := List.mem_filter.mp h
  obtain ⟨member, hmember, named⟩ := List.mem_filterMap.mp listed
  cases declared with
  | namespaceDecl responses =>
    obtain ⟨inside, isType⟩ := List.mem_filter.mp hmember
    exact ⟨responses, member, rfl, inside, isType, named⟩
  | _ => cases hmember

end TypedRoutes.Route
