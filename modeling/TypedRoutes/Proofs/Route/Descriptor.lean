import TypedRoutes.Route.Appending

/-!
The descriptor of a path: when a path gets one, and what its string literals say.
-/

set_option autoImplicit false
set_option relaxedAutoImplicit false

namespace TypedRoutes.Route

open Declaration (Interface Namespace Property Statement)
open Options (Config Placeholder)

/-- The name and the value of a member whose type is a string literal. -/
def literal? (member : Property) : Option (String × String) :=
  match member.type with
  | .stringLiteral value => some (member.name, value)
  | _ => none

/-- Whether a descriptor stands right behind the old body of a path. -/
def GetsDescriptor (before after : Namespace) (descriptor : Interface) : Prop :=
  descriptor.name = "Config" ∧
    ∃ rest, after.statements = before.statements ++ .interfaceDecl descriptor :: rest

private theorem resolve_ne_stringLiteral (container : String) (path : Namespace)
    (placeholder : Placeholder) (category : Category) (value : String) :
    resolve container path placeholder category ≠ .stringLiteral value := by
  have noLiteral : placeholderType placeholder ≠ .stringLiteral value := by
    cases placeholder <;> simp [placeholderType]
  unfold resolve
  split
  · exact noLiteral
  · split
    · split
      · exact noLiteral
      · simp
    · simp [reference, Declaration.TypeExpr.named]

theorem literals_descriptor (container : String) (config : Config) (path : Namespace)
    (record : Record) :
    (descriptor container config path record).members.filterMap literal? = record.fields := by
  have categories : (Category.all.map fun category =>
      let type := resolve container path config.placeholder category
      { name := category.member, optional := type == placeholderType config.placeholder,
        type := type : Property }).filterMap literal? = [] := by
    refine List.filterMap_eq_nil_iff.mpr fun member hm => ?_
    obtain ⟨category, -, rfl⟩ := List.mem_map.mp hm
    have noLiteral := resolve_ne_stringLiteral container path config.placeholder category
    unfold literal?
    split
    case h_1 value h => exact absurd h (noLiteral value)
    case h_2 => rfl
  unfold descriptor
  rw [List.filterMap_append, categories, List.append_nil]
  rfl

theorem getsDescriptor_iff (container : String) (table : Table) (config : Config)
    (path : Namespace) (appended : Interface) :
    GetsDescriptor path (appendToPath container table config path).value appended ↔
      path.statements ≠ [] ∧ ∃ record, table.lookup? path.name = some record ∧
        appended = descriptor container config path record := by
  unfold GetsDescriptor appendToPath additions
  cases hbody : path.body with
  | none => simp [Namespace.statements, hbody]
  | some body =>
    cases body with
    | nil => simp [Namespace.statements, hbody]
    | cons first rest =>
      cases hrecord : table.lookup? path.name with
      | none => simp
      | some record =>
        simp only [Namespace.statements, Option.map_some, Option.getD_some, hbody,
          List.append_cancel_left_eq, List.cons.injEq, Statement.interfaceDecl.injEq, ne_eq,
          reduceCtorEq, not_false_eq_true, Option.some.injEq, exists_eq_left', true_and]
        constructor
        · rintro ⟨-, others, same, -⟩
          exact same.symm
        · rintro rfl
          exact ⟨rfl, _, rfl, rfl⟩

end TypedRoutes.Route
