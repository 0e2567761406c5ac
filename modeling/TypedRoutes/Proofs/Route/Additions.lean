import TypedRoutes.Route.Appending

/-!
What a path gets, taken apart. Whether it gets anything is decided by its body and the table alone;
what it gets is decided by the configuration and the record found.
-/

set_option autoImplicit false
set_option relaxedAutoImplicit false

namespace TypedRoutes.Route

open Declaration (Namespace Statement)
open Options (Config)

/-- The statements that a path has behind those that it had before. -/
def appended (before after : Namespace) : List Statement :=
  after.statements.drop before.statements.length

theorem appended_self (path : Namespace) : appended path path = [] :=
  List.drop_length

theorem appended_body {path : Namespace} {body : List Statement} (hbody : path.body = some body)
    (added : List Statement) :
    appended path { path with body := some (body ++ added) } = added := by
  simp [appended, Namespace.statements, hbody]

/-- The record that a path is described by, or why it has no description. -/
def describedBy (container : String) (table : Table) (path : Namespace) :
    Except Diagnostic Record :=
  match path.body with
  | none => .error (.bodyMissing container path.name)
  | some [] => .error (.bodyEmpty container path.name)
  | some (_ :: _) =>
    match table.lookup? path.name with
    | none => .error (.recordMissing container path.name)
    | some record => .ok record

/-- The declarations of a path that a record describes. -/
def declarations (container : String) (config : Config) (path : Namespace) (record : Record) :
    List Statement :=
  .interfaceDecl (descriptor container config path record) ::
    (config.routeTypeName.map fun name =>
      Statement.aliasDecl (handlerAlias container config path name)).toList

private theorem additions_eq (container : String) (table : Table) (config : Config)
    (path : Namespace) :
    additions container table config path =
      (describedBy container table path).map (declarations container config path) := by
  unfold additions describedBy
  cases path.body with
  | none => rfl
  | some body =>
    cases body with
    | nil => rfl
    | cons first rest => cases table.lookup? path.name <;> rfl

theorem reason_of_additions {container : String} {table : Table} {config : Config}
    {path : Namespace} {reason : Diagnostic}
    (refused : additions container table config path = .error reason) :
    reason = .bodyMissing container path.name ∨ reason = .bodyEmpty container path.name ∨
      reason = .recordMissing container path.name := by
  unfold additions at refused
  split at refused
  · cases refused
    exact .inl rfl
  · cases refused
    exact .inr (.inl rfl)
  · split at refused
    · cases refused
      exact .inr (.inr rfl)
    · cases refused

theorem isSome_body_of_describedBy {container : String} {table : Table} {path : Namespace}
    {record : Record} (described : describedBy container table path = .ok record) :
    ∃ body, path.body = some body := by
  cases hbody : path.body with
  | none => simp [describedBy, hbody] at described
  | some body => exact ⟨body, rfl⟩

theorem appendToPath_of_error {container : String} {table : Table} (config : Config)
    {path : Namespace} {reason : Diagnostic}
    (described : describedBy container table path = .error reason) :
    appendToPath container table config path = ⟨path, [reason]⟩ := by
  rw [appendToPath, additions_eq, described]
  rfl

theorem appendToPath_of_ok {container : String} {table : Table} (config : Config)
    {path : Namespace} {record : Record} {body : List Statement}
    (described : describedBy container table path = .ok record) (hbody : path.body = some body) :
    appendToPath container table config path =
      ⟨{ path with body := some (body ++ declarations container config path record) }, []⟩ := by
  rw [appendToPath, additions_eq, described]
  simp only [Except.map, hbody, Option.map_some]

/-- What is appended to a path are the declarations of the record that describes it, if any. -/
theorem appended_appendToPath (container : String) (table : Table) (config : Config)
    (path : Namespace) :
    appended path (appendToPath container table config path).value =
      match describedBy container table path with
      | .ok record => declarations container config path record
      | .error _ => [] := by
  cases described : describedBy container table path with
  | error reason => rw [appendToPath_of_error config described, appended_self]
  | ok record =>
    obtain ⟨body, hbody⟩ := isSome_body_of_describedBy described
    rw [appendToPath_of_ok config described hbody, appended_body hbody]

end TypedRoutes.Route
