import TypedRoutes.Proofs.Declaration.Layout
import TypedRoutes.Proofs.Route.Additions
import TypedRoutes.Proofs.Route.Appending

/-!
A printed tree before and after additions. The main statement lists the lines of both in one go:
those that stay, and the new ones, which are an import at the very start and, in front of the
closing brace of each path that grows, the lines of what it gets.
-/

set_option autoImplicit false
set_option relaxedAutoImplicit false

namespace TypedRoutes.Route

open Declaration (Indent Line Namespace Statement Tree printLines)
open Declaration.Statement (allLines)
open Options (Config)

/-- Lines of a text that stay when it is added to, or that are new. -/
inductive Stretch where
  | kept (lines : List Line)
  | inserted (lines : List Line)

namespace Stretch

/-- The lines that a text has before it is added to. -/
def before : Stretch → List Line
  | .kept lines => lines
  | .inserted _ => []

/-- The lines that a text has afterwards. -/
def after : Stretch → List Line
  | .kept lines => lines
  | .inserted lines => lines

end Stretch

/-- The lines of a member of a container; what a path gets stands two levels in, right before the
closing brace of the path. -/
def memberStretches (transformer : Transformer) : Statement → List Stretch
  | .namespaceDecl path =>
    match appended path (appendToPath "Paths" transformer.table transformer.config path).value with
    | [] => [.kept ((allLines [.namespaceDecl path]).map (Line.indentBy 1))]
    | added =>
      [.kept (⟨1, path.opening⟩ :: (allLines path.statements).map (Line.indentBy 2)),
        .inserted ((allLines added).map (Line.indentBy 2)), .kept [⟨1, "\x7d"⟩]]
  | member => [.kept ((allLines [member]).map (Line.indentBy 1))]

/-- The lines of a top-level statement; only inside containers are there new ones. -/
def statementStretches (transformer : Transformer) : Statement → List Stretch
  | .namespaceDecl decl =>
    match (if decl.name = "Paths" then decl.body else none) with
    | some members =>
      .kept [⟨0, decl.opening⟩] ::
        (members.flatMap (memberStretches transformer) ++ [.kept [⟨0, "\x7d"⟩]])
    | none => [.kept (allLines [.namespaceDecl decl])]
  | statement => [.kept (allLines [statement])]

/-- The line at the start of the file that an alias needs. -/
def importStretches (config : Config) : List Stretch :=
  if config.routeTypeName.isSome then
    [.inserted [⟨0, "import { RequestHandler } from \"express\";"⟩]]
  else []

/-- The lines of a file, those that stay and those that are new. -/
def treeStretches (transformer : Transformer) (tree : Tree) : List Stretch :=
  importStretches transformer.config ++ tree.statements.flatMap (statementStretches transformer)

/-- Whether stretches show how some lines become others. -/
def Shows (stretches : List Stretch) (before after : List Line) : Prop :=
  stretches.flatMap Stretch.before = before ∧ stretches.flatMap Stretch.after = after

namespace Shows

theorem kept (lines : List Line) : Shows [.kept lines] lines lines :=
  ⟨List.append_nil lines, List.append_nil lines⟩

theorem inserted (lines : List Line) : Shows [.inserted lines] [] lines :=
  ⟨rfl, List.append_nil lines⟩

theorem append {first second : List Stretch} {before after before' after' : List Line}
    (hfirst : Shows first before after) (hsecond : Shows second before' after') :
    Shows (first ++ second) (before ++ before') (after ++ after') := by
  obtain ⟨rfl, rfl⟩ := hfirst
  obtain ⟨rfl, rfl⟩ := hsecond
  exact ⟨List.flatMap_append, List.flatMap_append⟩

theorem flatMap {stretches : Statement → List Stretch} {before after : Statement → List Line}
    (statements : List Statement)
    (each : ∀ statement, Shows (stretches statement) (before statement) (after statement)) :
    Shows (statements.flatMap stretches) (statements.flatMap before)
      (statements.flatMap after) := by
  induction statements with
  | nil => exact ⟨rfl, rfl⟩
  | cons statement rest ih => exact (each statement).append ih

end Shows

private theorem pathLines {path : Namespace} {body : List Statement}
    (hbody : path.body = some body) :
    (allLines [.namespaceDecl path]).map (Line.indentBy 1) =
      ⟨1, path.opening⟩ :: (allLines body).map (Line.indentBy 2) ++ [⟨1, "\x7d"⟩] := by
  have twice : Line.indentBy 1 ∘ Line.indentBy 1 = Line.indentBy 2 :=
    funext fun line => Line.indentBy_indentBy 1 1 line
  rw [Namespace.allLines_of_body hbody, List.map_cons, List.map_append, List.map_map, twice]
  rfl

private theorem shows_path {path : Namespace} {body : List Statement}
    (hbody : path.body = some body) (added : List Statement) :
    Shows
      [.kept (⟨1, path.opening⟩ :: (allLines body).map (Line.indentBy 2)),
        .inserted ((allLines added).map (Line.indentBy 2)), .kept [⟨1, "\x7d"⟩]]
      ((allLines [.namespaceDecl path]).map (Line.indentBy 1))
      ((allLines [.namespaceDecl { path with body := some (body ++ added) }]).map
        (Line.indentBy 1)) := by
  have old := pathLines hbody
  have new := @pathLines { path with body := some (body ++ added) } _ rfl
  rw [Statement.allLines_append, List.map_append] at new
  rw [old, new]
  constructor
  · simp [Stretch.before]
  · simp [Stretch.after, Namespace.opening]

private theorem shows_member (transformer : Transformer) (member : Statement) :
    Shows (memberStretches transformer member)
      ((allLines [member]).map (Line.indentBy 1))
      ((allLines [(appendToMember "Paths" transformer.table transformer.config member).value]).map
        (Line.indentBy 1)) := by
  cases member with
  | namespaceDecl path =>
    have value : (appendToMember "Paths" transformer.table transformer.config
        (.namespaceDecl path)).value =
          .namespaceDecl (appendToPath "Paths" transformer.table transformer.config path).value :=
      rfl
    rw [value, memberStretches]
    cases described : describedBy "Paths" transformer.table path with
    | error reason =>
      rw [appendToPath_of_error _ described, appended_self]
      exact .kept _
    | ok record =>
      obtain ⟨body, hbody⟩ := isSome_body_of_describedBy described
      have statements : path.statements = body := by simp [Namespace.statements, hbody]
      rw [appendToPath_of_ok _ described hbody, appended_body hbody, statements]
      exact shows_path hbody _
  | importDecl => exact .kept _
  | interfaceDecl => exact .kept _
  | aliasDecl => exact .kept _
  | verbatim => exact .kept _

private theorem shows_container (transformer : Transformer) {container : Namespace}
    {members : List Statement} (name : container.name = "Paths")
    (hmembers : container.body = some members) :
    Shows
      (.kept [⟨0, container.opening⟩] ::
        (members.flatMap (memberStretches transformer) ++ [.kept [⟨0, "\x7d"⟩]]))
      (allLines [.namespaceDecl container])
      (allLines [.namespaceDecl
        (appendToContainer transformer.table transformer.config container).value]) := by
  let extend := fun member =>
    (appendToMember "Paths" transformer.table transformer.config member).value
  have extended : (appendToContainer transformer.table transformer.config container).value.body =
      some (members.map extend) := by
    simp only [appendToContainer, hmembers, Option.map_some, name]
    rfl
  have opening : (appendToContainer transformer.table transformer.config container).value.opening =
      container.opening := rfl
  have inside := Shows.flatMap members (shows_member transformer)
  rw [Namespace.allLines_of_body hmembers, Namespace.allLines_of_body extended, opening,
    Statement.allLines_eq_flatMap members, Statement.allLines_eq_flatMap (members.map extend),
    List.map_flatMap, List.map_flatMap, List.flatMap_map]
  exact (Shows.kept [⟨0, container.opening⟩]).append (inside.append (.kept [⟨0, "\x7d"⟩]))

private theorem statementStretches_of_not_container (transformer : Transformer)
    {statement : Statement} (other : isContainer statement = false) :
    statementStretches transformer statement = [.kept (allLines [statement])] := by
  cases statement with
  | namespaceDecl decl =>
    simp only [statementStretches, name_ne_of_not_container other, if_false]
  | _ => rfl

private theorem shows_statement (transformer : Transformer) (statement : Statement) :
    Shows (statementStretches transformer statement) (allLines [statement])
      (allLines [(appendToStatement transformer.table transformer.config statement).value]) := by
  rcases appendToStatement_cases transformer.table transformer.config statement with
    ⟨container, rfl, name, h⟩ | ⟨other, h⟩
  · rw [h]
    cases hbody : container.body with
    | none =>
      have same : (appendToContainer transformer.table transformer.config container).value =
          container := by
        obtain ⟨_, _, _, body⟩ := container
        obtain rfl : body = none := hbody
        rfl
      have whole : statementStretches transformer (.namespaceDecl container) =
          [.kept (allLines [.namespaceDecl container])] := by
        simp only [statementStretches, hbody, ite_self]
      rw [same, whole]
      exact .kept _
    | some members =>
      have parts : statementStretches transformer (.namespaceDecl container) =
          .kept [⟨0, container.opening⟩] ::
            (members.flatMap (memberStretches transformer) ++ [.kept [⟨0, "\x7d"⟩]]) := by
        simp only [statementStretches, hbody, name, if_true]
      rw [parts]
      exact shows_container transformer name hbody
  · rw [h, statementStretches_of_not_container transformer other]
    exact .kept _

private theorem shows_import (config : Config) :
    Shows (importStretches config) [] (allLines (aliasImports config)) := by
  unfold importStretches
  rw [aliasImports_eq]
  cases config.routeTypeName with
  | none => exact ⟨rfl, rfl⟩
  | some name =>
    have line : allLines [.importDecl { source := "express", named := ["RequestHandler"] }] =
        [⟨0, "import { RequestHandler } from \"express\";"⟩] := by decide +kernel
    simp only [Option.isSome_some, if_true, line]
    exact .inserted _

/--
A tree that is added to is printed with the lines that it had, in their order, and new ones between
them: the import at the very start if an alias is configured, and the lines of what each path gets,
two levels in and right before the line that closes the path.
-/
theorem printWith_transform (transformer : Transformer) (tree : Tree) (indent : Indent) :
    tree.printWith indent =
        printLines indent.unit ((treeStretches transformer tree).flatMap Stretch.before) ∧
      (transformer.transform tree).value.printWith indent =
        printLines indent.unit ((treeStretches transformer tree).flatMap Stretch.after) := by
  have shown : Shows (treeStretches transformer tree) (allLines tree.statements)
      (allLines (transformer.transform tree).value.statements) := by
    have statements := Shows.flatMap tree.statements (shows_statement transformer)
    have whole := (shows_import transformer.config).append statements
    rw [← Statement.allLines_eq_flatMap, List.nil_append] at whole
    have output : allLines (transformer.transform tree).value.statements =
        allLines (aliasImports transformer.config) ++ tree.statements.flatMap fun statement =>
          allLines [(appendToStatement transformer.table transformer.config statement).value] := by
      rw [Transformer.transform, Statement.allLines_append, Statement.allLines_eq_flatMap
        (tree.statements.map _), List.flatMap_map]
    rw [output]
    exact whole
  rw [Tree.printWith_eq, Tree.printWith_eq, shown.1, shown.2]
  exact ⟨rfl, rfl⟩

end TypedRoutes.Route
