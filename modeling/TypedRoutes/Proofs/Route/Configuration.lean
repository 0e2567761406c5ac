import TypedRoutes.Proofs.Pipeline
import TypedRoutes.Proofs.Route.Additions
import TypedRoutes.Proofs.Route.Appending
import TypedRoutes.Proofs.Route.Resolution

/-!
Two runs over one tree and one table. A placeholder shows only as the keyword that stands for it in
what paths get, and an alias only as the import and as the last statement of each path that grows;
which paths grow, which members are optional and what is told of does not depend on either.
-/

set_option autoImplicit false
set_option relaxedAutoImplicit false

namespace TypedRoutes

namespace Declaration

mutual

def TypeExpr.mapKeywords (f : Keyword → Keyword) : TypeExpr → TypeExpr
  | .reference path args => .reference path (TypeExpr.mapAllKeywords f args)
  | .union members => .union (TypeExpr.mapAllKeywords f members)
  | .keyword word => .keyword (f word)
  | .stringLiteral value => .stringLiteral value
  | .array element => .array (element.mapKeywords f)
  | .object members => .object (Property.mapAllKeywords f members)
  | .raw text => .raw text

def TypeExpr.mapAllKeywords (f : Keyword → Keyword) : List TypeExpr → List TypeExpr
  | [] => []
  | type :: rest => type.mapKeywords f :: TypeExpr.mapAllKeywords f rest

/-- Members with the keywords of their types exchanged; all else of them stays. -/
def Property.mapAllKeywords (f : Keyword → Keyword) : List Property → List Property
  | [] => []
  | ⟨name, optional, type, comment⟩ :: rest =>
    ⟨name, optional, type.mapKeywords f, comment⟩ :: Property.mapAllKeywords f rest

end

theorem TypeExpr.mapAllKeywords_eq_map (f : Keyword → Keyword) (types : List TypeExpr) :
    TypeExpr.mapAllKeywords f types = types.map (TypeExpr.mapKeywords f) := by
  induction types with
  | nil => rfl
  | cons type rest ih => rw [mapAllKeywords, ih, List.map_cons]

theorem Property.mapAllKeywords_eq_map (f : Keyword → Keyword) (members : List Property) :
    Property.mapAllKeywords f members =
      members.map fun member => { member with type := member.type.mapKeywords f } := by
  induction members with
  | nil => rfl
  | cons member rest ih =>
    obtain ⟨name, optional, type, comment⟩ := member
    rw [mapAllKeywords, ih, List.map_cons]

/-- An interface or a type alias with the keywords of its types exchanged. -/
def Statement.mapKeywords (f : Keyword → Keyword) : Statement → Statement
  | .interfaceDecl decl =>
    .interfaceDecl { decl with members := Property.mapAllKeywords f decl.members }
  | .aliasDecl decl => .aliasDecl { decl with type := decl.type.mapKeywords f }
  | statement => statement

/-- The members of an interface, each with its name and whether it is optional. -/
def Statement.optionalMarks : Statement → List (String × Bool)
  | .interfaceDecl decl => decl.members.map fun member => (member.name, member.optional)
  | _ => []

theorem Statement.optionalMarks_mapKeywords (f : Keyword → Keyword) (statement : Statement) :
    (statement.mapKeywords f).optionalMarks = statement.optionalMarks := by
  cases statement with
  | interfaceDecl decl =>
    simp [mapKeywords, optionalMarks, Property.mapAllKeywords_eq_map, Function.comp_def]
  | _ => rfl

/-- One keyword in the place of another. -/
def Keyword.replace (old new word : Keyword) : Keyword := if word = old then new else word

end Declaration

namespace Route

open Declaration (Import Keyword Namespace Statement Tree TypeExpr)
open Options (Config Placeholder)

def placeholderKeyword : Placeholder → Keyword
  | .any => .any
  | .unknown => .unknown

/-- A path with what it has behind its former statements put through a function. -/
def editPath (f : List Statement → List Statement) (before after : Namespace) : Namespace :=
  { after with
    body := after.body.map fun body =>
      body.take before.statements.length ++ f (appended before after) }

/-- A member of a container, edited if it is a path. -/
def editMember (f : List Statement → List Statement) : Statement → Statement → Statement
  | .namespaceDecl before, .namespaceDecl after => .namespaceDecl (editPath f before after)
  | _, after => after

/-- A top-level statement, with its paths edited if it is a container. -/
def editStatement (f : List Statement → List Statement) : Statement → Statement → Statement
  | .namespaceDecl before, .namespaceDecl after =>
    if before.name = "Paths" then
      .namespaceDecl { after with
        body := after.body.map fun members =>
          List.zipWith (editMember f) before.statements members }
    else .namespaceDecl after
  | _, after => after

/-- A tree in which what is appended to the paths is put through a function. The statements in
front of those that the tree had before stay. -/
def editAppended (f : List Statement → List Statement) (before after : Tree) : Tree :=
  let new := after.statements.length - before.statements.length
  ⟨after.statements.take new ++
    List.zipWith (editStatement f) before.statements (after.statements.drop new)⟩

theorem placeholderType_eq (placeholder : Placeholder) :
    placeholderType placeholder = .keyword (placeholderKeyword placeholder) := by
  cases placeholder <;> rfl

private theorem mapKeywords_placeholderType (old new : Placeholder) :
    (placeholderType old).mapKeywords
        (Keyword.replace (placeholderKeyword old) (placeholderKeyword new)) =
      placeholderType new := by
  rw [placeholderType_eq, placeholderType_eq, TypeExpr.mapKeywords, Keyword.replace, if_pos rfl]

private theorem mapKeywords_of_declared {container : String} {path : Namespace}
    {category : Category} {type : TypeExpr} (h : declaredType? container path category = some type)
    (f : Keyword → Keyword) : type.mapKeywords f = type := by
  obtain ⟨declared, -, ⟨-, rfl⟩ | ⟨-, rfl⟩⟩ := declaredType?_cases h
  · rfl
  · rw [TypeExpr.mapKeywords, TypeExpr.mapAllKeywords_eq_map, List.map_map]
    rfl

private theorem mapKeywords_resolve (container : String) (path : Namespace) (category : Category)
    (old new : Placeholder) :
    (resolve container path old category).mapKeywords
        (Keyword.replace (placeholderKeyword old) (placeholderKeyword new)) =
      resolve container path new category := by
  rw [resolve_eq, resolve_eq]
  cases h : declaredType? container path category with
  | none => exact mapKeywords_placeholderType old new
  | some type => exact mapKeywords_of_declared h _

private theorem resolve_beq_placeholderType (container : String) (path : Namespace)
    (category : Category) (placeholder : Placeholder) :
    (resolve container path placeholder category == placeholderType placeholder) =
      (declaredType? container path category).isNone := by
  rw [resolve_eq, placeholderType_eq, TypeExpr.beq_keyword]
  cases h : declaredType? container path category with
  | none => simp [TypeExpr.isKeyword]
  | some type =>
    obtain ⟨declared, -, ⟨-, rfl⟩ | ⟨-, rfl⟩⟩ := declaredType?_cases h
    · rfl
    · rfl

private theorem map_mapKeywords_declarations (container : String) (config : Config)
    (path : Namespace) (record : Record) (old new : Placeholder) :
    (declarations container { config with placeholder := old } path record).map
        (Statement.mapKeywords
          (Keyword.replace (placeholderKeyword old) (placeholderKeyword new))) =
      declarations container { config with placeholder := new } path record := by
  have types := mapKeywords_resolve container path
  have described : Statement.mapKeywords
        (Keyword.replace (placeholderKeyword old) (placeholderKeyword new))
        (.interfaceDecl (descriptor container { config with placeholder := old } path record)) =
      .interfaceDecl (descriptor container { config with placeholder := new } path record) := by
    simp only [Statement.mapKeywords, descriptor, Declaration.Property.mapAllKeywords_eq_map,
      List.map_append, List.map_map, Function.comp_def, TypeExpr.mapKeywords, types,
      resolve_beq_placeholderType]
  have handled (name : String) : Statement.mapKeywords
        (Keyword.replace (placeholderKeyword old) (placeholderKeyword new))
        (.aliasDecl (handlerAlias container { config with placeholder := old } path name)) =
      .aliasDecl (handlerAlias container { config with placeholder := new } path name) := by
    simp only [Statement.mapKeywords, handlerAlias, TypeExpr.generic, TypeExpr.mapKeywords,
      TypeExpr.mapAllKeywords_eq_map, handlerArgs, List.map_map, Function.comp_def, types]
  rw [declarations, declarations, List.map_cons, described]
  -- The name of the alias does not depend on the placeholder, but it stands inside the
  -- configuration too, so it is split off before the cases are told apart.
  change _ :: ((config.routeTypeName.map _).toList.map _) = _ :: (config.routeTypeName.map _).toList
  cases config.routeTypeName with
  | none => rfl
  | some name => exact congrArg (fun handler => [_, handler]) (handled name)

private theorem dropLast_declarations (container : String) (config : Config) (path : Namespace)
    (record : Record) (name : String) :
    (declarations container { config with routeTypeName := some name } path record).dropLast =
      declarations container { config with routeTypeName := none } path record :=
  rfl

private theorem optionalMarks_editPath (f : Keyword → Keyword) (before after : Namespace) :
    (editPath (List.map (Statement.mapKeywords f)) before after).statements.map
        Statement.optionalMarks =
      after.statements.map Statement.optionalMarks := by
  cases hbody : after.body with
  | none => simp [editPath, Namespace.statements, hbody]
  | some body =>
    have parts : (editPath (List.map (Statement.mapKeywords f)) before after).statements =
        body.take before.statements.length ++
          (body.drop before.statements.length).map (Statement.mapKeywords f) := by
      simp [editPath, appended, Namespace.statements, hbody]
    have whole : after.statements = body := by simp [Namespace.statements, hbody]
    have marks : Statement.optionalMarks ∘ Statement.mapKeywords f = Statement.optionalMarks :=
      funext (Statement.optionalMarks_mapKeywords f)
    rw [parts, whole, List.map_append, List.map_map, marks, ← List.map_append,
      List.take_append_drop]

section Edit

variable {f : List Statement → List Statement} {config config' : Config} (table : Table)

/-- Whether a function makes what a path gets under one configuration into what it gets under
another one. -/
def Turns (f : List Statement → List Statement) (config config' : Config) : Prop :=
  f [] = [] ∧ ∀ path record,
    f (declarations "Paths" config path record) = declarations "Paths" config' path record

private theorem editPath_appendToPath (turns : Turns f config config') (path : Namespace) :
    editPath f path (appendToPath "Paths" table config path).value =
      (appendToPath "Paths" table config' path).value := by
  cases described : describedBy "Paths" table path with
  | error reason =>
    have all : path.body.map (fun body => body.take path.statements.length) = path.body := by
      cases hbody : path.body <;> simp [Namespace.statements, hbody]
    rw [appendToPath_of_error config described, appendToPath_of_error config' described, editPath,
      appended_self, turns.1]
    simp only [List.append_nil, all]
    cases path with
    | mk => rfl
  | ok record =>
    obtain ⟨body, hbody⟩ := isSome_body_of_describedBy described
    have statements : path.statements = body := by simp [Namespace.statements, hbody]
    rw [appendToPath_of_ok config described hbody, appendToPath_of_ok config' described hbody,
      editPath, appended_body hbody, turns.2, statements]
    simp

private theorem editMember_appendToMember (turns : Turns f config config') (member : Statement) :
    editMember f member (appendToMember "Paths" table config member).value =
      (appendToMember "Paths" table config' member).value := by
  cases member with
  | namespaceDecl path =>
    exact congrArg Statement.namespaceDecl (editPath_appendToPath table turns path)
  | _ => rfl

private theorem zipWith_map_same {α : Type} (edit : α → α → α) (extend extend' : α → α)
    (each : ∀ item, edit item (extend item) = extend' item) (items : List α) :
    List.zipWith edit items (items.map extend) = items.map extend' := by
  rw [List.zipWith_map_right, List.zipWith_self]
  exact List.map_congr_left fun item _ => each item

private theorem editStatement_appendToStatement (turns : Turns f config config')
    (statement : Statement) :
    editStatement f statement (appendToStatement table config statement).value =
      (appendToStatement table config' statement).value := by
  cases statement with
  | namespaceDecl decl =>
    by_cases name : decl.name = "Paths"
    · have members := zipWith_map_same (editMember f) _ _ (editMember_appendToMember table turns)
      cases hbody : decl.body <;>
        simp [appendToStatement, appendToContainer, Logged.andThen, containerName, editStatement,
          Namespace.statements, name, hbody, members]
    · simp [appendToStatement, containerName, editStatement, name]
  | _ => rfl

private theorem editAppended_map (turns : Turns f config config') (imports : List Statement)
    (tree : Tree) :
    editAppended f tree ⟨imports ++ tree.statements.map fun statement =>
        (appendToStatement table config statement).value⟩ =
      ⟨imports ++ tree.statements.map fun statement =>
        (appendToStatement table config' statement).value⟩ := by
  have statements := zipWith_map_same (editStatement f) _ _
    (editStatement_appendToStatement table turns) tree.statements
  simp [editAppended, statements]

end Edit

private theorem log_appendToPath (container : String) (table : Table) (config config' : Config)
    (path : Namespace) :
    (appendToPath container table config path).log =
      (appendToPath container table config' path).log := by
  cases described : describedBy container table path with
  | error reason =>
    rw [appendToPath_of_error config described, appendToPath_of_error config' described]
  | ok record =>
    obtain ⟨body, hbody⟩ := isSome_body_of_describedBy described
    rw [appendToPath_of_ok config described hbody, appendToPath_of_ok config' described hbody]

theorem log_transform (table : Table) (config config' : Config) (tree : Tree) :
    (Transformer.transform ⟨config, table⟩ tree).log =
      (Transformer.transform ⟨config', table⟩ tree).log := by
  have member (container : String) (statement : Statement) :
      (appendToMember container table config statement).log =
        (appendToMember container table config' statement).log := by
    cases statement with
    | namespaceDecl path =>
      exact congrArg (· ++ []) (log_appendToPath container table config config' path)
    | _ => rfl
  have top (statement : Statement) :
      (appendToStatement table config statement).log =
        (appendToStatement table config' statement).log := by
    cases statement with
    | namespaceDecl decl =>
      by_cases name : decl.name = containerName <;>
        simp [appendToStatement, appendToContainer, Logged.andThen, name, member]
    | _ => rfl
  simp only [Transformer.transform, top]

private theorem memberPaths_map_appendToMember (container : String) (table : Table)
    (config : Config) (members : List Statement) :
    memberPaths (members.map fun member =>
        (appendToMember container table config member).value) =
      (memberPaths members).map fun path => (appendToPath container table config path).value := by
  unfold memberPaths
  rw [List.filterMap_map, List.map_filterMap]
  refine List.filterMap_congr fun member _ => ?_
  cases member <;> rfl

private theorem statementPaths_appendToStatement (table : Table) (config : Config)
    (statement : Statement) :
    statementPaths (appendToStatement table config statement).value =
      (statementPaths statement).map fun path =>
        (appendToPath "Paths" table config path).value := by
  rcases appendToStatement_cases table config statement with
    ⟨container, rfl, name, h⟩ | ⟨other, h⟩
  · have sameName : (appendToContainer table config container).value.name = "Paths" := name
    rw [h]
    simp only [statementPaths, sameName, name, if_true]
    rw [statements_appendToContainer, memberPaths_map_appendToMember, name]
  · rw [h, statementPaths_of_not_container other, List.map_nil]

private theorem containedPaths_transform (transformer : Transformer) (tree : Tree) :
    containedPaths (transformer.transform tree).value.statements =
      (containedPaths tree.statements).map fun path =>
        (appendToPath "Paths" transformer.table transformer.config path).value := by
  have imports : (aliasImports transformer.config).flatMap statementPaths = [] := by
    rw [aliasImports_eq]
    split <;> rfl
  simp only [containedPaths, Transformer.transform, List.flatMap_append, imports, List.nil_append,
    List.flatMap_map, statementPaths_appendToStatement, List.map_flatMap]

/--
Two configurations that differ in the placeholder alone give two trees that become equal when, in
what is appended to paths, the keyword of the one is replaced by that of the other; the same members
are optional in both. Of two that differ in having an alias, the one with it gives the other tree
once the import at its start and the last statement appended to each path are taken away. The
findings are the same in both cases.
-/
theorem transform_shows_configuration (table : Table) (config : Config) (tree : Tree) :
    (∀ old new : Placeholder,
      let first := Transformer.transform ⟨{ config with placeholder := old }, table⟩ tree
      let second := Transformer.transform ⟨{ config with placeholder := new }, table⟩ tree
      editAppended (List.map (Statement.mapKeywords
          (Keyword.replace (placeholderKeyword old) (placeholderKeyword new)))) tree first.value =
        second.value ∧
      (containedPaths first.value.statements).map
          (fun path => path.statements.map Statement.optionalMarks) =
        (containedPaths second.value.statements).map
          (fun path => path.statements.map Statement.optionalMarks) ∧
      first.log = second.log) ∧
    ∀ name : String,
      let named := Transformer.transform ⟨{ config with routeTypeName := some name }, table⟩ tree
      let without := Transformer.transform ⟨{ config with routeTypeName := none }, table⟩ tree
      named.value.statements.head? =
          some (.importDecl { source := "express", named := ["RequestHandler"] }) ∧
        editAppended List.dropLast tree ⟨named.value.statements.tail⟩ = without.value ∧
        named.log = without.log := by
  constructor
  · intro old new first second
    have turns : Turns (List.map (Statement.mapKeywords
        (Keyword.replace (placeholderKeyword old) (placeholderKeyword new))))
          { config with placeholder := old } { config with placeholder := new } :=
      ⟨rfl, fun path record =>
        map_mapKeywords_declarations "Paths" config path record old new⟩
    refine ⟨editAppended_map table turns _ tree, ?_, log_transform ..⟩
    rw [containedPaths_transform, containedPaths_transform, List.map_map, List.map_map]
    refine List.map_congr_left fun path _ => ?_
    -- A path of the second run is the edited path of the first one, and editing keeps the marks.
    exact (optionalMarks_editPath ..).symm.trans
      (congrArg (List.map Statement.optionalMarks ∘ Namespace.statements)
        (editPath_appendToPath table turns path))
  · intro name named without
    have turns : Turns List.dropLast
        { config with routeTypeName := some name } { config with routeTypeName := none } :=
      ⟨rfl, fun path record => dropLast_declarations "Paths" config path record name⟩
    exact ⟨rfl, editAppended_map table turns [] tree, log_transform ..⟩

end Route

end TypedRoutes
