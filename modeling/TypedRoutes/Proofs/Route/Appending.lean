import Mathlib.Data.List.Forall2
import TypedRoutes.Proofs.Route.Additions

/-!
What a declaration tree keeps when route declarations are added to it. Every statement stays in its
place, every path keeps its body as a prefix, and every path without additions is told of.
-/

set_option autoImplicit false
set_option relaxedAutoImplicit false

namespace TypedRoutes.Route

open Declaration (Namespace Statement Tree)
open Options (Config)

/-- What a path may get under a configuration: a descriptor, with the alias behind it if one is
configured. -/
def AreAdditions (config : Config) : List Statement → Prop
  | [.interfaceDecl descriptor] => descriptor.name = "Config" ∧ config.routeTypeName = none
  | [.interfaceDecl descriptor, .aliasDecl handler] =>
    descriptor.name = "Config" ∧ config.routeTypeName = some handler.name
  | _ => False

/-- A path behind whose old body its additions stand. -/
def GrownPath (config : Config) (before after : Namespace) : Prop :=
  ∃ body added, before.body = some body ∧ AreAdditions config added ∧
    after = { before with body := some (body ++ added) }

/-- A statement of a container: it stays, and only a path may grow. -/
def KeptMember (config : Config) : Statement → Statement → Prop
  | .namespaceDecl path, after => after = .namespaceDecl path ∨
    ∃ grown, after = .namespaceDecl grown ∧ GrownPath config path grown
  | before, after => after = before

/-- A container with the members that it had, in their order. -/
def KeptContainer (config : Config) (before after : Namespace) : Prop :=
  ∃ body, after = { before with body := body } ∧
    Option.Rel (List.Forall₂ (KeptMember config)) before.body body

/-- A top-level statement: it stays, and only the members of a container may grow. -/
def KeptStatement (config : Config) : Statement → Statement → Prop
  | .namespaceDecl decl, after =>
    if decl.name = "Paths" then
      ∃ container, after = .namespaceDecl container ∧ KeptContainer config decl container
    else after = .namespaceDecl decl
  | before, after => after = before

def memberPaths (members : List Statement) : List Namespace :=
  members.filterMap Statement.asNamespace?

def statementPaths : Statement → List Namespace
  | .namespaceDecl decl => if decl.name = "Paths" then memberPaths decl.statements else []
  | _ => []

def containedPaths (statements : List Statement) : List Namespace :=
  statements.flatMap statementPaths

/-- Whether a finding tells of a path of a container that it was left unchanged. -/
def TellsUnchanged (container : String) (path : Namespace) (finding : Diagnostic) : Prop :=
  finding.location? = some (container ++ "." ++ path.name) ∧
    "left unchanged".toList <:+ finding.message.toList

/-- Paths before and after, with one finding for each that stayed as it was. -/
inductive Accounted (container : String) :
    List Namespace → List Namespace → List Diagnostic → Prop
  | nil : Accounted container [] [] []
  | unchanged {path : Namespace} {finding : Diagnostic} {befores afters : List Namespace}
      {findings : List Diagnostic} : TellsUnchanged container path finding →
      Accounted container befores afters findings →
      Accounted container (path :: befores) (path :: afters) (finding :: findings)
  | changed {before after : Namespace} {befores afters : List Namespace}
      {findings : List Diagnostic} : before ≠ after →
      Accounted container befores afters findings →
      Accounted container (before :: befores) (after :: afters) findings

theorem Accounted.append {container : String} {befores afters befores' afters' : List Namespace}
    {findings findings' : List Diagnostic} (first : Accounted container befores afters findings)
    (second : Accounted container befores' afters' findings') :
    Accounted container (befores ++ befores') (afters ++ afters') (findings ++ findings') := by
  induction first with
  | nil => exact second
  | unchanged tells _ ih => exact .unchanged tells ih
  | changed differs _ ih => exact .changed differs ih

private theorem GrownPath.ne {config : Config} {before after : Namespace}
    (grown : GrownPath config before after) : before ≠ after := by
  obtain ⟨body, added, hbody, areAdditions, rfl⟩ := grown
  intro same
  have bodies : some body = some (body ++ added) := hbody.symm.trans (congrArg Namespace.body same)
  have nothing : added = [] := by simpa using bodies
  simp [nothing, AreAdditions] at areAdditions

private theorem areAdditions_of_additions {container : String} {table : Table} {config : Config}
    {path : Namespace} {added : List Statement}
    (h : additions container table config path = .ok added) :
    path.body.isSome ∧ AreAdditions config added := by
  unfold additions at h
  split at h
  · simp at h
  · simp at h
  case h_3 first rest hbody =>
    split at h
    · simp at h
    · simp only [Except.ok.injEq] at h
      subst h
      refine ⟨by simp [hbody], ?_⟩
      cases hname : config.routeTypeName with
      | none => simp [AreAdditions, descriptor, Options.descriptorName, hname]
      | some name => simp [AreAdditions, descriptor, handlerAlias, Options.descriptorName, hname]

private theorem tellsUnchanged_of_message {container : String} {path : Namespace}
    {finding : Diagnostic}
    (location : finding.location? = some (container ++ "." ++ path.name)) (start : String)
    (message : finding.message = start ++ "left unchanged") :
    TellsUnchanged container path finding := by
  refine ⟨location, ?_⟩
  rw [message, String.toList_append]
  exact List.suffix_append _ _

private theorem tellsUnchanged_of_additions {container : String} {table : Table} {config : Config}
    {path : Namespace} {reason : Diagnostic}
    (h : additions container table config path = .error reason) :
    TellsUnchanged container path reason := by
  obtain rfl | rfl | rfl := reason_of_additions h
  · exact tellsUnchanged_of_message rfl "path declaration has no body; " rfl
  · exact tellsUnchanged_of_message rfl "path declaration has an empty body; " rfl
  · refine tellsUnchanged_of_message rfl ("no operation metadata for '" ++ path.name ++ "'; ") ?_
    rw [String.append_assoc]
    rfl

theorem appendToPath_cases (container : String) (table : Table) (config : Config)
    (path : Namespace) :
    (∃ reason, appendToPath container table config path = ⟨path, [reason]⟩ ∧
      TellsUnchanged container path reason) ∨
    ∃ grown, appendToPath container table config path = ⟨grown, []⟩ ∧
      GrownPath config path grown := by
  unfold appendToPath
  cases h : additions container table config path with
  | error reason => exact .inl ⟨reason, rfl, tellsUnchanged_of_additions h⟩
  | ok added =>
    obtain ⟨hasBody, areAdditions⟩ := areAdditions_of_additions h
    obtain ⟨body, hbody⟩ := Option.isSome_iff_exists.mp hasBody
    exact .inr ⟨_, rfl, body, added, hbody, areAdditions, by simp [hbody]⟩

private theorem appendToMember_cases (container : String) (table : Table) (config : Config)
    (member : Statement) :
    (member.asNamespace? = none ∧
      appendToMember container table config member = ⟨member, []⟩) ∨
    (∃ path reason, member = .namespaceDecl path ∧ TellsUnchanged container path reason ∧
      appendToMember container table config member = ⟨member, [reason]⟩) ∨
    ∃ path grown, member = .namespaceDecl path ∧ GrownPath config path grown ∧
      appendToMember container table config member = ⟨.namespaceDecl grown, []⟩ := by
  cases member with
  | namespaceDecl path =>
    rcases appendToPath_cases container table config path with ⟨reason, h, tells⟩ | ⟨grown, h, hg⟩
    · exact .inr (.inl ⟨path, reason, rfl, tells, by simp [appendToMember, Logged.andThen, h]⟩)
    · exact .inr (.inr ⟨path, grown, rfl, hg, by simp [appendToMember, Logged.andThen, h]⟩)
  | importDecl => exact .inl ⟨rfl, rfl⟩
  | interfaceDecl => exact .inl ⟨rfl, rfl⟩
  | aliasDecl => exact .inl ⟨rfl, rfl⟩
  | verbatim => exact .inl ⟨rfl, rfl⟩

private theorem keptMember_self (config : Config) (member : Statement) :
    KeptMember config member member := by
  cases member with
  | namespaceDecl => exact .inl rfl
  | _ => rfl

private theorem keptMember_appendToMember (container : String) (table : Table) (config : Config)
    (member : Statement) :
    KeptMember config member (appendToMember container table config member).value := by
  rcases appendToMember_cases container table config member with
    ⟨-, h⟩ | ⟨path, reason, -, -, h⟩ | ⟨path, grown, rfl, hg, h⟩
  · rw [h]
    exact keptMember_self config member
  · rw [h]
    exact keptMember_self config member
  · rw [h]
    exact .inr ⟨grown, rfl, hg⟩

private theorem keptContainer_appendToContainer (table : Table) (config : Config)
    (container : Namespace) :
    KeptContainer config container (appendToContainer table config container).value := by
  refine ⟨_, rfl, ?_⟩
  cases container.body with
  | none => exact .none
  | some body =>
    refine .some (List.forall₂_map_right_iff.mpr (List.forall₂_same.mpr fun statement _ => ?_))
    exact keptMember_appendToMember container.name table config statement

theorem appendToStatement_cases (table : Table) (config : Config) (statement : Statement) :
    (∃ container, statement = .namespaceDecl container ∧ container.name = "Paths" ∧
      appendToStatement table config statement =
        ⟨.namespaceDecl (appendToContainer table config container).value,
          (appendToContainer table config container).log⟩) ∨
    (isContainer statement = false ∧ appendToStatement table config statement = ⟨statement, []⟩) := by
  cases statement with
  | namespaceDecl decl =>
    by_cases h : decl.name = containerName
    · exact .inl ⟨decl, rfl, h, by simp [appendToStatement, Logged.andThen, h]⟩
    · exact .inr ⟨by simp [isContainer, h], by simp [appendToStatement, h]⟩
  | importDecl => exact .inr ⟨rfl, rfl⟩
  | interfaceDecl => exact .inr ⟨rfl, rfl⟩
  | aliasDecl => exact .inr ⟨rfl, rfl⟩
  | verbatim => exact .inr ⟨rfl, rfl⟩

theorem name_ne_of_not_container {decl : Namespace}
    (h : isContainer (.namespaceDecl decl) = false) : decl.name ≠ "Paths" := by
  intro name
  simp [isContainer, containerName, name] at h

private theorem keptStatement_self (config : Config) {statement : Statement}
    (h : isContainer statement = false) : KeptStatement config statement statement := by
  cases statement with
  | namespaceDecl decl =>
    simp [KeptStatement, name_ne_of_not_container h]
  | _ => rfl

private theorem keptStatement_appendToStatement (table : Table) (config : Config)
    (statement : Statement) :
    KeptStatement config statement (appendToStatement table config statement).value := by
  rcases appendToStatement_cases table config statement with ⟨container, rfl, name, h⟩ | ⟨other, h⟩
  · rw [h]
    simp only [KeptStatement, name, if_true]
    exact ⟨_, rfl, keptContainer_appendToContainer table config container⟩
  · rw [h]
    exact keptStatement_self config other

private theorem accounted_members (container : String) (table : Table) (config : Config)
    (members : List Statement) :
    Accounted container (memberPaths members)
      (memberPaths (members.map fun member =>
        (appendToMember container table config member).value))
      (members.flatMap fun member => (appendToMember container table config member).log) := by
  induction members with
  | nil => exact .nil
  | cons member rest ih =>
    simp only [memberPaths, List.map_cons, List.filterMap_cons, List.flatMap_cons] at ih ⊢
    rcases appendToMember_cases container table config member with
      ⟨other, h⟩ | ⟨path, reason, rfl, tells, h⟩ | ⟨path, grown, rfl, hg, h⟩
    · simpa [h, other] using ih
    · simpa [h, Statement.asNamespace?] using ih.unchanged tells
    · simpa [h, Statement.asNamespace?] using ih.changed hg.ne

theorem statementPaths_of_not_container {statement : Statement}
    (h : isContainer statement = false) : statementPaths statement = [] := by
  cases statement with
  | namespaceDecl decl =>
    simp [statementPaths, name_ne_of_not_container h]
  | _ => rfl

private theorem accounted_statement (table : Table) (config : Config) (statement : Statement) :
    Accounted "Paths" (statementPaths statement)
      (statementPaths (appendToStatement table config statement).value)
      (appendToStatement table config statement).log := by
  rcases appendToStatement_cases table config statement with ⟨container, rfl, name, h⟩ | ⟨other, h⟩
  · have members := accounted_members container.name table config container.statements
    rw [name] at members
    rw [h]
    cases body : container.body <;>
      simpa [statementPaths, appendToContainer, Namespace.statements, name, body] using members
  · rw [h, statementPaths_of_not_container other]
    exact .nil

private theorem accounted_statements (table : Table) (config : Config)
    (statements : List Statement) :
    Accounted "Paths" (containedPaths statements)
      (containedPaths (statements.map fun statement =>
        (appendToStatement table config statement).value))
      (statements.flatMap fun statement => (appendToStatement table config statement).log) := by
  induction statements with
  | nil => exact .nil
  | cons statement rest ih => exact (accounted_statement table config statement).append ih

theorem Accounted.length_eq {container : String} {befores afters : List Namespace}
    {findings : List Diagnostic} (accounted : Accounted container befores afters findings) :
    afters.length = befores.length := by
  induction accounted with
  | nil => rfl
  | unchanged _ _ ih => simp [ih]
  | changed _ _ ih => simp [ih]

theorem Accounted.message {container : String} {befores afters : List Namespace}
    {findings : List Diagnostic} (accounted : Accounted container befores afters findings) :
    ∀ finding ∈ findings, "left unchanged".toList <:+ finding.message.toList := by
  induction accounted with
  | nil => simp
  | unchanged tells _ ih => exact List.forall_mem_cons.mpr ⟨tells.2, ih⟩
  | changed _ _ ih => exact ih

open Classical in
theorem Accounted.locations {container : String} {befores afters : List Namespace}
    {findings : List Diagnostic} (accounted : Accounted container befores afters findings) :
    findings.map Diagnostic.location? =
      ((befores.zip afters).filter fun pair => pair.1 = pair.2).map fun pair =>
        some (container ++ "." ++ pair.1.name) := by
  induction accounted with
  | nil => rfl
  | unchanged tells _ ih => simp [ih, tells.1]
  | changed differs _ ih => simp [ih, differs]

open Classical in
theorem Accounted.count {container : String} {befores afters : List Namespace}
    {findings : List Diagnostic} (accounted : Accounted container befores afters findings) :
    befores.length =
      ((befores.zip afters).filter fun pair => pair.1 ≠ pair.2).length + findings.length := by
  induction accounted with
  | nil => rfl
  | unchanged _ _ ih =>
    rw [List.zip_cons_cons, List.filter_cons_of_neg (by simp), List.length_cons, List.length_cons]
    omega
  | changed differs _ ih =>
    rw [List.zip_cons_cons, List.filter_cons_of_pos (by simpa using differs), List.length_cons,
      List.length_cons]
    omega

theorem aliasImports_eq (config : Config) :
    aliasImports config = if config.routeTypeName.isSome then
      [.importDecl { source := "express", named := ["RequestHandler"] }] else [] := by
  unfold aliasImports
  cases config.routeTypeName <;> rfl

private theorem any_isContainer_iff (statements : List Statement) : statements.any isContainer ↔
    ∃ container, .namespaceDecl container ∈ statements ∧ container.name = "Paths" := by
  rw [List.any_eq_true]
  constructor
  · rintro ⟨statement, hm, h⟩
    cases statement with
    | namespaceDecl decl => exact ⟨decl, hm, by simpa [isContainer, containerName] using h⟩
    | _ => simp [isContainer] at h
  · rintro ⟨container, hm, name⟩
    exact ⟨_, hm, by simp [isContainer, containerName, name]⟩

open Classical in
/--
The tree is only added to. Its statements stay in their order, behind the import of the type of
handlers if an alias is configured, and each is kept but for the paths that grow. Earlier findings
stay in front. A path of a container is changed, or a finding tells that it was left unchanged, one
for each such path in the order of the tree; and one more tells if there is no container.
-/
theorem transform_only_adds (transformer : Transformer) (tree : Tree)
    (earlier : List Diagnostic) :
    ∃ (kept : List Statement) (findings : List Diagnostic),
      ((Logged.mk tree earlier).andThen transformer.transform).value.statements =
        (if transformer.config.routeTypeName.isSome then
          [.importDecl { source := "express", named := ["RequestHandler"] }] else []) ++ kept ∧
      List.Forall₂ (KeptStatement transformer.config) tree.statements kept ∧
      ((Logged.mk tree earlier).andThen transformer.transform).log =
        earlier ++ (findings ++
          if ∃ container, .namespaceDecl container ∈ tree.statements ∧ container.name = "Paths"
          then [] else [.containerMissing]) ∧
      (∀ finding ∈ findings, "left unchanged".toList <:+ finding.message.toList) ∧
      (containedPaths kept).length = (containedPaths tree.statements).length ∧
      findings.map Diagnostic.location? =
        (((containedPaths tree.statements).zip (containedPaths kept)).filter fun pair =>
          pair.1 = pair.2).map (fun pair => some ("Paths." ++ pair.1.name)) ∧
      (containedPaths tree.statements).length =
        (((containedPaths tree.statements).zip (containedPaths kept)).filter fun pair =>
          pair.1 ≠ pair.2).length + findings.length := by
  have accounted := accounted_statements transformer.table transformer.config tree.statements
  refine ⟨_, _, ?_, ?_, ?_, accounted.message, accounted.length_eq, accounted.locations,
    accounted.count⟩
  · rw [← aliasImports_eq]
    rfl
  · exact List.forall₂_map_right_iff.mpr (List.forall₂_same.mpr fun statement _ =>
      keptStatement_appendToStatement transformer.table transformer.config statement)
  · have found := any_isContainer_iff tree.statements
    by_cases h : tree.statements.any isContainer
    · simp [Logged.andThen, Transformer.transform, h, found.mp h]
    · simp [Logged.andThen, Transformer.transform, h, mt found.mpr h]

end TypedRoutes.Route
