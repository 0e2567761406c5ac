import TypedRoutes.Proofs.Declaration.NormalForm
import TypedRoutes.Proofs.Pipeline
import TypedRoutes.Proofs.Route.Additions
import TypedRoutes.Proofs.Route.Resolution

/-!
The references in what a path gets. The main statement says that none of them dangles: but for the
imported type of handlers, each leads from the container through the path to a declaration that the
path had before, and from there on, for responses, to an interface or a type alias inside it.
-/

set_option autoImplicit false
set_option relaxedAutoImplicit false

namespace TypedRoutes.Route

open Declaration (Namespace Property Statement Tree TypeAlias TypeExpr)
open Options (Config Placeholder)

def declaredTypes : Statement → List TypeExpr
  | .interfaceDecl decl => decl.members.map Property.type
  | .aliasDecl decl => [decl.type]
  | _ => []

/-- The types of the categories in what a path gets: the members of a descriptor that show them,
and the arguments of a handler. -/
def categoryTypes : Statement → List (Category × TypeExpr)
  | .interfaceDecl decl => decl.members.filterMap fun member =>
      (Category.all.find? fun category => category.member == member.name).map (·, member.type)
  | .aliasDecl ⟨_, _, .reference _ args, _⟩ => handlerCategories.zip args
  | _ => []

/-- The segments that lead to what a path declares for a category. A response is named behind the
first statement of the category's name, which is then a namespace that has the response in it. -/
inductive LeadsTo (path : Namespace) (category : Category) : List String → Prop
  | declaration {declared : Statement} :
      category ≠ .responses → category ≠ .successResponses →
      FirstDeclared category.lookupName path.statements declared →
      LeadsTo path category ["Paths", path.name, category.lookupName]
  | response {responses : Namespace} {member : Statement} {name : String} :
      category = .responses ∨ category = .successResponses →
      FirstDeclared category.lookupName path.statements (.namespaceDecl responses) →
      member ∈ responses.statements → member.isNamedType → member.declaredName? = some name →
      LeadsTo path category ["Paths", path.name, category.lookupName, name]

private theorem mem_nodes_reference {container : String} {path : Namespace} {tail : List String}
    {node : TypeExpr} (h : node ∈ (reference container path tail).nodes) :
    node = .reference (container :: path.name :: tail) [] := by
  simpa [reference, TypeExpr.named, TypeExpr.nodes, TypeExpr.allNodes] using h

private theorem not_mem_nodes_placeholderType (placeholder : Placeholder) (segments : List String)
    (args : List TypeExpr) :
    .reference segments args ∉ (placeholderType placeholder).nodes := by
  cases placeholder <;> simp [placeholderType, TypeExpr.nodes]

private theorem leadsTo_of_mem_nodes_resolve {path : Namespace} {placeholder : Placeholder}
    {category : Category} {segments : List String} {args : List TypeExpr}
    (h : .reference segments args ∈ (resolve "Paths" path placeholder category).nodes) :
    args = [] ∧ LeadsTo path category segments := by
  rw [resolve_eq] at h
  cases found : declaredType? "Paths" path category with
  | none =>
    rw [found] at h
    exact absurd h (not_mem_nodes_placeholderType placeholder segments args)
  | some type =>
    rw [found, Option.getD_some] at h
    obtain ⟨declared, first, ⟨single, rfl⟩ | ⟨response, rfl⟩⟩ := declaredType?_cases found
    · obtain ⟨rfl, rfl⟩ := TypeExpr.reference.inj (mem_nodes_reference h)
      have other := mt (isResponse_iff category).mpr (Bool.eq_false_iff.mp single)
      rw [not_or] at other
      exact ⟨rfl, .declaration other.1 other.2 first⟩
    · rw [TypeExpr.nodes, List.mem_cons] at h
      obtain whole | inside := h
      · cases whole
      · obtain ⟨type, htype, hnode⟩ := TypeExpr.exists_of_mem_allNodes inside
        obtain ⟨name, hname, rfl⟩ := List.mem_map.mp htype
        obtain ⟨rfl, rfl⟩ := TypeExpr.reference.inj (mem_nodes_reference hnode)
        obtain ⟨responses, member, rfl, hmember, isType, named⟩ :=
          exists_member_of_mem_responseNames hname
        exact ⟨rfl, .response ((isResponse_iff category).mp response) first hmember isType named⟩

private theorem categoryTypes_descriptor (container : String) (config : Config) (path : Namespace)
    (record : Record) :
    categoryTypes (.interfaceDecl (descriptor container config path record)) =
      Category.all.map fun category =>
        (category, resolve container path config.placeholder category) :=
  rfl

private theorem categoryTypes_handlerAlias (container : String) (config : Config) (path : Namespace)
    (name : String) :
    categoryTypes (.aliasDecl (handlerAlias container config path name)) =
      handlerCategories.map fun category =>
        (category, resolve container path config.placeholder category) :=
  rfl

private theorem categoryTypes_of_mem_declarations {container : String} {config : Config}
    {path : Namespace} {record : Record} {statement : Statement}
    (h : statement ∈ declarations container config path record) :
    ∀ part ∈ categoryTypes statement,
      part.2 = resolve container path config.placeholder part.1 := by
  intro part hpart
  obtain rfl | aliased := List.mem_cons.mp h
  · rw [categoryTypes_descriptor] at hpart
    obtain ⟨category, -, rfl⟩ := List.mem_map.mp hpart
    rfl
  · obtain ⟨name, -, rfl⟩ := Option.map_eq_some_iff.mp (Option.mem_toList.mp aliased)
    rw [categoryTypes_handlerAlias] at hpart
    obtain ⟨category, -, rfl⟩ := List.mem_map.mp hpart
    rfl

/-- A reference in what a path gets stands in the type of a category, or it is the type of the
handler as a whole. -/
private theorem reference_of_mem_declarations {container : String} {config : Config}
    {path : Namespace}
    {record : Record} {statement : Statement} {type : TypeExpr} {segments : List String}
    {args : List TypeExpr} (h : statement ∈ declarations container config path record)
    (htype : type ∈ declaredTypes statement) (hnode : .reference segments args ∈ type.nodes) :
    (∃ handler : TypeAlias, statement = .aliasDecl handler ∧
        handler.type = .reference segments args ∧ segments = ["RequestHandler"]) ∨
      ∃ part ∈ categoryTypes statement, .reference segments args ∈ part.2.nodes := by
  obtain rfl | aliased := List.mem_cons.mp h
  · obtain ⟨member, hmember, rfl⟩ := List.mem_map.mp htype
    obtain literal | shown := List.mem_append.mp hmember
    · obtain ⟨field, -, rfl⟩ := List.mem_map.mp literal
      simp [TypeExpr.nodes] at hnode
    · obtain ⟨category, hcategory, rfl⟩ := List.mem_map.mp shown
      rw [categoryTypes_descriptor]
      exact .inr ⟨(category, _), List.mem_map.mpr ⟨category, hcategory, rfl⟩, hnode⟩
  · obtain ⟨name, -, rfl⟩ := Option.map_eq_some_iff.mp (Option.mem_toList.mp aliased)
    obtain rfl := List.mem_singleton.mp htype
    have handler : (handlerAlias container config path name).type =
        .reference ["RequestHandler"] (handlerArgs container path config.placeholder) := rfl
    rw [handler, TypeExpr.nodes, List.mem_cons] at hnode
    obtain whole | inside := hnode
    · obtain ⟨rfl, rfl⟩ := TypeExpr.reference.inj whole
      exact .inl ⟨_, rfl, handler, rfl⟩
    · obtain ⟨type, htype, hnode⟩ := TypeExpr.exists_of_mem_allNodes inside
      obtain ⟨category, hcategory, rfl⟩ := List.mem_map.mp htype
      rw [categoryTypes_handlerAlias]
      exact .inr ⟨(category, _), List.mem_map.mpr ⟨category, hcategory, rfl⟩, hnode⟩

/--
In what a path of a container gets, each reference is the imported type of handlers, as the whole
type of the alias, or it stands in the type of a category. There it has no arguments, and leads to a
declaration that the path had: the first one with the name of the category, and behind it, exactly
for responses, to an interface or a type alias directly in that declaration.
-/
theorem appended_references_lead_to_declarations {transformer : Transformer} {tree : Tree}
    {place child : Nat} {path : Namespace}
    (hpath : pathAt? tree.statements place child = some path) :
    ∃ after, pathAt? (transformer.transform tree).value.statements
        ((if transformer.config.routeTypeName.isSome then 1 else 0) + place) child = some after ∧
      ∀ statement ∈ appended path after,
        (∀ type ∈ declaredTypes statement, ∀ segments args,
          .reference segments args ∈ type.nodes →
            (∃ handler : TypeAlias, statement = .aliasDecl handler ∧
                handler.type = .reference segments args ∧ segments = ["RequestHandler"]) ∨
              ∃ part ∈ categoryTypes statement, .reference segments args ∈ part.2.nodes) ∧
        ∀ part ∈ categoryTypes statement, ∀ segments args,
          .reference segments args ∈ part.2.nodes → args = [] ∧ LeadsTo path part.1 segments := by
  refine ⟨_, pathAt?_transform transformer hpath, fun statement hstatement => ?_⟩
  rw [appended_appendToPath] at hstatement
  split at hstatement
  case h_1 record described =>
    refine ⟨fun type htype segments args hnode =>
      reference_of_mem_declarations hstatement htype hnode, ?_⟩
    intro part hpart segments args hnode
    rw [categoryTypes_of_mem_declarations hstatement part hpart] at hnode
    exact leadsTo_of_mem_nodes_resolve hnode
  case h_2 => cases hstatement

/-- A path that declares its responses twice; the interface is shadowed by the namespace. -/
def shadowedPath : Namespace where
  name := "FindPets"
  body := some [.namespaceDecl { name := "Responses", body := some [.interfaceDecl { name := "$200" }] },
    .interfaceDecl { name := "Responses" }]

def shadowedTransformer : Transformer :=
  ⟨{ routeTypeName := some "Route" }, Table.insert {} ⟨"findPets", .get, "/pets"⟩⟩

theorem appended_references_lead_to_declarations_pets :
    let tree : Tree :=
      ⟨[.namespaceDecl { name := "Paths", body := some [.namespaceDecl shadowedPath] }]⟩
    let segments := ["Paths", "FindPets", "Responses", "$200"]
    pathAt? tree.statements 0 0 = some shadowedPath ∧ ∃ after statement part,
      pathAt? (shadowedTransformer.transform tree).value.statements 1 0 = some after ∧
        statement ∈ appended shadowedPath after ∧ part ∈ categoryTypes statement ∧
        .reference segments [] ∈ part.2.nodes ∧ part.1 = .successResponses ∧
        LeadsTo shadowedPath .successResponses segments := by
  intro tree segments
  let config := shadowedTransformer.config
  let record : Record := ⟨"findPets", .get, "/pets"⟩
  have hpath : pathAt? tree.statements 0 0 = some shadowedPath := rfl
  obtain ⟨after, place, references⟩ :=
    @appended_references_lead_to_declarations shadowedTransformer tree 0 0 shadowedPath hpath
  have grown := Option.some.inj (place.symm.trans (pathAt?_transform shadowedTransformer hpath))
  have found : shadowedTransformer.table.lookup? "FindPets" = some record := by decide +kernel
  have described : describedBy "Paths" shadowedTransformer.table shadowedPath = .ok record := by
    simp only [describedBy, shadowedPath, found]
  have statement : .interfaceDecl (descriptor "Paths" config shadowedPath record) ∈
      appended shadowedPath after := by
    rw [grown, appended_appendToPath, described]
    exact List.mem_cons_self
  have part : (.successResponses, resolve "Paths" shadowedPath .unknown .successResponses) ∈
      categoryTypes (.interfaceDecl (descriptor "Paths" config shadowedPath record)) := by
    rw [categoryTypes_descriptor]
    exact List.mem_map.mpr ⟨.successResponses, by decide, rfl⟩
  have node : .reference segments [] ∈
      (resolve "Paths" shadowedPath .unknown .successResponses).nodes := by
    have type : resolve "Paths" shadowedPath .unknown .successResponses =
        .union [.reference segments []] := rfl
    rw [type]
    simp [TypeExpr.nodes, TypeExpr.allNodes]
  have leads := ((references _ statement).2 _ part segments [] node).2
  exact ⟨hpath, after, _, _, place, statement, part, node, rfl, leads⟩

end TypedRoutes.Route
