import TypedRoutes.Proofs.Route.Configuration
import TypedRoutes.Proofs.Route.Names

/-!
What a path declares and what its descriptor shows of it. The types of the six categories are told
by the first statement of each name and, for responses, by the types directly inside it; members
are optional exactly where nothing is declared, and the handler is typed with four of them.
-/

set_option autoImplicit false
set_option relaxedAutoImplicit false

namespace TypedRoutes.Route

open Declaration (Interface Namespace Property Statement TypeExpr typeNames)
open Options (Config Placeholder)

def decimalDigits : List Char := ['0', '1', '2', '3', '4', '5', '6', '7', '8', '9']

/-- Names of responses that tell of success: `$2` and exactly two decimal digits. -/
def IsSuccess (name : String) : Prop :=
  ∃ tens ∈ decimalDigits, ∃ units ∈ decimalDigits, name = String.ofList ['$', '2', tens, units]

instance : DecidablePred IsSuccess := fun name =>
  decidable_of_iff (decimalDigits.any fun tens => decimalDigits.any fun units =>
    name == String.ofList ['$', '2', tens, units]) (by simp [IsSuccess])

private theorem isDigit_iff_mem_decimalDigits {c : Char} :
    c.isDigit = true ↔ c ∈ decimalDigits := by
  constructor
  · intro digit
    have digits : ∀ n < 10, Char.ofNat (48 + n) ∈ decimalDigits := by decide
    have range : 48 ≤ c.toNat ∧ c.toNat ≤ 57 := by
      simpa [Char.isDigit, UInt32.le_iff_toNat_le] using digit
    have member := digits (c.toNat - 48) (by omega)
    rwa [show 48 + (c.toNat - 48) = c.toNat by omega, Char.ofNat_toNat] at member
  · intro member
    have digits : decimalDigits.all Char.isDigit = true := by decide
    exact List.all_eq_true.mp digits c member

private theorem isSuccessName_iff {name : String} : isSuccessName name = true ↔ IsSuccess name := by
  unfold isSuccessName
  split
  case h_1 tens units chars =>
    have text : name = String.ofList ['$', '2', tens, units] := by
      rw [← chars, String.ofList_toList]
    rw [Bool.and_eq_true, isDigit_iff_mem_decimalDigits, isDigit_iff_mem_decimalDigits]
    constructor
    · rintro ⟨htens, hunits⟩
      exact ⟨tens, htens, units, hunits, text⟩
    · rintro ⟨tens', htens, units', hunits, same⟩
      rw [same, String.toList_ofList] at chars
      cases chars
      exact ⟨htens, hunits⟩
  case h_2 other =>
    constructor
    · nofun
    · rintro ⟨tens, -, units, -, same⟩
      exact absurd (by rw [same, String.toList_ofList]) (other tens units)

def responseReference (container : String) (path : Namespace) (name : String) : TypeExpr :=
  .reference [container, path.name, "Responses", name] []

/-- The union of some types, and a placeholder where there are none. -/
def unionOr (placeholder : TypeExpr) : List TypeExpr → TypeExpr
  | [] => placeholder
  | first :: rest => .union (first :: rest)

def unionMembers : TypeExpr → List TypeExpr
  | .union members => members
  | _ => []

section Resolution

variable (container : String) (path : Namespace) (placeholder : Placeholder)

private theorem resolve_of_single {category : Category} {child : Statement}
    (single : category.isResponse = false)
    (first : FirstDeclared category.lookupName path.statements child) :
    resolve container path placeholder category =
      .reference [container, path.name, category.lookupName] [] := by
  simp [resolve, findDeclaration?_eq_some_iff.mpr first, single, reference, TypeExpr.named]

private theorem resolve_of_absent {category : Category}
    (absent : ∀ child, ¬ FirstDeclared category.lookupName path.statements child) :
    resolve container path placeholder category = placeholderType placeholder := by
  have nothing : findDeclaration? category.lookupName path.statements = none := by
    refine Option.eq_none_iff_forall_not_mem.mpr fun child found => absent child ?_
    exact findDeclaration?_eq_some_iff.mp found
  rw [resolve, nothing]

private theorem resolve_of_response {category : Category} {child : Statement}
    (response : category.isResponse = true)
    (first : FirstDeclared category.lookupName path.statements child) :
    resolve container path placeholder category =
      unionOr (placeholderType placeholder) ((responseNames category child).map fun name =>
        .reference [container, path.name, category.lookupName, name] []) := by
  rw [resolve, findDeclaration?_eq_some_iff.mpr first]
  simp only [response, if_true]
  cases responseNames category child <;> rfl

private theorem resolve_responses {responses : Namespace}
    (first : FirstDeclared "Responses" path.statements (.namespaceDecl responses)) :
    resolve container path placeholder .responses = unionOr (placeholderType placeholder)
      ((typeNames responses.statements).map (responseReference container path)) := by
  have names : responseNames .responses (.namespaceDecl responses) =
      typeNames responses.statements := List.filter_eq_self.mpr fun _ _ => rfl
  rw [← names]
  exact @resolve_of_response container path placeholder .responses _ rfl first

private theorem resolve_successResponses {responses : Namespace}
    (first : FirstDeclared "Responses" path.statements (.namespaceDecl responses)) :
    resolve container path placeholder .successResponses = unionOr (placeholderType placeholder)
      (((typeNames responses.statements).filter fun name => IsSuccess name).map
        (responseReference container path)) := by
  have names : responseNames .successResponses (.namespaceDecl responses) =
      (typeNames responses.statements).filter fun name => IsSuccess name := by
    refine List.filter_congr fun name _ => ?_
    rw [Bool.eq_iff_iff, decide_eq_true_iff]
    exact isSuccessName_iff
  rw [← names]
  exact @resolve_of_response container path placeholder .successResponses _ rfl first

private theorem responseNames_of_no_namespace {child : Statement} (category : Category)
    (other : ∀ responses, child ≠ .namespaceDecl responses) :
    responseNames category child = [] := by
  cases child with
  | namespaceDecl responses => exact absurd rfl (other responses)
  | _ => rfl

private theorem resolve_of_no_namespace {category : Category}
    (response : category.isResponse = true) (none : ∀ responses,
      ¬ FirstDeclared category.lookupName path.statements (.namespaceDecl responses)) :
    resolve container path placeholder category = placeholderType placeholder := by
  by_cases present : ∃ child, FirstDeclared category.lookupName path.statements child
  · obtain ⟨child, first⟩ := present
    have other : ∀ responses, child ≠ .namespaceDecl responses := by
      rintro responses rfl
      exact none responses first
    rw [resolve_of_response container path placeholder response first,
      responseNames_of_no_namespace category other]
    rfl
  · exact resolve_of_absent container path placeholder (not_exists.mp present)

private theorem resolve_beq_placeholderType_iff (category : Category) :
    (resolve container path placeholder category == placeholderType placeholder) = true ↔
      resolve container path placeholder category = placeholderType placeholder := by
  rw [placeholderType_eq, TypeExpr.beq_keyword]
  cases resolve container path placeholder category with
  | keyword word => simp [TypeExpr.isKeyword]
  | _ => simp [TypeExpr.isKeyword]

end Resolution

private theorem unionMembers_unionOr (placeholder : Placeholder) (types : List TypeExpr) :
    unionMembers (unionOr (placeholderType placeholder) types) = types := by
  cases types with
  | nil => cases placeholder <;> rfl
  | cons first rest => rfl

private theorem unionMembers_successResponses_sublist (container : String) (path : Namespace)
    (placeholder : Placeholder) :
    (unionMembers (resolve container path placeholder .successResponses)).Sublist
      (unionMembers (resolve container path placeholder .responses)) := by
  by_cases present : ∃ responses,
      FirstDeclared "Responses" path.statements (.namespaceDecl responses)
  · obtain ⟨responses, first⟩ := present
    rw [resolve_responses container path placeholder first,
      resolve_successResponses container path placeholder first, unionMembers_unionOr,
      unionMembers_unionOr]
    exact List.filter_sublist.map _
  · have none := not_exists.mp present
    have success := @resolve_of_no_namespace container path placeholder .successResponses rfl none
    have all := @resolve_of_no_namespace container path placeholder .responses rfl none
    rw [success, all]

/-- The type of the first member of an interface with a name. -/
def memberType? (decl : Interface) (name : String) : Option TypeExpr :=
  (decl.members.find? fun member => member.name == name).map Property.type

def singleCategories : List (Category × String) :=
  [(.pathParameters, "PathParameters"), (.requestBody, "RequestBody"),
    (.queryParameters, "QueryParameters"), (.headerParameters, "HeaderParameters")]

private theorem lookupName_of_mem_singleCategories {category : Category} {name : String}
    (single : (category, name) ∈ singleCategories) :
    category.lookupName = name ∧ category.isResponse = false := by
  have all : ∀ entry ∈ singleCategories,
      entry.1.lookupName = entry.2 ∧ entry.1.isResponse = false := by decide
  exact all _ single

private theorem Category.eq_of_member_eq {category other : Category}
    (same : category.member = other.member) :
    category = other := by
  revert same
  cases category <;> cases other <;> decide

private theorem Category.member_ne_field (category : Category) (record : Record) :
    ∀ field ∈ record.fields, field.1 ≠ category.member := by
  rw [Record.fields]
  cases category <;> simp [Category.member]

private theorem memberType?_descriptor (container : String) (config : Config) (path : Namespace)
    (record : Record) (category : Category) :
    memberType? (descriptor container config path record) category.member =
      some (resolve container path config.placeholder category) := by
  cases category <;> rfl

private theorem descriptor_member {container : String} {config : Config} {path : Namespace}
    {record : Record} {member : Property} {category : Category}
    (hmember : member ∈ (descriptor container config path record).members)
    (named : member.name = category.member) :
    member.type = resolve container path config.placeholder category ∧
      (member.optional = true ↔ member.type = placeholderType config.placeholder) := by
  obtain literal | shown := List.mem_append.mp hmember
  · obtain ⟨field, hfield, rfl⟩ := List.mem_map.mp literal
    exact absurd named (category.member_ne_field record field hfield)
  · obtain ⟨other, -, rfl⟩ := List.mem_map.mp shown
    obtain rfl : other = category := Category.eq_of_member_eq named
    exact ⟨rfl, resolve_beq_placeholderType_iff container path config.placeholder other⟩

/--
The types of a path and its descriptor agree with its body. A category other than the responses is
the reference to the first statement of its name, if there is one. Responses are the union of the
references to the types directly in the first statement of their name, if that is a namespace with
types in it, in their order and with repetitions; success responses are those of them that are
named after a status of success. All else is the placeholder. The descriptor shows the six
categories behind the fields of its record, each optional exactly where it is the placeholder, and
the handler is typed with four of its members.
-/
theorem descriptor_agrees_with_body (container : String) (config : Config) (path : Namespace)
    (record : Record) (name : String) :
    let type := resolve container path config.placeholder
    let placeholder := placeholderType config.placeholder
    let shown := descriptor container config path record
    (∀ category name, (category, name) ∈ singleCategories →
      (∀ child, FirstDeclared name path.statements child →
        type category = .reference [container, path.name, name] []) ∧
      ((∀ child, ¬ FirstDeclared name path.statements child) → type category = placeholder)) ∧
    (∀ responses, FirstDeclared "Responses" path.statements (.namespaceDecl responses) →
      type .responses = unionOr placeholder
        ((typeNames responses.statements).map (responseReference container path)) ∧
      type .successResponses = unionOr placeholder
        (((typeNames responses.statements).filter fun name => IsSuccess name).map
          (responseReference container path))) ∧
    ((∀ responses, ¬ FirstDeclared "Responses" path.statements (.namespaceDecl responses)) →
      type .responses = placeholder ∧ type .successResponses = placeholder) ∧
    (unionMembers (type .successResponses)).Sublist (unionMembers (type .responses)) ∧
    shown.members.map Property.name = ["operationId", "method", "expressPath", "openapiPath",
      "pathParams", "responses", "successResponses", "requestBody", "queryParams", "headers"] ∧
    (∀ member ∈ shown.members, ∀ category : Category, member.name = category.member →
      member.type = type category ∧ (member.optional = true ↔ member.type = placeholder)) ∧
    ∃ args, (handlerAlias container config path name).type = .reference ["RequestHandler"] args ∧
      args.map some =
        ["pathParams", "responses", "requestBody", "queryParams"].map (memberType? shown) := by
  intro type placeholder shown
  refine ⟨?_, ?_, ?_, unionMembers_successResponses_sublist .., rfl, ?_, ?_⟩
  · intro category name single
    obtain ⟨rfl, whole⟩ := lookupName_of_mem_singleCategories single
    exact ⟨fun child first => resolve_of_single container path config.placeholder whole first,
      fun absent => resolve_of_absent container path config.placeholder absent⟩
  · intro responses first
    exact ⟨resolve_responses container path config.placeholder first,
      resolve_successResponses container path config.placeholder first⟩
  · intro none
    exact ⟨resolve_of_no_namespace container path config.placeholder rfl none,
      resolve_of_no_namespace container path config.placeholder rfl none⟩
  · intro member hmember category named
    exact descriptor_member hmember named
  · have names : ["pathParams", "responses", "requestBody", "queryParams"] =
        handlerCategories.map Category.member := rfl
    refine ⟨handlerArgs container path config.placeholder, rfl, ?_⟩
    rw [names, handlerArgs, List.map_map, List.map_map]
    refine List.map_congr_left fun category _ => ?_
    exact (memberType?_descriptor container config path record category).symm

/-- Responses with a repeated name, a namespace and a name of three digits among them. -/
def petResponses : Namespace where
  name := "Responses"
  body := some [.aliasDecl { name := "Default", type := .named ["Error"] },
    .interfaceDecl { name := "$200" }, .namespaceDecl { name := "$201" },
    .interfaceDecl { name := "$2000" }, .aliasDecl { name := "$200", type := .keyword .string }]

def respondingPath : Namespace where
  name := "FindPets"
  body := some [.interfaceDecl { name := "PathParameters" }, .namespaceDecl petResponses,
    .namespaceDecl { name := "PathParameters" }, .interfaceDecl { name := "Responses" }]

theorem descriptor_agrees_with_body_pets :
    let type := resolve "Paths" respondingPath .unknown
    FirstDeclared "PathParameters" respondingPath.statements
        (.interfaceDecl { name := "PathParameters" }) ∧
      FirstDeclared "Responses" respondingPath.statements (.namespaceDecl petResponses) ∧
      type .pathParameters = .reference ["Paths", "FindPets", "PathParameters"] [] ∧
      type .responses = .union (["Default", "$200", "$2000", "$200"].map
        (responseReference "Paths" respondingPath)) ∧
      type .successResponses =
        .union (["$200", "$200"].map (responseReference "Paths" respondingPath)) ∧
      ∃ member ∈ (descriptor "Paths" {} respondingPath ⟨"findPets", .get, "/pets"⟩).members,
        member.name = "pathParams" ∧ member.optional = false ∧
          member.type = .reference ["Paths", "FindPets", "PathParameters"] [] := by
  intro type
  have parameters : FirstDeclared "PathParameters" respondingPath.statements
      (.interfaceDecl { name := "PathParameters" }) := findDeclaration?_eq_some_iff.mp rfl
  have responses : FirstDeclared "Responses" respondingPath.statements
      (.namespaceDecl petResponses) := findDeclaration?_eq_some_iff.mp rfl
  have success : (typeNames petResponses.statements).filter (fun name => IsSuccess name) =
      ["$200", "$200"] := by decide
  obtain ⟨single, unions, -, -, -, members, -⟩ := descriptor_agrees_with_body "Paths" {}
    respondingPath ⟨"findPets", .get, "/pets"⟩ "Route"
  have reference := (single .pathParameters _ List.mem_cons_self).1 _ parameters
  obtain ⟨all, successes⟩ := unions _ responses
  rw [success] at successes
  refine ⟨parameters, responses, reference, all, successes, ?_⟩
  have hmember : ⟨"pathParams", false, type .pathParameters, none⟩ ∈
      (descriptor "Paths" {} respondingPath ⟨"findPets", .get, "/pets"⟩).members :=
    List.mem_of_getElem? (i := 4) rfl
  obtain ⟨shown, -⟩ := members _ hmember .pathParameters rfl
  exact ⟨_, hmember, rfl, rfl, shown.trans reference⟩

end TypedRoutes.Route
