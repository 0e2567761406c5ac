import TypedRoutes.Proofs.Declaration.RoundTrip
import TypedRoutes.Proofs.Json.ReadBack

/-!
Declaration trees from the texts of their JSON form. A tree has no number in its JSON form, so its
texts are read back as long as it is not nested too deeply.
-/

set_option autoImplicit false
set_option relaxedAutoImplicit false

namespace TypedRoutes.Declaration

open Json (Reading ok_bind)

private theorem Statement.exists_kindField (statement : Statement) :
    ∃ kind fields, statement.toJson = .object (kindField (StatementKind.name kind) :: fields) ∧
      ∀ field ∈ fields, field.1 ≠ tagName := by
  cases statement with
  | importDecl decl => exact ⟨.importDecl, _, rfl, decl.fields_ne_tagName⟩
  | namespaceDecl decl => exact ⟨.namespaceDecl, _, rfl, decl.fields_ne_tagName⟩
  | interfaceDecl decl => exact ⟨.interfaceDecl, _, rfl, by simp [tagName]⟩
  | aliasDecl decl =>
    refine ⟨.aliasDecl, _, rfl, ?_⟩
    cases decl.comment <;> simp [optionalField, tagName]
  | verbatim text => exact ⟨.verbatim, _, rfl, by simp [tagName]⟩

private theorem checkedFields_of_fieldsToJson {fields : List (String × Json)}
    (others : ∀ field ∈ fields, field.1 ≠ tagName) {readings : List (String × Reading)}
    (whole : Reading.fieldsToJson readings = .ok fields) (tagSeen : Bool) :
    checkedFields tagSeen readings = .ok fields := by
  induction fields generalizing readings tagSeen with
  | nil =>
    obtain rfl := Reading.eq_nil_of_fieldsToJson whole
    rfl
  | cons field rest ih =>
    obtain ⟨key, value⟩ := field
    obtain ⟨own, elsewhere⟩ := List.forall_mem_cons.mp others
    obtain ⟨reading, more, rfl, first, later⟩ := Reading.eq_cons_of_fieldsToJson whole
    rw [checkedFields, if_neg own, first, ok_bind, ih elsewhere later]
    rfl

private theorem Statement.ofReading_of_toJson {reading : Reading} {statement : Statement}
    (whole : reading.toJson = .ok statement.toJson) :
    Statement.ofReading reading = .ok statement := by
  obtain ⟨kind, fields, shape, others⟩ := statement.exists_kindField
  have decoded : Statement.ofJson statement.toJson = .ok statement := by
    rw [Statement.ofJson, decodeValue_statement]
    rfl
  rw [shape] at whole
  obtain ⟨readings, rfl, inside⟩ := Reading.eq_object_of_toJson whole
  obtain ⟨tag, more, rfl, first, later⟩ := Reading.eq_cons_of_fieldsToJson inside
  obtain rfl := Reading.eq_string_of_toJson first
  have known : checkedFields.checkedTag false (.string kind.name) = .ok (.string kind.name) := by
    cases kind <;> rfl
  have checked : checkedFields false (("kind", .string kind.name) :: more) =
      .ok (kindField kind.name :: fields) := by
    have rest := checkedFields_of_fieldsToJson others later (false || decide ("kind" = tagName))
    have tag : "kind" = tagName := rfl
    rw [checkedFields, if_pos tag, known, ok_bind, rest]
    rfl
  have ended : Reading.ending none = .ok () := rfl
  rw [Statement.ofReading]
  simp only [checked, ended, ok_bind]
  rw [← shape, decoded]
  rfl

private theorem Statement.allOfReadings_of_toJson {statements : List Statement}
    {readings : List (Option Json.Position × Reading)}
    (whole : Reading.itemsToJson readings = .ok (Statement.listToJson statements)) :
    Statement.allOfReadings readings = .ok statements := by
  induction statements generalizing readings with
  | nil =>
    obtain rfl := Reading.eq_nil_of_itemsToJson whole
    rfl
  | cons statement rest ih =>
    obtain ⟨place, reading, more, rfl, first, later⟩ := Reading.eq_cons_of_itemsToJson whole
    rw [Statement.allOfReadings, Statement.ofReading_of_toJson first, ok_bind, ih later, ok_bind]

private theorem Tree.ofReading_of_toJson {tree : Tree} {readings : List (String × Reading)}
    (whole : Reading.fieldsToJson readings =
      .ok [("statements", .array (Statement.listToJson tree.statements))]) :
    Tree.ofReading (.object readings none) = .ok tree := by
  obtain ⟨reading, more, rfl, first, later⟩ := Reading.eq_cons_of_fieldsToJson whole
  obtain rfl := Reading.eq_nil_of_fieldsToJson later
  obtain ⟨items, rfl, inside⟩ := Reading.eq_array_of_toJson first
  have statements := Statement.allOfReadings_of_toJson inside
  have list : Statement.listOfReading (.array items none) = .ok tree.statements := by
    rw [Statement.listOfReading, statements, ok_bind]
    rfl
  have taken : Tree.takeStatements none [("statements", .array items none)] =
      .ok (some tree.statements) := by
    rw [Tree.takeStatements, if_pos rfl, if_neg (by simp), list, ok_bind]
    rfl
  rw [Tree.ofReading, taken, ok_bind]
  rfl

private theorem areNumberFree_map {α : Type} {encode : α → Json} {values : List α}
    (each : ∀ value ∈ values, (encode value).isNumberFree) :
    Json.areNumberFree (values.map encode) := by
  induction values with
  | nil => rfl
  | cons value rest ih =>
    obtain ⟨own, others⟩ := List.forall_mem_cons.mp each
    exact Json.areNumberFree_cons_iff.mpr ⟨own, ih others⟩

private theorem isNumberFree_textsToJson (texts : List String) : (textsToJson texts).isNumberFree :=
  areNumberFree_map fun _ _ => rfl

private theorem haveNumberFree_optionalField (key : String) (text : Option String) :
    Json.haveNumberFree (optionalField key text) := by
  cases text <;> rfl

private theorem Property.isNumberFree_toJson {member : Property}
    (type : member.type.toJson.isNumberFree) : member.toJson.isNumberFree := by
  obtain ⟨name, optional, own, comment⟩ := member
  have comments := haveNumberFree_optionalField "comment" comment
  simp only [Property.toJson, Json.isNumberFree, List.cons_append, List.nil_append,
    Json.haveNumberFree, Bool.true_and, Bool.and_eq_true]
  exact ⟨type, comments⟩

private theorem TypeExpr.isNumberFree_toJson (type : TypeExpr) : type.toJson.isNumberFree := by
  induction type with
  | reference path args ih =>
    have texts := isNumberFree_textsToJson path
    cases args with
    | nil => simp [TypeExpr.toJson, kindField, Json.isNumberFree, Json.haveNumberFree, texts]
    | cons arg args =>
      have types := areNumberFree_map ih
      rw [← TypeExpr.listToJson_eq_map] at types
      simp [TypeExpr.toJson, kindField, Json.isNumberFree, Json.haveNumberFree, texts, types]
  | union members ih =>
    have types := areNumberFree_map ih
    rw [← TypeExpr.listToJson_eq_map] at types
    simp [TypeExpr.toJson, kindField, Json.isNumberFree, Json.haveNumberFree, types]
  | keyword word => rfl
  | stringLiteral value => rfl
  | array element ih =>
    simp [TypeExpr.toJson, kindField, Json.isNumberFree, Json.haveNumberFree, ih]
  | object members ih =>
    have properties := areNumberFree_map fun member hm =>
      Property.isNumberFree_toJson (ih member hm)
    rw [← Property.listToJson_eq_map] at properties
    simp [TypeExpr.toJson, kindField, Json.isNumberFree, Json.haveNumberFree, properties]
  | raw text => rfl

private theorem areNumberFree_properties (members : List Property) :
    Json.areNumberFree (Property.listToJson members) := by
  rw [Property.listToJson_eq_map]
  exact areNumberFree_map fun member _ =>
    Property.isNumberFree_toJson member.type.isNumberFree_toJson

mutual

private theorem Statement.isNumberFree_toJson :
    ∀ statement : Statement, statement.toJson.isNumberFree
  | .importDecl ⟨_, default, named, _⟩ => by
    have texts := isNumberFree_textsToJson named
    cases default <;> simp [Statement.toJson, Import.fields, kindField, optionalField,
      Json.isNumberFree, Json.haveNumberFree, texts]
  | .namespaceDecl ⟨_, _, _, none⟩ => rfl
  | .namespaceDecl ⟨_, _, _, some body⟩ => by
    have statements := Statement.areNumberFree_listToJson body
    simp [Statement.toJson, Namespace.fields, kindField, Json.isNumberFree, Json.haveNumberFree,
      statements]
  | .interfaceDecl ⟨_, _, members⟩ => by
    have properties := areNumberFree_properties members
    simp [Statement.toJson, kindField, Json.isNumberFree, Json.haveNumberFree, properties]
  | .aliasDecl ⟨_, _, own, comment⟩ => by
    have type := own.isNumberFree_toJson
    have comments := haveNumberFree_optionalField "comment" comment
    simp [Statement.toJson, kindField, Json.isNumberFree, Json.haveNumberFree, type, comments]
  | .verbatim _ => rfl

private theorem Statement.areNumberFree_listToJson : ∀ statements : List Statement,
    Json.areNumberFree (Statement.listToJson statements)
  | [] => rfl
  | statement :: rest => by
    have own := Statement.isNumberFree_toJson statement
    have others := Statement.areNumberFree_listToJson rest
    exact Json.areNumberFree_cons_iff.mpr ⟨own, others⟩

end

private theorem Tree.isNumberFree_toJson (tree : Tree) : tree.toJson.isNumberFree := by
  have statements := Statement.areNumberFree_listToJson tree.statements
  simp [Tree.toJson, Json.isNumberFree, Json.haveNumberFree, statements]

private theorem Tree.parse_of_spells {tree : Tree} {chars : List Char}
    (spells : Json.Spells tree.toJson chars) (deep : tree.toJson.depth < Json.nestingLimit) :
    Tree.parse (String.ofList chars) = .ok tree := by
  obtain ⟨readings, whole, decodes⟩ := @Json.decodeText_of_spells
    [("statements", .array (Statement.listToJson tree.statements))] chars spells deep
    (fun key => key ≠ "statements") (by simp)
  rw [Tree.parse, decodes]
  exact Tree.ofReading_of_toJson whole

theorem Tree.parse_text {tree : Tree} (deep : tree.toJson.depth < Json.nestingLimit) :
    Tree.parse tree.toJson.pretty = .ok tree ∧ Tree.parse tree.toJson.compact = .ok tree :=
  ⟨Tree.parse_of_spells (Json.spells_prettyChars 0 tree.isNumberFree_toJson) deep,
    Tree.parse_of_spells (Json.spells_compactChars tree.isNumberFree_toJson) deep⟩

end TypedRoutes.Declaration
