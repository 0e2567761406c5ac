import TypedRoutes.Declaration.Decoding
import TypedRoutes.Declaration.Encoding
import TypedRoutes.Proofs.Declaration.NormalForm
import TypedRoutes.Proofs.Json.Reading

/-!
Declaration trees from the JSON form that they are written in. What a record leaves out when it is
written is what is put in its place when it is read, so every type, property and statement comes
back as it was, inside another value and by itself.
-/

set_option autoImplicit false
set_option relaxedAutoImplicit false

namespace TypedRoutes.Declaration

open Json (ok_bind)

theorem TypeExpr.listToJson_eq_map (types : List TypeExpr) :
    TypeExpr.listToJson types = types.map TypeExpr.toJson := by
  induction types with
  | nil => rfl
  | cons type rest ih => rw [TypeExpr.listToJson, ih, List.map_cons]

theorem Property.listToJson_eq_map (members : List Property) :
    Property.listToJson members = members.map Property.toJson := by
  induction members with
  | nil => rfl
  | cons member rest ih => rw [Property.listToJson, ih, List.map_cons]

theorem Statement.listToJson_eq_map (statements : List Statement) :
    Statement.listToJson statements = statements.map Statement.toJson := by
  induction statements with
  | nil => rfl
  | cons statement rest ih => rw [Statement.listToJson, ih, List.map_cons]

private theorem decodeValue_text (inside : Bool) (text : String) :
    decodeValue inside .text (.string text) = .ok (.text text) := rfl

private theorem decodeValue_flag (inside : Bool) (flag : Bool) :
    decodeValue inside .flag (.bool flag) = .ok (.flag flag) := rfl

private theorem decodeValue_list {α : Type} {inside : Bool} {kind : FieldKind} {encode : α → Json}
    {wrap : α → FieldValue} {values : List α}
    (each : ∀ value ∈ values, decodeValue inside kind (encode value) = .ok (wrap value)) :
    decodeValue inside (.list kind) (.array (values.map encode)) =
      .ok (.list (values.map wrap)) := by
  have items : decodeEach inside kind (values.map encode) = .ok (values.map wrap) := by
    induction values with
    | nil => rfl
    | cons value rest ih =>
      obtain ⟨own, others⟩ := List.forall_mem_cons.mp each
      rw [List.map_cons, decodeEach, own, ih others]
      rfl
  rw [decodeValue, items]
  rfl

private theorem decodeValue_texts (inside : Bool) (texts : List String) :
    decodeValue inside (.list .text) (textsToJson texts) = .ok (.list (texts.map .text)) :=
  decodeValue_list fun _ _ => rfl

private theorem findTag_kindField {α : Type} (inside : Bool) {kinds : List α} {name : α → String}
    {kind : α} (listed : kinds.find? (fun other => name other == name kind) = some kind)
    {fields : List (String × Json)} (others : ∀ field ∈ fields, field.1 ≠ tagName) :
    findTag inside kinds name none (kindField (name kind) :: fields) = .ok kind := by
  have passed (seen : Option α) : findTag inside kinds name seen fields =
      findTag inside kinds name seen [] := by
    induction fields with
    | nil => rfl
    | cons field rest ih =>
      obtain ⟨own, others⟩ := List.forall_mem_cons.mp others
      rw [findTag, if_neg own, ih others]
  have decoded : decodeTag inside kinds name (.string (name kind)) = .ok kind := by
    rw [decodeTag, listed]
  have tag : "kind" = tagName := rfl
  rw [kindField, findTag, if_pos tag, decoded]
  exact passed (some kind)

private theorem Taken.complete_of_isSome {taken : Taken} {specs : List FieldSpec}
    (present : ∀ spec ∈ specs, spec.required → (entryValue? spec.name taken).isSome) :
    taken.complete specs = .ok taken := by
  have none : specs.find? (fun spec =>
      spec.required && (entryValue? spec.name taken).isNone) = none := by
    refine List.find?_eq_none.mpr fun spec hm lacks => ?_
    obtain ⟨required, absent⟩ := Bool.and_eq_true_iff.mp lacks
    have there := present spec hm required
    rw [Option.isNone_iff_eq_none.mp absent] at there
    cases there
  rw [Taken.complete, none]

private theorem Taken.list?_eq {α : Type} (wrap : α → FieldValue) {taken : Taken} {name : String}
    {values : List α} {item : FieldValue → Option α}
    (held : entryValue? name taken = some (.list (values.map wrap)))
    (back : ∀ value, item (wrap value) = some value) : taken.list? name item = some values := by
  have items : (values.map wrap).filterMap item = values := by
    rw [List.filterMap_map, Function.comp_def]
    simp only [back, List.filterMap_some]
  rw [Taken.list?, held]
  exact congrArg some items

private theorem Taken.list_eq {α : Type} (wrap : α → FieldValue) {taken : Taken} {name : String}
    {values : List α} {item : FieldValue → Option α}
    (held : entryValue? name taken = some (.list (values.map wrap)))
    (back : ∀ value, item (wrap value) = some value) : taken.list name item = values := by
  rw [Taken.list, Taken.list?_eq wrap held back]
  rfl

section Tagged

variable {inside : Bool} {fields : List (String × Json)} {taken : Taken}

private theorem decodeFields_unknown {specs : List FieldSpec} {key : String} (value : Json)
    (unknown : specs.find? (fun spec => spec.name == key) = none) :
    decodeFields inside specs taken ((key, value) :: fields) =
      decodeFields inside specs taken fields := by
  rw [decodeFields, unknown]

private theorem decodeValue_taggedType (kind : TypeKind) {type : TypeExpr}
    (others : ∀ field ∈ fields, field.1 ≠ tagName)
    (reads : decodeFields true kind.shape.fields [] fields = .ok taken)
    (complete : taken.complete kind.shape.fields = .ok taken)
    (built : kind.build taken = type) :
    decodeValue inside .type (.object (kindField kind.name :: fields)) = .ok (.type type) := by
  have listed : TypeKind.all.find? (fun other => other.name == kind.name) = some kind := by
    cases kind <;> rfl
  have unknown : kind.shape.fields.find? (fun spec => spec.name == "kind") = none := by
    cases kind <;> rfl
  rw [decodeValue, findTag_kindField inside listed others, ok_bind, kindField,
    decodeFields_unknown _ unknown, reads, ok_bind, complete, ok_bind, built]

private theorem decodeValue_taggedStatement (kind : StatementKind) {statement : Statement}
    (others : ∀ field ∈ fields, field.1 ≠ tagName)
    (reads : decodeFields true kind.shape.fields [] fields = .ok taken)
    (complete : taken.complete kind.shape.fields = .ok taken)
    (built : kind.build taken = statement) :
    decodeValue inside .statement (.object (kindField kind.name :: fields)) =
      .ok (.statement statement) := by
  have listed : StatementKind.all.find? (fun other => other.name == kind.name) = some kind := by
    cases kind <;> rfl
  have unknown : kind.shape.fields.find? (fun spec => spec.name == "kind") = none := by
    cases kind <;> rfl
  rw [decodeValue, findTag_kindField inside listed others, ok_bind, kindField,
    decodeFields_unknown _ unknown, reads, ok_bind, complete, ok_bind, built]

end Tagged

private theorem Keyword.decode_word (keyword : Keyword) :
    Keyword.decode (.string keyword.word) = .ok keyword := by
  cases keyword <;> rfl

private theorem decodeValue_property {inside : Bool} {member : Property}
    (type : decodeValue inside .type member.type.toJson = .ok (.type member.type)) :
    decodeValue inside .property member.toJson = .ok (.property member) := by
  obtain ⟨name, optional, own, comment⟩ := member
  let taken : Taken := [("name", .text name), ("optional", .flag optional), ("type", .type own)] ++
    (comment.map fun text => ("comment", FieldValue.text text)).toList
  have reads : decodeFields inside Property.shape.fields []
      ([("name", .string name), ("optional", .bool optional), ("type", own.toJson)] ++
        optionalField "comment" comment) = .ok taken := by
    cases comment <;> simp [decodeFields, decodeValue_text, decodeValue_flag, type,
      Property.shape, mustHave, mayHave, mayLack, optionalField, entryValue?, ok_bind, taken,
      Json.isNull]
  have complete : taken.complete Property.shape.fields = .ok taken := by
    refine Taken.complete_of_isSome ?_
    simp [taken, Property.shape, mustHave, mayHave, mayLack, entryValue?]
  have built : Property.build taken = ⟨name, optional, own, comment⟩ := by
    cases comment <;> rfl
  rw [Property.toJson, decodeValue, reads, ok_bind, complete, ok_bind, built]

section Types

variable {inside : Bool}

private theorem decodeValue_reference {path : List String} {args : List TypeExpr}
    (types : decodeValue true (.list .type) (.array (args.map TypeExpr.toJson)) =
      .ok (.list (args.map .type))) :
    decodeValue inside .type (TypeExpr.reference path args).toJson =
      .ok (.type (.reference path args)) := by
  have texts := decodeValue_texts true path
  cases args with
  | nil =>
    let taken : Taken := [("path", .list (path.map .text))]
    have reads : decodeFields true TypeKind.reference.shape.fields []
        [("path", textsToJson path)] = .ok taken := by
      simp [decodeFields, TypeKind.shape, mustHave, mayHave, entryValue?, texts, ok_bind, taken]
    have complete : taken.complete TypeKind.reference.shape.fields = .ok taken := by
      refine Taken.complete_of_isSome ?_
      simp [taken, TypeKind.shape, mustHave, mayHave, entryValue?]
    have path_back : taken.list "path" FieldValue.asText? = path :=
      Taken.list_eq FieldValue.text rfl fun _ => rfl
    refine decodeValue_taggedType .reference (by simp [tagName]) reads complete ?_
    rw [TypeKind.build, path_back]
    rfl
  | cons arg args =>
    let taken : Taken := [("path", .list (path.map .text)),
      ("args", .list ((arg :: args).map .type))]
    have reads : decodeFields true TypeKind.reference.shape.fields []
        [("path", textsToJson path), ("args", .array (TypeExpr.listToJson (arg :: args)))] =
          .ok taken := by
      rw [List.map_cons, List.map_cons] at types
      rw [TypeExpr.listToJson_eq_map]
      simp [decodeFields, TypeKind.shape, mustHave, mayHave, entryValue?, texts, types, ok_bind,
        taken]
    have complete : taken.complete TypeKind.reference.shape.fields = .ok taken := by
      refine Taken.complete_of_isSome ?_
      simp [taken, TypeKind.shape, mustHave, mayHave, entryValue?]
    have path_back : taken.list "path" FieldValue.asText? = path :=
      Taken.list_eq FieldValue.text rfl fun _ => rfl
    have args_back : taken.list "args" FieldValue.asType? = arg :: args :=
      Taken.list_eq FieldValue.type rfl fun _ => rfl
    refine decodeValue_taggedType .reference (by simp [tagName]) reads complete ?_
    rw [TypeKind.build, path_back, args_back]

private theorem decodeValue_singleField (kind : TypeKind) {name : String} {item : FieldKind}
    {value : Json} {read : FieldValue} {type : TypeExpr}
    (shape : kind.shape.fields = [mustHave name item] ∨ kind.shape.fields = [mayHave name item])
    (other : name ≠ tagName) (reads : decodeValue true item value = .ok read)
    (built : kind.build [(name, read)] = type) :
    decodeValue inside .type (.object [kindField kind.name, (name, value)]) = .ok (.type type) := by
  have taken : decodeFields true kind.shape.fields [] [(name, value)] = .ok [(name, read)] := by
    obtain shape | shape := shape <;>
      simp [shape, decodeFields, mustHave, mayHave, entryValue?, reads, ok_bind]
  have complete : Taken.complete [(name, read)] kind.shape.fields = .ok [(name, read)] := by
    refine Taken.complete_of_isSome ?_
    obtain shape | shape := shape <;> simp [shape, mustHave, mayHave, entryValue?]
  exact decodeValue_taggedType kind (by simpa using other) taken complete built

end Types

private theorem decodeValue_type (type : TypeExpr) : ∀ inside : Bool,
    decodeValue inside .type type.toJson = .ok (.type type) := by
  induction type with
  | reference path args ih =>
    intro inside
    exact decodeValue_reference (decodeValue_list fun arg hm => ih arg hm true)
  | union members ih =>
    intro inside
    have reads : decodeValue true (.list .type) (.array (TypeExpr.listToJson members)) =
        .ok (.list (members.map .type)) := by
      rw [TypeExpr.listToJson_eq_map]
      exact decodeValue_list fun member hm => ih member hm true
    refine decodeValue_singleField .union (Or.inl rfl) (by decide) reads ?_
    exact congrArg TypeExpr.union (Taken.list_eq FieldValue.type rfl fun _ => rfl)
  | keyword word =>
    intro inside
    have reads : decodeValue true .keyword (.string word.word) = .ok (.keyword word) := by
      rw [decodeValue, Keyword.decode_word]
      rfl
    exact decodeValue_singleField .keyword (Or.inl rfl) (by decide) reads rfl
  | stringLiteral value =>
    intro inside
    exact decodeValue_singleField .stringLiteral (Or.inl rfl) (by decide) rfl rfl
  | array element ih =>
    intro inside
    exact decodeValue_singleField .array (Or.inl rfl) (by decide) (ih true) rfl
  | object members ih =>
    intro inside
    have reads : decodeValue true (.list .property) (.array (Property.listToJson members)) =
        .ok (.list (members.map .property)) := by
      rw [Property.listToJson_eq_map]
      exact decodeValue_list fun member hm => decodeValue_property (ih member hm true)
    refine decodeValue_singleField .object (Or.inr rfl) (by decide) reads ?_
    exact congrArg TypeExpr.object (Taken.list_eq FieldValue.property rfl fun _ => rfl)
  | raw text =>
    intro inside
    exact decodeValue_singleField .raw (Or.inl rfl) (by decide) rfl rfl

private theorem decodeValue_properties (inside : Bool) (members : List Property) :
    decodeValue inside (.list .property) (.array (Property.listToJson members)) =
      .ok (.list (members.map .property)) := by
  rw [Property.listToJson_eq_map]
  exact decodeValue_list fun member _ => decodeValue_property (decodeValue_type member.type inside)

theorem Import.fields_ne_tagName (decl : Import) : ∀ field ∈ decl.fields, field.1 ≠ tagName := by
  unfold Import.fields
  cases decl.default <;> simp [optionalField, tagName]

theorem Namespace.fields_ne_tagName (decl : Namespace) :
    ∀ field ∈ decl.fields, field.1 ≠ tagName := by
  obtain ⟨name, declared, exported, body⟩ := decl
  cases body <;> simp [Namespace.fields, tagName]

section Statements

variable {inside : Bool}

private theorem decodeValue_import (decl : Import) :
    decodeValue inside .statement (Statement.importDecl decl).toJson =
      .ok (.statement (.importDecl decl)) := by
  obtain ⟨source, default, named, typeOnly⟩ := decl
  have texts := decodeValue_texts true named
  let taken : Taken := ("from", .text source) ::
    ((default.map fun text => ("default", FieldValue.text text)).toList ++
      [("named", .list (named.map .text)), ("typeOnly", .flag typeOnly)])
  have reads : decodeFields true StatementKind.importDecl.shape.fields []
      (Import.fields ⟨source, default, named, typeOnly⟩) = .ok taken := by
    cases default <;> simp [Import.fields, decodeFields, decodeValue_text, decodeValue_flag, texts,
      StatementKind.shape, mustHave, mayHave, mayLack, optionalField, entryValue?, ok_bind, taken,
      Json.isNull]
  have complete : taken.complete StatementKind.importDecl.shape.fields = .ok taken := by
    refine Taken.complete_of_isSome ?_
    simp [taken, StatementKind.shape, mustHave, mayHave, mayLack, entryValue?]
  have named_back : taken.list "named" FieldValue.asText? = named :=
    Taken.list_eq FieldValue.text (by cases default <;> rfl) fun _ => rfl
  refine decodeValue_taggedStatement .importDecl (Import.fields_ne_tagName _) reads complete ?_
  rw [StatementKind.build, named_back]
  cases default <;> rfl

private theorem decodeValue_interface (decl : Interface) :
    decodeValue inside .statement (Statement.interfaceDecl decl).toJson =
      .ok (.statement (.interfaceDecl decl)) := by
  obtain ⟨name, exported, members⟩ := decl
  have properties := decodeValue_properties true members
  let taken : Taken := [("name", .text name), ("exported", .flag exported),
    ("members", .list (members.map .property))]
  have reads : decodeFields true StatementKind.interfaceDecl.shape.fields []
      [("name", .string name), ("exported", .bool exported),
        ("members", .array (Property.listToJson members))] = .ok taken := by
    simp [decodeFields, decodeValue_text, decodeValue_flag, properties, StatementKind.shape,
      mustHave, mayHave, entryValue?, ok_bind, taken]
  have complete : taken.complete StatementKind.interfaceDecl.shape.fields = .ok taken := by
    refine Taken.complete_of_isSome ?_
    simp [taken, StatementKind.shape, mustHave, mayHave, entryValue?]
  have members_back : taken.list "members" FieldValue.asProperty? = members :=
    Taken.list_eq FieldValue.property rfl fun _ => rfl
  refine decodeValue_taggedStatement .interfaceDecl (by simp [tagName]) reads complete ?_
  rw [StatementKind.build, members_back]
  rfl

private theorem decodeValue_alias (decl : TypeAlias) :
    decodeValue inside .statement (Statement.aliasDecl decl).toJson =
      .ok (.statement (.aliasDecl decl)) := by
  obtain ⟨name, exported, own, comment⟩ := decl
  have type := decodeValue_type own true
  let fields := [("name", Json.string name), ("exported", .bool exported), ("type", own.toJson)] ++
    optionalField "comment" comment
  let taken : Taken := [("name", .text name), ("exported", .flag exported), ("type", .type own)] ++
    (comment.map fun text => ("comment", FieldValue.text text)).toList
  have reads : decodeFields true StatementKind.aliasDecl.shape.fields [] fields = .ok taken := by
    cases comment <;> simp [fields, decodeFields, decodeValue_text, decodeValue_flag, type,
      StatementKind.shape, mustHave, mayHave, mayLack, optionalField, entryValue?, ok_bind, taken,
      Json.isNull]
  have complete : taken.complete StatementKind.aliasDecl.shape.fields = .ok taken := by
    refine Taken.complete_of_isSome ?_
    simp [taken, StatementKind.shape, mustHave, mayHave, mayLack, entryValue?]
  have others : ∀ field ∈ fields, field.1 ≠ tagName := by
    cases comment <;> simp [fields, optionalField, tagName]
  refine decodeValue_taggedStatement .aliasDecl others reads complete ?_
  cases comment <;> rfl

private theorem decodeValue_verbatim (text : String) :
    decodeValue inside .statement (Statement.verbatim text).toJson =
      .ok (.statement (.verbatim text)) := by
  let taken : Taken := [("text", .text text)]
  have reads : decodeFields true StatementKind.verbatim.shape.fields []
      [("text", .string text)] = .ok taken := by
    simp [decodeFields, decodeValue_text, StatementKind.shape, mustHave, entryValue?, ok_bind,
      taken]
  have complete : taken.complete StatementKind.verbatim.shape.fields = .ok taken := by
    refine Taken.complete_of_isSome ?_
    simp [taken, StatementKind.shape, mustHave, entryValue?]
  exact decodeValue_taggedStatement .verbatim (by simp [tagName]) reads complete rfl

private theorem decodeValue_namespace {name : String} {declared exported : Bool}
    {body : Option (List Statement)}
    (statements : ∀ own ∈ body, decodeValue true (.list .statement)
      (.array (Statement.listToJson own)) = .ok (.list (own.map .statement))) :
    decodeValue inside .statement
        (Statement.namespaceDecl ⟨name, declared, exported, body⟩).toJson =
      .ok (.statement (.namespaceDecl ⟨name, declared, exported, body⟩)) := by
  let taken : Taken := [("name", .text name), ("declare", .flag declared),
    ("exported", .flag exported),
    ("body", (body.map fun own => FieldValue.list (own.map .statement)).getD .absent)]
  have reads : decodeFields true StatementKind.namespaceDecl.shape.fields []
      (Namespace.fields ⟨name, declared, exported, body⟩) = .ok taken := by
    cases body with
    | none =>
      simp [Namespace.fields, decodeFields, decodeValue_text, decodeValue_flag,
        StatementKind.shape, mustHave, mayHave, mayLack, entryValue?, ok_bind, taken, Json.isNull]
    | some own =>
      have list := statements own rfl
      simp [Namespace.fields, decodeFields, decodeValue_text, decodeValue_flag, list,
        StatementKind.shape, mustHave, mayHave, mayLack, entryValue?, ok_bind, taken, Json.isNull]
  have complete : taken.complete StatementKind.namespaceDecl.shape.fields = .ok taken := by
    refine Taken.complete_of_isSome ?_
    simp [taken, StatementKind.shape, mustHave, mayHave, mayLack, entryValue?]
  have body_back : taken.list? "body" FieldValue.asStatement? = body := by
    cases body with
    | none => rfl
    | some own => exact Taken.list?_eq FieldValue.statement rfl fun _ => rfl
  refine decodeValue_taggedStatement .namespaceDecl (Namespace.fields_ne_tagName _) reads
    complete ?_
  rw [StatementKind.build, Namespace.build, body_back]
  rfl

end Statements

mutual

theorem decodeValue_statement : ∀ (statement : Statement) (inside : Bool),
    decodeValue inside .statement statement.toJson = .ok (.statement statement)
  | .importDecl decl, _ => decodeValue_import decl
  | .namespaceDecl ⟨_, _, _, none⟩, _ => decodeValue_namespace fun _ none => nomatch none
  | .namespaceDecl ⟨_, _, _, some body⟩, _ => decodeValue_namespace fun own held => by
    obtain rfl := Option.some.inj held
    rw [decodeValue, decodeEach_statements body true]
    rfl
  | .interfaceDecl decl, _ => decodeValue_interface decl
  | .aliasDecl decl, _ => decodeValue_alias decl
  | .verbatim text, _ => decodeValue_verbatim text

private theorem decodeEach_statements : ∀ (statements : List Statement) (inside : Bool),
    decodeEach inside .statement (Statement.listToJson statements) =
      .ok (statements.map .statement)
  | [], _ => rfl
  | statement :: rest, inside => by
    rw [Statement.listToJson, decodeEach, decodeValue_statement statement inside, ok_bind,
      decodeEach_statements rest inside]
    rfl

end

end TypedRoutes.Declaration
