import Mathlib.Data.List.Basic
import TypedRoutes.Proofs.Route.Tally
import TypedRoutes.Report.Operations

/-!
Completion of a document, seen in its JSON form. The second side is written on JSON values alone:
which operations a document lists, which of them have an id, and what the document becomes when
only the missing ids are written.
-/

set_option autoImplicit false
set_option relaxedAutoImplicit false

namespace TypedRoutes

namespace Json

def fields : Json → List (String × Json)
  | .object fields => fields
  | _ => []

/-- Rewrites the values of an object under their keys; any other value stays. -/
def mapFields (f : String → Json → Json) : Json → Json
  | .object fields => .object (fields.map fun field => (field.1, f field.1 field.2))
  | value => value

end Json

namespace Route

open OpenApi (Document Method Operation PathItem Paths idField pathsField)
open OpenApi.Paths (WellKeyed isExtensionKey)

/-- Whether the JSON form of an operation has an id: a text that is not empty. -/
def hasId (operation : Json) : Bool :=
  match operation.field? idField with
  | some (.string id) => !id.isEmpty
  | _ => false

/-- Writes the id of an operation: in place if the field is there, as the last field otherwise. -/
def writeId (id : String) (operation : Json) : Json :=
  if idField ∈ operation.fields.map Prod.fst then
    operation.mapFields fun key value => if key = idField then .string id else value
  else .object (operation.fields ++ [(idField, .string id)])

/-- An operation with its own id, or else with the one that is made for it. -/
def identify (template : String) (method : Method) (operation : Json) : Json :=
  if hasId operation then operation else writeId (synthesizeId method template) operation

/-- The JSON form of a path item with an id in every operation. -/
def identifyItem (template : String) (item : Json) : Json :=
  item.mapFields fun key value =>
    match Method.ofKey? key with
    | some method => identify template method value
    | none => value

/-- The JSON form of paths with an id in every operation. -/
def identifyPaths (paths : Json) : Json :=
  paths.mapFields fun key value => if isExtensionKey key then value else identifyItem key value

/-- The JSON form of a document with an id in every operation. -/
def identifyDocument (document : Json) : Json :=
  document.mapFields fun key value => if key = pathsField then identifyPaths value else value

/-- The operations that the JSON form of a document lists, with template and method. -/
def listedOperations (document : Json) : List (String × Method × Json) :=
  (((document.field? pathsField).getD .null).fields.filter fun entry =>
    !isExtensionKey entry.1).flatMap fun entry =>
      entry.2.fields.filterMap fun field =>
        (Method.ofKey? field.1).map fun method => (entry.1, method, field.2)

def unidentifiedOperations (document : Json) : List (String × Method × Json) :=
  (listedOperations document).filter fun operation => !hasId operation.2.2

private theorem hasId_toJson (operation : Operation) :
    hasId operation.toJson = operation.id?.isSome := by
  have field : operation.toJson.field? idField = operation.fields.get? idField := rfl
  unfold hasId Operation.id?
  rw [field]
  cases operation.fields.get? idField with
  | none => rfl
  | some value =>
    cases value with
    | string id => cases h : id.isEmpty <;> simp [Json.asString?, h]
    | _ => rfl

private theorem writeId_toJson (id : String) (operation : Operation) :
    writeId id operation.toJson = (operation.setId id).toJson := by
  unfold writeId
  split
  case isTrue present =>
    have inPlace := writeEntry_of_mem (.string id) operation.fields.nodup present
    simp only [Operation.toJson, Json.mapFields, Operation.setId, OrderedMap.entries_insert,
      inPlace, Json.object.injEq]
    refine List.map_congr_left fun field _ => ?_
    split
    case isTrue h => rw [h]
    case isFalse => rfl
  case isFalse fresh =>
    have atEnd := writeEntry_of_not_mem (.string id) fresh
    simp only [Json.fields, Operation.toJson] at atEnd
    simp [Operation.toJson, Json.fields, Operation.setId, atEnd]

private theorem identify_toJson (template : String) (method : Method) (operation : Operation) :
    identify template method operation.toJson =
      (completeOperation template method operation).toJson := by
  unfold identify completeOperation
  rw [hasId_toJson]
  split
  · rfl
  · exact writeId_toJson _ operation

private theorem identifyItem_toJson (template : String) (item : PathItem) :
    identifyItem template item.toJson = (item.mapOperations (completeOperation template)).toJson := by
  simp only [identifyItem, PathItem.toJson, Json.mapFields, PathItem.mapOperations, List.map_map,
    Json.object.injEq]
  refine List.map_congr_left fun entry _ => ?_
  cases entry with
  | operation method operation =>
    simp [PathItem.Entry.toField, PathItem.Entry.mapOperation, identify_toJson]
  | field key value noMethod =>
    simp [PathItem.Entry.toField, PathItem.Entry.mapOperation, noMethod]

private theorem identifyPaths_toJson {paths : Paths} (keyed : paths.WellKeyed) :
    identifyPaths paths.toJson = (completePaths paths).toJson := by
  simp only [identifyPaths, Paths.toJson, Json.mapFields, completePaths, Paths.mapItems,
    OrderedMap.mapValues, List.map_map, Json.object.injEq]
  refine List.map_congr_left fun entry hm => ?_
  obtain ⟨key, entry⟩ := entry
  have keyedEntry : entry.isExtension = isExtensionKey key := keyed _ hm
  cases entry with
  | item content =>
    simp [← keyedEntry, Paths.Entry.isExtension, Paths.Entry.toJson, Paths.Entry.mapItem,
      identifyItem_toJson]
  | extension value =>
    simp [← keyedEntry, Paths.Entry.isExtension, Paths.Entry.toJson, Paths.Entry.mapItem]

private theorem identifyDocument_toJson {document : Document} (keyed : document.paths.WellKeyed) :
    identifyDocument document.toJson = (document.mapPaths completePaths).toJson := by
  have rootFields : ∀ field : String × Json,
      (fun field : String × Json => (field.1,
        if field.1 = pathsField then identifyPaths field.2 else field.2))
          (if field.1 = pathsField then (field.1, document.paths.toJson) else field) =
        if field.1 = pathsField then (field.1, (completePaths document.paths).toJson)
        else field := by
    intro field
    by_cases h : field.1 = pathsField <;> simp [h, identifyPaths_toJson keyed]
  have sameEntries : (completePaths document.paths).entries.entries.isEmpty =
      document.paths.entries.entries.isEmpty := by
    simp [completePaths, Paths.mapItems, OrderedMap.mapValues]
  simp only [Document.toJson, Document.mapPaths, sameEntries]
  split
  case isTrue =>
    simp only [identifyDocument, Json.mapFields, List.map_map, Json.object.injEq]
    exact List.map_congr_left fun field _ => rootFields field
  case isFalse =>
    simp only [identifyDocument, Json.mapFields, List.map_append, List.map_map, List.map_cons,
      List.map_nil, Json.object.injEq, if_true, identifyPaths_toJson keyed]
    exact congrArg (· ++ _) (List.map_congr_left fun field _ => rootFields field)

private theorem pathsFields_toJson (document : Document) :
    ((document.toJson.field? pathsField).getD .null).fields =
      document.paths.entries.entries.map fun entry => (entry.1, entry.2.toJson) := by
  have slot := entryValue?_replace pathsField document.paths.toJson document.fields.entries
  simp only [Document.toJson, OrderedMap.contains, OrderedMap.get?, Bool.or_eq_true]
  split
  case isTrue present =>
    simp only [Json.field?, slot]
    cases held : entryValue? pathsField document.fields.entries with
    | some _ => rfl
    | none =>
      have noEntries : document.paths.entries.entries = [] := by simpa [held] using present
      simp [noEntries, Json.fields]
  case isFalse absent =>
    have noSlot : entryValue? pathsField document.fields.entries = none := by
      simpa using fun h => absent (Or.inl h)
    rw [Json.field?, entryValue?_append, slot, noSlot]
    rfl

private theorem itemOperations_toJson (template : String) (item : PathItem) :
    (item.toJson.fields.filterMap fun field =>
      (Method.ofKey? field.1).map fun method => (template, method, field.2)) =
        item.operations.map fun operation => (template, operation.1, operation.2.toJson) := by
  simp only [PathItem.toJson, Json.fields, PathItem.operations, List.filterMap_map,
    List.map_filterMap]
  refine List.filterMap_congr fun entry _ => ?_
  cases entry with
  | operation method operation => simp [PathItem.Entry.toField, PathItem.Entry.operation?]
  | field key value noMethod =>
    simp [PathItem.Entry.toField, PathItem.Entry.operation?, noMethod]

private theorem listedOperations_toJson {document : Document} (keyed : document.paths.WellKeyed) :
    listedOperations document.toJson = document.paths.operations.map fun operation =>
      (operation.1, operation.2.1, operation.2.2.toJson) := by
  unfold listedOperations Paths.operations Paths.items
  rw [pathsFields_toJson]
  unfold WellKeyed at keyed
  generalize document.paths.entries.entries = entries at keyed ⊢
  induction entries with
  | nil => rfl
  | cons entry rest ih =>
    obtain ⟨key, entry⟩ := entry
    have ih := ih fun other hm => keyed other (List.mem_cons_of_mem _ hm)
    have keyedEntry : entry.isExtension = isExtensionKey key := keyed _ List.mem_cons_self
    cases entry with
    | item content =>
      have noExtension : isExtensionKey key = false := keyedEntry.symm
      have form : (Paths.Entry.item content).toJson = content.toJson := rfl
      have item : (Paths.Entry.item content).item? = some content := rfl
      simp only [List.map_cons, List.filter_cons, noExtension, Bool.not_false, if_true,
        List.flatMap_cons, List.filterMap_cons, item, Option.map_some, List.map_append, ih, form,
        itemOperations_toJson, List.map_map, Function.comp_def]
    | extension value =>
      have isExtension : isExtensionKey key = true := keyedEntry.symm
      have item : (Paths.Entry.extension value).item? = none := rfl
      simp only [List.map_cons, List.filter_cons, isExtension, Bool.not_true, if_false,
        List.filterMap_cons, item, Option.map_none, ih, Bool.false_eq_true]

private theorem unidentifiedOperations_toJson {document : Document}
    (keyed : document.paths.WellKeyed) :
    unidentifiedOperations document.toJson =
      (operationsWithoutId document.paths).map fun operation =>
        (operation.1, operation.2.1, operation.2.2.toJson) := by
  simp [unidentifiedOperations, listedOperations_toJson keyed, operationsWithoutId,
    List.filter_map, Function.comp_def, hasId_toJson]

theorem synthesizeId_isEmpty (method : Method) (template : String) :
    (synthesizeId method template).isEmpty = false := by
  cases method <;> simp [synthesizeId, Method.key]

theorem id?_setId (operation : Operation) {id : String} (h : id.isEmpty = false) :
    (operation.setId id).id? = some id := by
  simp [Operation.id?, Operation.setId, Json.asString?, Option.filter, h]

private theorem isSome_id?_completeOperation (template : String) (method : Method)
    (operation : Operation) : (completeOperation template method operation).id?.isSome := by
  unfold completeOperation
  split
  · assumption
  · rw [id?_setId operation (synthesizeId_isEmpty method template)]
    rfl

private theorem completeOperation_of_id {operation : Operation} (template : String)
    (method : Method)
    (h : operation.id?.isSome) : completeOperation template method operation = operation :=
  if_pos h

theorem isSome_id?_of_mem_completePaths {paths : Paths} {operation : String × Method × Operation}
    (hm : operation ∈ (completePaths paths).operations) : operation.2.2.id?.isSome := by
  unfold completePaths at hm
  rw [OpenApi.Paths.operations_mapItems] at hm
  obtain ⟨before, -, rfl⟩ := List.mem_map.mp hm
  exact isSome_id?_completeOperation before.1 before.2.1 before.2.2

private theorem wellKeyed_completePaths {paths : Paths} (keyed : paths.WellKeyed) :
    (completePaths paths).WellKeyed := by
  intro entry hm
  obtain ⟨before, old, rfl⟩ := List.mem_map.mp hm
  have kept := keyed before old
  cases h : before.2 <;> simpa [h, Paths.Entry.mapItem, Paths.Entry.isExtension] using kept

private theorem operationsWithoutId_completePaths (paths : Paths) :
    operationsWithoutId (completePaths paths) = [] := by
  refine List.filter_eq_nil_iff.mpr fun operation hm => ?_
  have identified := isSome_id?_of_mem_completePaths hm
  simpa [Option.isSome_iff_ne_none] using identified

private theorem completeItem_completeItem (template : String) (item : PathItem) :
    (item.mapOperations (completeOperation template)).mapOperations (completeOperation template) =
      item.mapOperations (completeOperation template) := by
  simp only [PathItem.mapOperations, List.map_map, PathItem.mk.injEq]
  refine List.map_congr_left fun entry _ => ?_
  cases entry with
  | operation method operation =>
    simp [PathItem.Entry.mapOperation, completeOperation_of_id template method
      (isSome_id?_completeOperation template method operation)]
  | field key value noMethod => rfl

private theorem completePaths_completePaths (paths : Paths) :
    completePaths (completePaths paths) = completePaths paths := by
  refine congrArg Paths.mk (OrderedMap.ext_entries ?_)
  simp only [completePaths, Paths.mapItems, OrderedMap.mapValues, List.map_map]
  refine List.map_congr_left fun entry _ => ?_
  cases h : entry.2 with
  | item content => simp [h, Paths.Entry.mapItem, completeItem_completeItem]
  | extension value => simp [h, Paths.Entry.mapItem]

theorem completeDocument_completeDocument (document : Document) :
    completeDocument (completeDocument document).value =
      ⟨(completeDocument document).value, []⟩ := by
  simp [completeDocument_eq, Document.mapPaths, completePaths_completePaths,
    operationsWithoutId_completePaths]

/-- What is reported as made is what the loop has counted: an id for each finding. -/
private theorem synthesized_complete (schema : OpenApi.Schema) :
    (Report.complete schema).synthesized = (completeDocument schema.content).log.length :=
  made_tallyDocument schema.content

/--
Completion writes missing ids and nothing else. In JSON, the completed document is the document
with an id written into each listed operation that has none; there is one finding for each of
these, in document order, and as many are counted. A second completion finds and counts nothing,
and leaves the document as it is.
-/
theorem completeDocument_writes_missing_ids {reading : Json.Reading} {document : Document}
    (decoded : Document.ofReading reading = .ok document) :
    (completeDocument document).value.toJson = identifyDocument document.toJson ∧
    (completeDocument document).log =
      (unidentifiedOperations document.toJson).map (fun operation =>
        .idSynthesized operation.2.1 operation.1 (synthesizeId operation.2.1 operation.1)) ∧
    (completeDocument document).log.map Diagnostic.location? =
      (unidentifiedOperations document.toJson).map (fun operation =>
        some (operation.2.1.key ++ " " ++ operation.1)) ∧
    (∀ id : String, (Report.complete ⟨id, document⟩).synthesized =
      (unidentifiedOperations document.toJson).length) ∧
    (∀ operation ∈ listedOperations (completeDocument document).value.toJson,
      hasId operation.2.2) ∧
    completeDocument (completeDocument document).value = ⟨(completeDocument document).value, []⟩ ∧
    ∀ id : String, (Report.complete ⟨id, (completeDocument document).value⟩).synthesized = 0 := by
  have keyed := Document.wellKeyed_of_ofReading decoded
  have log : (completeDocument document).log =
      (unidentifiedOperations document.toJson).map fun operation =>
        .idSynthesized operation.2.1 operation.1 (synthesizeId operation.2.1 operation.1) := by
    rw [completeDocument_eq, unidentifiedOperations_toJson keyed, List.map_map]
    rfl
  have completed : (completeDocument document).value.toJson =
      (document.mapPaths completePaths).toJson := by rw [completeDocument_eq]
  have again := completeDocument_completeDocument document
  refine ⟨completed.trans (identifyDocument_toJson keyed).symm, log, ?_, fun id => ?_, ?_, again,
    fun id => ?_⟩
  · rw [log, List.map_map]
    rfl
  · rw [synthesized_complete, log, List.length_map]
  · intro operation hm
    rw [completed, listedOperations_toJson (wellKeyed_completePaths keyed)] at hm
    obtain ⟨taken, member, rfl⟩ := List.mem_map.mp hm
    exact (hasId_toJson _).trans (isSome_id?_of_mem_completePaths member)
  · rw [synthesized_complete, again]
    rfl

/-- A document with an extension, a shared field, an operation with an id, one with an empty id
and a second one of the same method without any. -/
def petsReading : Json.Reading :=
  .object [("paths", .object [("x-tags", .bool true), ("/pets", .object [
    ("parameters", .array [] none),
    ("get", .object [("operationId", .string "findPets")] none),
    ("post", .object [("operationId", .string ""), ("summary", .string "s")] none),
    ("post", .object [("summary", .string "t")] none)] none)] none),
    ("openapi", .string "3.1.0")] none

theorem completeDocument_pets : ∃ document, Document.ofReading petsReading = .ok document ∧
    (completeDocument document).value.toJson =
      .object [("paths", .object [("x-tags", .bool true), ("/pets", .object [
        ("parameters", .array []),
        ("get", .object [("operationId", .string "findPets")]),
        ("post", .object [("operationId", .string "postPets"), ("summary", .string "s")]),
        ("post", .object [("summary", .string "t"), ("operationId", .string "postPets")])])]),
        ("openapi", .string "3.1.0")] ∧
    (completeDocument document).log.map Diagnostic.location? =
      [some "post /pets", some "post /pets"] ∧
    (Report.complete ⟨"pets.json", document⟩).synthesized = 2 ∧
    completeDocument (completeDocument document).value =
      ⟨(completeDocument document).value, []⟩ := by
  have decoded : Document.ofReading petsReading = .ok _ := rfl
  obtain ⟨toJson, -, locations, count, -, again, -⟩ := completeDocument_writes_missing_ids decoded
  exact ⟨_, decoded, toJson.trans rfl, locations.trans rfl, (count _).trans rfl, again⟩

end Route

end TypedRoutes
