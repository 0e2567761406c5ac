import TypedRoutes.Proofs.Route.Collecting
import TypedRoutes.Proofs.Route.Collision

/-!
What becomes of the operations of some paths. Each adds a record or is told of, so records and
findings together are as many as the operations. Which record is left under a key, and where it
stands, is told by the operations alone.
-/

set_option autoImplicit false
set_option relaxedAutoImplicit false

namespace TypedRoutes.Route

open OpenApi (Method Operation PathItem Paths Schema)
open Options (Selection)

/-- Whether a finding tells that a record takes the place of another one. -/
def Diagnostic.isCollision : Diagnostic → Bool
  | .idCollision _ _ => true
  | _ => false

/-- Whether a finding tells of an operation without an id. -/
def Diagnostic.isIdMissing : Diagnostic → Bool
  | .idMissing _ _ => true
  | _ => false

namespace Table

theorem isWarning_of_mem_log_takeAll {table : Table}
    {operations : List (String × Method × Operation)} {finding : Diagnostic}
    (h : finding ∈ (table.takeAll operations).log) : finding.isWarning := by
  obtain ⟨before, operation, after, -, told⟩ := mem_log_takeAll_iff.mp h
  obtain ⟨-, rfl⟩ | ⟨record, displaced, -, -, rfl⟩ := mem_log_take_iff.mp told <;> rfl

private theorem countP_log_takeAll (table : Table)
    (operations : List (String × Method × Operation)) :
    (table.takeAll operations).log.countP Diagnostic.isCollision +
        (table.takeAll operations).log.countP Diagnostic.isIdMissing =
      (table.takeAll operations).log.length := by
  -- what is not said of a displaced record is said of an operation without an id
  have other : (table.takeAll operations).log.countP Diagnostic.isIdMissing =
      (table.takeAll operations).log.countP fun finding => decide ¬ finding.isCollision := by
    refine List.countP_congr fun finding hm => ?_
    obtain ⟨before, operation, after, -, told⟩ := mem_log_takeAll_iff.mp hm
    obtain ⟨-, rfl⟩ | ⟨record, displaced, -, -, rfl⟩ := mem_log_take_iff.mp told <;>
      simp [Diagnostic.isCollision, Diagnostic.isIdMissing]
  rw [other]
  exact (List.length_eq_countP_add_countP Diagnostic.isCollision).symm

private theorem key_of_mem_entries_takeAll {operations : List (String × Method × Operation)}
    {entry : String × Record} (h : entry ∈ (takeAll {} operations).value.entries.entries) :
    entry.1 = lookupKey entry.2.operationId := by
  rw [entries_takeAll] at h
  obtain old | written := mem_writeAll h
  · cases old
  · obtain ⟨record, -, rfl⟩ := List.mem_map.mp written
    rfl

/-- The keys of a table stand in the order in which the operations bring them. -/
private theorem keys_takeAll (operations : List (String × Method × Operation)) :
    (takeAll {} operations).value.entries.entries.map Prod.fst =
      (operationKeys operations).eraseDups := by
  have keys : ((operations.filterMap recordOf?).map fun record =>
      (lookupKey record.operationId, record)).map Prod.fst = operationKeys operations := by
    unfold operationKeys
    rw [List.map_map, List.map_filterMap]
    refine List.filterMap_congr fun operation _ => ?_
    unfold recordOf?
    rw [Option.map_map]
    rfl
  have entries : (takeAll {} operations).value.entries.entries =
      writeAll [] ((operations.filterMap recordOf?).map fun record =>
        (lookupKey record.operationId, record)) := entries_takeAll {} operations
  rw [entries, keys_writeAll_nil, keys]

private theorem lastOperation?_of_mem_records {operations : List (String × Method × Operation)}
    {record : Record} (h : record ∈ (takeAll {} operations).value.records) :
    ∃ operation, lastOperation? record.operationId operations = some operation ∧
      recordOf? operation = some record := by
  obtain ⟨entry, hm, rfl⟩ := List.mem_map.mp h
  have under : (lookupKey entry.2.operationId, entry.2) ∈
      (takeAll {} operations).value.entries.entries := by
    rw [← key_of_mem_entries_takeAll hm]
    exact hm
  have found : (takeAll {} operations).value.lookup? entry.2.operationId = some entry.2 :=
    (entryValue?_eq_some_iff (takeAll {} operations).value.entries.nodup).mpr under
  -- so the lookup under the record's own id tells which operation it is of
  have empty : lookup? {} entry.2.operationId = none := rfl
  rw [lookup?_takeAll, empty, Option.or_none] at found
  exact Option.bind_eq_some_iff.mp found

end Table

/-- The record of an operation takes the place of the one that the operations before it leave. -/
def Displaces (operations : List (String × Method × Operation)) (record displaced : Record) :
    Prop :=
  ∃ before operation after, operations = before ++ operation :: after ∧
    recordOf? operation = some record ∧
    (Table.takeAll {} before).value.lookup? record.operationId = some displaced

private theorem Table.idCollision_mem_log_iff {operations : List (String × Method × Operation)}
    {record displaced : Record} :
    .idCollision record displaced ∈ (takeAll {} operations).log ↔
      Displaces operations record displaced := by
  unfold Displaces
  rw [mem_log_takeAll_iff]
  refine exists_congr fun before => exists_congr fun operation => exists_congr fun after =>
    and_congr_right fun _ => ?_
  rw [mem_log_take_iff]
  constructor
  · rintro (⟨-, other⟩ | ⟨_, _, hrecord, held, same⟩)
    · cases other
    · obtain ⟨rfl, rfl⟩ := Diagnostic.idCollision.inj same
      exact ⟨hrecord, held⟩
  · rintro ⟨hrecord, held⟩
    exact .inr ⟨record, displaced, hrecord, held, rfl⟩

private theorem Inputs.mem_readFrom {inputs : Inputs} {budget place : Nat} {input : Option Schema}
    (h : input ∈ inputs.readFrom budget place) : ∃ place, inputs place = some input := by
  induction budget generalizing place with
  | zero => cases h
  | succ budget ih =>
    rw [readFrom] at h
    split at h
    case h_1 => cases h
    case h_2 first given =>
      obtain rfl | later := List.mem_cons.mp h
      · exact ⟨place, given⟩
      · exact ih later

private theorem mem_operations_iff {paths : Paths} {operation : String × Method × Operation} :
    operation ∈ paths.operations ↔ ∃ item ∈ paths.items, ∃ served ∈ item.2.operations,
      (item.1, served.1, served.2) = operation := by
  simp only [Paths.operations, List.mem_flatMap, List.mem_map]

private theorem exists_input_of_mem_operations {selection : Selection} {inputs : Inputs}
    {operation : String × Method × Operation}
    (h : operation ∈ (collectPaths selection inputs).value.operations) :
    ∃ place schema, inputs place = some (some schema) ∧
      operation ∈ schema.content.paths.operations := by
  obtain ⟨document, hdocument, h⟩ : ∃ document ∈ inputs.documents,
      operation ∈ document.paths.operations := by
    obtain ⟨item, hm, served, hserved, rfl⟩ := mem_operations_iff.mp h
    -- merged items are written from those of some document; otherwise all are the last one's
    cases selection with
    | merge =>
      rw [value_collectPaths_merge] at hm
      obtain ⟨entry, hentry, hitem⟩ := List.mem_filterMap.mp hm
      obtain ⟨written, hwritten, rfl⟩ := exists_of_mem_entries_ofList hentry
      obtain rfl : written = item := Option.some.inj hitem
      obtain ⟨document, hdocument, old⟩ := List.mem_flatMap.mp hwritten
      exact ⟨document, hdocument, mem_operations_iff.mpr ⟨_, old, served, hserved, rfl⟩⟩
    | last =>
      rw [value_collectPaths_last] at hm
      cases last : inputs.documents.getLast? with
      | none =>
        rw [last] at hm
        cases hm
      | some document =>
        rw [last] at hm
        exact ⟨document, List.mem_of_getLast? last,
          mem_operations_iff.mpr ⟨item, hm, served, hserved, rfl⟩⟩
  obtain ⟨input, read, kept⟩ := List.mem_filterMap.mp hdocument
  obtain ⟨schema, rfl, rfl⟩ := Option.map_eq_some_iff.mp (Option.eq_some_of_filter_eq_some kept)
  obtain ⟨place, given⟩ := Inputs.mem_readFrom read
  exact ⟨place, schema, given, h⟩

private theorem isSome_id?_of_mem_collectPaths {selection : Selection} {inputs : Inputs}
    {schemas : List Schema}
    (completed : ∀ place schema, inputs place = some (some schema) →
      schema ∈ (completeSchemas schemas).value)
    {operation : String × Method × Operation}
    (h : operation ∈ (collectPaths selection inputs).value.operations) :
    operation.2.2.id?.isSome := by
  obtain ⟨place, schema, given, hm⟩ := exists_input_of_mem_operations h
  have schema_completed := completed place schema given
  rw [completeSchemas_eq] at schema_completed
  obtain ⟨before, -, rfl⟩ := List.mem_map.mp schema_completed
  rw [completeDocument_eq] at hm
  exact isSome_id?_of_mem_completePaths hm

/--
Findings that are there stay in front, and only warnings are added. Every operation of a path item is
accounted for: as many are there as records, collisions and operations without an id together. Each
record stands under the key of its own id; the keys are different, and stand in the order in which
the operations first bring them; each record is that of the last operation with its key. A collision
is told of exactly where a record displaces another one, and names that one. If the paths are those
of completed documents, none is told to be without an id.
-/
theorem build_accounts_for_every_operation (paths : Paths) (findings : List Diagnostic) :
    Table.build paths findings =
      ⟨(Table.ofPaths paths).value, findings ++ (Table.ofPaths paths).log⟩ ∧
    Table.ofPaths paths = Table.takeAll {} paths.operations ∧
    (∀ finding ∈ (Table.ofPaths paths).log, finding.isWarning) ∧
    (Table.ofPaths paths).value.size + (Table.ofPaths paths).log.countP Diagnostic.isCollision +
        (Table.ofPaths paths).log.countP Diagnostic.isIdMissing =
      (paths.items.flatMap fun item => item.2.operations).length ∧
    (∀ entry ∈ (Table.ofPaths paths).value.entries.entries,
      entry.1 = lookupKey entry.2.operationId) ∧
    ((Table.ofPaths paths).value.records.map fun record => lookupKey record.operationId).Nodup ∧
    ((Table.ofPaths paths).value.records.map fun record => lookupKey record.operationId) =
      (operationKeys paths.operations).eraseDups ∧
    (∀ record ∈ (Table.ofPaths paths).value.records, ∃ operation,
      lastOperation? record.operationId paths.operations = some operation ∧
      recordOf? operation = some record) ∧
    (∀ record displaced : Record,
      (.idCollision record displaced ∈ (Table.ofPaths paths).log ↔
        Displaces paths.operations record displaced) ∧
      (Diagnostic.idCollision record displaced).message =
        "operationId '" ++ record.operationId ++ "' collides with '" ++ displaced.operationId ++
          "' (" ++ displaced.method.key ++ " " ++ displaced.template ++
          "); keeping the later one") ∧
    ∀ (selection : Selection) (inputs : Inputs) (schemas : List Schema),
      (∀ place schema, inputs place = some (some schema) →
        schema ∈ (completeSchemas schemas).value) →
      paths = (collectPaths selection inputs).value →
      (Table.ofPaths paths).log.countP Diagnostic.isIdMissing = 0 := by
  have oneByOne := Table.ofPaths_eq paths
  have first := Table.build_eq paths findings
  rw [← oneByOne] at first
  have ownKeys : ∀ entry ∈ (Table.ofPaths paths).value.entries.entries,
      entry.1 = lookupKey entry.2.operationId := by
    rw [oneByOne]
    exact fun _ => Table.key_of_mem_entries_takeAll
  have keys : ((Table.ofPaths paths).value.records.map fun record =>
      lookupKey record.operationId) =
        (Table.ofPaths paths).value.entries.entries.map Prod.fst := by
    rw [Table.records, List.map_map]
    exact List.map_congr_left fun entry hm => (ownKeys entry hm).symm
  refine ⟨first, oneByOne, ?warnings, ?balance, ownKeys, ?apart, ?order, ?last, ?collisions,
    ?completed⟩
  case warnings =>
    rw [oneByOne]
    exact fun _ => Table.isWarning_of_mem_log_takeAll
  case balance =>
    have operations : paths.operations.length =
        (paths.items.flatMap fun item => item.2.operations).length := by
      simp only [Paths.operations, List.length_flatMap, List.length_map]
    have sizes : (Table.takeAll {} paths.operations).value.size +
        (Table.takeAll {} paths.operations).log.length = 0 + paths.operations.length :=
      Table.size_takeAll_add_length_log {} paths.operations
    have kinds := Table.countP_log_takeAll {} paths.operations
    rw [oneByOne, ← operations, Nat.add_assoc]
    exact (congrArg _ kinds).trans (sizes.trans (Nat.zero_add _))
  case apart =>
    rw [keys]
    exact (Table.ofPaths paths).value.entries.nodup
  case order => rw [keys, oneByOne, Table.keys_takeAll]
  case last =>
    rw [oneByOne]
    exact fun _ => Table.lastOperation?_of_mem_records
  case collisions =>
    rw [oneByOne]
    exact fun _ _ => ⟨Table.idCollision_mem_log_iff, rfl⟩
  case completed =>
    rintro selection inputs schemas completed rfl
    rw [oneByOne]
    refine List.countP_eq_zero.mpr fun finding hm missing => ?_
    have identified : ∀ operation ∈ (collectPaths selection inputs).value.operations,
        operation.2.2.id?.isSome := fun _ => isSome_id?_of_mem_collectPaths completed
    obtain ⟨record, displaced, rfl⟩ := Table.isCollision_of_mem_log_takeAll identified finding hm
    cases missing

def respelledPaths : Paths :=
  .ofList [("/pets", ⟨[.operation .get (.withId "listPets"), .operation .post {}]⟩),
    ("/v2/pets", ⟨[.operation .get (.withId "ListPets"), .operation .put (.withId "addPet")]⟩),
    ("/v3/pets", ⟨[.operation .get (.withId "LISTPETS")]⟩)]

/-- The inputs that are left of a document with these paths once it is completed. -/
def completedInputs : Inputs :=
  .ofSchemas (completeSchemas [⟨"pets.json", { paths := respelledPaths }⟩]).value

theorem build_accounts_for_every_operation_respelled :
    (Table.build respelledPaths [.disabled]).log =
      [.disabled, .idMissing .post "/pets",
        .idCollision ⟨"ListPets", .get, "/v2/pets"⟩ ⟨"listPets", .get, "/pets"⟩,
        .idCollision ⟨"LISTPETS", .get, "/v3/pets"⟩ ⟨"ListPets", .get, "/v2/pets"⟩] ∧
    (Table.ofPaths respelledPaths).value.size + 2 + 1 = 5 ∧
    (Table.ofPaths respelledPaths).value.records.map (fun record => lookupKey record.operationId) =
      ["listpets", "addpet"] ∧
    (∃ operation, lastOperation? "LISTPETS" respelledPaths.operations = some operation ∧
      recordOf? operation = some ⟨"LISTPETS", .get, "/v3/pets"⟩) ∧
    Displaces respelledPaths.operations ⟨"LISTPETS", .get, "/v3/pets"⟩
      ⟨"ListPets", .get, "/v2/pets"⟩ ∧
    (Table.ofPaths (collectPaths .merge completedInputs).value).log.countP
      Diagnostic.isIdMissing = 0 := by
  obtain ⟨built, -, -, balance, -, -, keys, last, collisions, -⟩ :=
    build_accounts_for_every_operation respelledPaths [.disabled]
  obtain ⟨-, -, -, -, -, -, -, -, -, none⟩ :=
    build_accounts_for_every_operation (collectPaths .merge completedInputs).value []
  have log : (Table.ofPaths respelledPaths).log =
      [.idMissing .post "/pets",
        .idCollision ⟨"ListPets", .get, "/v2/pets"⟩ ⟨"listPets", .get, "/pets"⟩,
        .idCollision ⟨"LISTPETS", .get, "/v3/pets"⟩ ⟨"ListPets", .get, "/v2/pets"⟩] := by
    decide +kernel
  have count : (respelledPaths.items.flatMap fun item => item.2.operations).length = 5 := by
    decide +kernel
  have left : ⟨"LISTPETS", .get, "/v3/pets"⟩ ∈ (Table.ofPaths respelledPaths).value.records := by
    decide +kernel
  have told : .idCollision ⟨"LISTPETS", .get, "/v3/pets"⟩ ⟨"ListPets", .get, "/v2/pets"⟩ ∈
      (Table.ofPaths respelledPaths).log := by
    rw [log]
    decide
  have completed : ∀ place schema, completedInputs place = some (some schema) →
      schema ∈ (completeSchemas [⟨"pets.json", { paths := respelledPaths }⟩]).value := by
    intro place schema given
    obtain ⟨other, hm, same⟩ := List.mem_map.mp (List.mem_of_getElem? given)
    obtain rfl : other = schema := Option.some.inj same
    exact hm
  have collisions_told : (Table.ofPaths respelledPaths).log.countP Diagnostic.isCollision = 2 := by
    rw [log]
    rfl
  have missing_told : (Table.ofPaths respelledPaths).log.countP Diagnostic.isIdMissing = 1 := by
    rw [log]
    rfl
  rw [collisions_told, missing_told, count] at balance
  refine ⟨?log, balance, ?keys, last ⟨"LISTPETS", .get, "/v3/pets"⟩ left,
    (collisions _ _).1.mp told, none .merge completedInputs _ completed rfl⟩
  case log =>
    rw [built, log]
    rfl
  case keys =>
    rw [keys]
    decide +kernel

end TypedRoutes.Route
