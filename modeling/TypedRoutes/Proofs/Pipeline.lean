import TypedRoutes.Pipeline
import TypedRoutes.Proofs.Route.Appending
import TypedRoutes.Proofs.Route.Collecting
import TypedRoutes.Proofs.Route.Descriptor
import TypedRoutes.Proofs.Route.Table
import TypedRoutes.Proofs.Route.Tally

/-!
What a full run makes of a tree. The main statement follows one path through all phases: it gets a
descriptor exactly if it has something in its body and an operation answers to its name, and the
descriptor names the last such operation.
-/

set_option autoImplicit false
set_option relaxedAutoImplicit false

namespace TypedRoutes

namespace Route

open Declaration (Namespace Statement Tree)
open Options (Config)

/-- The path at a place of the container that stands at a place of a file; none elsewhere. -/
def pathAt? (statements : List Statement) (place child : Nat) : Option Namespace :=
  match statements[place]? with
  | some (.namespaceDecl container) =>
    if container.name = "Paths" then
      (container.statements[child]?).bind Statement.asNamespace?
    else none
  | _ => none

private theorem pathAt?_append (added statements : List Statement) (place child : Nat) :
    pathAt? (added ++ statements) (added.length + place) child =
      pathAt? statements place child := by
  unfold pathAt?
  rw [List.getElem?_append_right (by omega), Nat.add_sub_cancel_left]

theorem statements_appendToContainer (table : Table) (config : Config) (container : Namespace) :
    (appendToContainer table config container).value.statements =
      container.statements.map fun member =>
        (appendToMember container.name table config member).value := by
  unfold appendToContainer Namespace.statements
  cases container.body <;> rfl

private theorem pathAt?_map_appendToStatement (table : Table) (config : Config)
    {statements : List Statement} {place child : Nat} {path : Namespace}
    (h : pathAt? statements place child = some path) :
    pathAt? (statements.map fun statement => (appendToStatement table config statement).value)
      place child = some (appendToPath "Paths" table config path).value := by
  unfold pathAt? at h
  split at h
  case h_1 container hplace =>
    split at h
    case isTrue name =>
      obtain ⟨member, hchild, hmember⟩ := Option.bind_eq_some_iff.mp h
      cases member with
      | namespaceDecl other =>
        obtain rfl : other = path := Option.some.inj hmember
        have extended : (appendToStatement table config (.namespaceDecl container)).value =
            .namespaceDecl (appendToContainer table config container).value := by
          simp [appendToStatement, Logged.andThen, containerName, name]
        have sameName : (appendToContainer table config container).value.name = "Paths" := name
        simp only [pathAt?, List.getElem?_map, hplace, Option.map_some, extended, sameName,
          if_true, statements_appendToContainer, hchild, name]
        rfl
      | _ => cases hmember
    case isFalse => cases h
  case h_2 => cases h

/-- A path stays at its place in a transformed tree, one further on behind an import. -/
theorem pathAt?_transform (transformer : Transformer) {tree : Tree} {place child : Nat}
    {path : Namespace} (h : pathAt? tree.statements place child = some path) :
    pathAt? (transformer.transform tree).value.statements
        ((if transformer.config.routeTypeName.isSome then 1 else 0) + place) child =
      some (appendToPath "Paths" transformer.table transformer.config path).value := by
  have shift : (if transformer.config.routeTypeName.isSome then 1 else 0) =
      (aliasImports transformer.config).length := by
    rw [aliasImports_eq]
    split <;> rfl
  rw [shift]
  exact (pathAt?_append ..).trans
    (pathAt?_map_appendToStatement transformer.table transformer.config h)

end Route

namespace Pipeline

open Declaration (Tree)
open OpenApi (Document Schema)
open Options (Config)
open Route (Table Transformer)

/-- What decides on the additions of a run under a configuration. -/
def transformerOf (config : Config) (schemas : List Schema) : Transformer :=
  ⟨config, (Table.ofInputs config.selection (Route.Inputs.ofSchemas
    (Route.completeSchemas schemas).value)).value⟩

theorem value_postProcess {option : Option Options.PluginOption} {config : Config}
    (enabled : Config.ofOption? option = some config) (inputs : Route.Inputs) :
    (Route.Plugin.postProcess option inputs).value =
      some ⟨config, (Table.ofInputs config.selection inputs).value⟩ := by
  simp [Route.Plugin.postProcess, Route.Logged.andThen, enabled]

theorem run_all {context : Context} {config : Config} {tree : Tree}
    (enabled : Config.ofOption? context.option = some config)
    (attached : context.tree = some tree) :
    ∃ result, run context Phase.all = .ok result ∧
      result.schemas = (Route.completeSchemas context.schemas).value ∧
      result.transformer = some (transformerOf config context.schemas) ∧
      result.tree = some ((transformerOf config context.schemas).transform tree).value := by
  have transformer := value_postProcess enabled
    (Route.Inputs.ofSchemas (Route.Plugin.preProcess context.schemas).value)
  simp only [run, Phase.all, Phase.run, attached, transformer]
  exact ⟨_, rfl, rfl, rfl, rfl⟩

theorem lookup?_transformerOf {config : Config} {schemas : List Schema}
    (merge : config.selection = .merge) (bounded : schemas.length ≤ 1024) (name : String) :
    (transformerOf config schemas).table.lookup? name =
      (Route.lastOperation? name (Route.mergedOperations
        ((Route.completeSchemas schemas).value.map Schema.content))).bind Route.recordOf? := by
  have completed : (Route.completeSchemas schemas).value.length ≤ 1024 := by
    simpa [Route.completeSchemas_eq] using bounded
  have operations := Route.operations_collectPaths_merge _ completed
  rw [← operations]
  unfold transformerOf Table.ofInputs
  rw [merge, Route.Logged.andThen, Table.ofPaths_eq]
  exact (Table.lookup?_takeAll {} _ name).trans (Option.or_none ..)

/--
A full run under merging gives a path of a container a descriptor exactly if its body is not empty
and one of the merged operations of the completed documents answers to its name. The string
literals of the descriptor then say what the last such operation is.
-/
theorem run_describes_last_operation {context : Context} {config : Config} {tree : Tree}
    (enabled : Config.ofOption? context.option = some config)
    (merge : config.selection = .merge) (bounded : context.schemas.length ≤ 1024)
    (attached : context.tree = some tree) :
    ∃ result extended, run context Phase.all = .ok result ∧ result.tree = some extended ∧
      result.schemas = (Route.completeSchemas context.schemas).value ∧
      ∀ place child path, Route.pathAt? tree.statements place child = some path →
        ∃ after, Route.pathAt? extended.statements
            ((if config.routeTypeName.isSome then 1 else 0) + place) child = some after ∧
          ((∃ descriptor, Route.GetsDescriptor path after descriptor) ↔
            path.statements ≠ [] ∧
              ∃ operation ∈ Route.mergedOperations (result.schemas.map Schema.content),
                Route.answersTo path.name operation) ∧
          ∀ descriptor, Route.GetsDescriptor path after descriptor →
            ∃ template method operation id,
              Route.lastOperation? path.name
                (Route.mergedOperations (result.schemas.map Schema.content)) =
                  some (template, method, operation) ∧
              operation.id? = some id ∧
              descriptor.members.filterMap Route.literal? =
                [("operationId", id), ("method", method.key),
                  ("expressPath", Route.expressPath template), ("openapiPath", template)] := by
  obtain ⟨result, ran, schemas, -, extended⟩ := run_all enabled attached
  refine ⟨result, _, ran, extended, schemas, fun place child path hpath => ?_⟩
  have lookup := lookup?_transformerOf merge bounded path.name
  rw [← schemas] at lookup
  refine ⟨_, Route.pathAt?_transform (transformerOf config context.schemas) hpath, ?_, ?_⟩
  · rw [← Route.isSome_lastRecord_iff, ← lookup, Option.isSome_iff_exists]
    constructor
    · rintro ⟨descriptor, gets⟩
      obtain ⟨nonempty, record, hrecord, -⟩ := (Route.getsDescriptor_iff ..).mp gets
      exact ⟨nonempty, record, hrecord⟩
    · rintro ⟨nonempty, record, hrecord⟩
      exact ⟨_, (Route.getsDescriptor_iff ..).mpr ⟨nonempty, record, hrecord, rfl⟩⟩
  · intro descriptor gets
    obtain ⟨-, record, hrecord, rfl⟩ := (Route.getsDescriptor_iff ..).mp gets
    obtain ⟨⟨template, method, operation⟩, hlast, hrecord⟩ :=
      Option.bind_eq_some_iff.mp (lookup.symm.trans hrecord)
    obtain ⟨id, hid, rfl⟩ := Route.recordOf?_eq_some_iff.mp hrecord
    exact ⟨template, method, operation, id, hlast, hid, Route.literals_descriptor ..⟩

/-- Two documents whose operations answer to one name, and a tree with a path of that name. -/
def petsContext : Context where
  option := some (.toggle true)
  schemas :=
    [⟨"pets.json", ⟨.empty, .ofList [("/pets", ⟨[.operation .get (.withId "findPets")]⟩)]⟩⟩,
      ⟨"pet.json", ⟨.empty, .ofList [("/pets/{id}", ⟨[.operation .put (.withId "FindPets")]⟩)]⟩⟩]
  tree := some ⟨[.namespaceDecl { name := "Paths", body := some [.namespaceDecl
    { name := "FindPets", body := some [.interfaceDecl { name := "Responses" }] }] }]⟩

theorem run_describes_last_operation_pets : ∃ result extended after descriptor,
    run petsContext Phase.all = .ok result ∧ result.tree = some extended ∧
    Route.pathAt? extended.statements 0 0 = some after ∧
    Route.GetsDescriptor
      { name := "FindPets", body := some [.interfaceDecl { name := "Responses" }] } after descriptor ∧
    descriptor.members.filterMap Route.literal? =
      [("operationId", "FindPets"), ("method", "put"), ("expressPath", "/pets/:id"),
        ("openapiPath", "/pets/{id}")] := by
  obtain ⟨result, extended, ran, attached, schemas, paths⟩ :=
    @run_describes_last_operation petsContext {} _ rfl rfl (by decide) rfl
  obtain ⟨after, place, gets, literals⟩ := paths 0 0 _ rfl
  have found : (Route.lastOperation? "FindPets" (Route.mergedOperations
      (result.schemas.map Schema.content))).bind Route.recordOf? =
        some ⟨"FindPets", .put, "/pets/{id}"⟩ := by
    rw [schemas]
    decide +kernel
  obtain ⟨descriptor, hdescriptor⟩ := gets.mpr ⟨List.cons_ne_nil _ _,
    Route.isSome_lastRecord_iff.mp (found ▸ rfl)⟩
  obtain ⟨template, method, operation, id, hlast, hid, hliterals⟩ := literals descriptor hdescriptor
  refine ⟨result, extended, after, descriptor, ran, attached, place, hdescriptor, ?_⟩
  have record : some (⟨id, method, template⟩ : Route.Record) =
      some ⟨"FindPets", .put, "/pets/{id}"⟩ := by
    rw [← found, hlast]
    simp [Route.recordOf?, hid]
  cases record
  exact hliterals

end Pipeline

end TypedRoutes
