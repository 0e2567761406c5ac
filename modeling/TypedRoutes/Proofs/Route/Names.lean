import TypedRoutes.Proofs.Options.Resolution
import TypedRoutes.Proofs.Pipeline

/-!
The names of the types of a path. The check of an alias keeps it apart from the declarations that
the generator makes; it knows nothing of those that a path has already, and the alias is added
beside one of the same name.
-/

set_option autoImplicit false
set_option relaxedAutoImplicit false

namespace TypedRoutes

namespace Declaration

/-- The names of the interfaces and type aliases among statements, in order. -/
def typeNames (statements : List Statement) : List String :=
  (statements.filter Statement.isNamedType).filterMap Statement.declaredName?

end Declaration

namespace Route

open Declaration (Namespace Statement Tree typeNames)
open Options (Config IsAlias PluginOption)

private theorem typeNames_of_areAdditions {config : Config} {added : List Statement}
    (areAdditions : AreAdditions config added) :
    typeNames added = "Config" :: config.routeTypeName.toList := by
  unfold AreAdditions at areAdditions
  split at areAdditions
  case h_1 descriptor =>
    obtain ⟨name, configured⟩ := areAdditions
    rw [configured]
    exact congrArg (· :: []) name
  case h_2 descriptor handler =>
    obtain ⟨name, configured⟩ := areAdditions
    rw [configured]
    exact congrArg (· :: [handler.name]) name
  case h_3 => cases areAdditions

private theorem exists_added_of_ne {container : String} {table : Table} {config : Config}
    {path : Namespace} (rewritten : (appendToPath container table config path).value ≠ path) :
    ∃ added, (appendToPath container table config path).value.statements =
        path.statements ++ added ∧
      typeNames added = "Config" :: config.routeTypeName.toList := by
  rcases appendToPath_cases container table config path with ⟨reason, h, -⟩ | ⟨grown, h, hg⟩
  · rw [h] at rewritten
    exact absurd rfl rewritten
  · obtain ⟨body, added, hbody, areAdditions, rfl⟩ := hg
    refine ⟨added, ?_, typeNames_of_areAdditions areAdditions⟩
    rw [h]
    simp [Namespace.statements, hbody]

private theorem appendToPath_ne (container : String) {table : Table} (config : Config)
    {path : Namespace} {record : Record} (nonempty : path.statements ≠ [])
    (found : table.lookup? path.name = some record) :
    (appendToPath container table config path).value ≠ path := by
  intro same
  obtain ⟨-, rest, statements⟩ :=
    (getsDescriptor_iff container table config path _).mpr ⟨nonempty, record, found, rfl⟩
  rw [same] at statements
  simp at statements

private theorem ofOption?_of_postProcess {option : Option PluginOption} {inputs : Inputs}
    {transformer : Transformer}
    (enabled : (Plugin.postProcess option inputs).value = some transformer) :
    Config.ofOption? option = some transformer.config := by
  cases h : Config.ofOption? option with
  | none => simp [Plugin.postProcess, Logged.andThen, h] at enabled
  | some config =>
    rw [Pipeline.value_postProcess h] at enabled
    cases enabled
    rfl

private theorem nodup_addedNames {config : Config}
    (isAlias : ∀ name, config.routeTypeName = some name → IsAlias name) :
    ("Config" :: config.routeTypeName.toList).Nodup ∧
      "RequestHandler" ∉ "Config" :: config.routeTypeName.toList := by
  cases configured : config.routeTypeName with
  | none => decide
  | some name =>
    have descriptor : "Config" ≠ name := (isAlias name configured).notDescriptor.symm
    have handler : "RequestHandler" ≠ name := (isAlias name configured).notHandler.symm
    simp [descriptor, handler]

/--
The types that a path of a container gets have pairwise different names, and none has the name of
the imported type. If the path had no type of the descriptor's name before, they share no name with
the types that it had exactly if the alias, where there is one, is not among these.
-/
theorem transform_adds_types_apart_iff {option : PluginOption} {inputs : Inputs}
    {transformer : Transformer}
    (enabled : (Plugin.postProcess (some option) inputs).value = some transformer)
    {tree : Tree} {place child : Nat} {path : Namespace}
    (hpath : pathAt? tree.statements place child = some path)
    (undeclared : "Config" ∉ typeNames path.statements) :
    ∃ after, pathAt? (transformer.transform tree).value.statements
        ((if transformer.config.routeTypeName.isSome then 1 else 0) + place) child = some after ∧
      (after ≠ path → ∃ added, after.statements = path.statements ++ added ∧
        typeNames added = "Config" :: transformer.config.routeTypeName.toList ∧
        (typeNames added).Nodup ∧ "RequestHandler" ∉ typeNames added ∧
        ((typeNames path.statements).Disjoint (typeNames added) ↔
          ∀ name, transformer.config.routeTypeName = some name →
            name ∉ typeNames path.statements)) := by
  refine ⟨_, pathAt?_transform transformer hpath, fun rewritten => ?_⟩
  obtain ⟨added, statements, names⟩ := exists_added_of_ne rewritten
  obtain ⟨nodup, handler⟩ := nodup_addedNames fun name configured =>
    Config.isAlias_of_ofOption? (ofOption?_of_postProcess enabled) configured
  refine ⟨added, statements, names, names ▸ nodup, names ▸ handler, ?_⟩
  rw [names, List.disjoint_cons_right, and_iff_right undeclared]
  constructor
  · intro disjoint name configured declared
    exact disjoint declared (Option.mem_toList.mpr configured)
  · intro fresh name declared added
    exact fresh name (Option.mem_toList.mp added) declared

def petsInputs : Inputs := .ofSchemas
  [⟨"pets.json", ⟨.empty, .ofList [("/pets", ⟨[.operation .get (.withId "findPets")]⟩)]⟩⟩]

def petsPath : Namespace :=
  { name := "FindPets", body := some [.interfaceDecl { name := "QueryParameters" }] }

def petsTree : Tree :=
  ⟨[.namespaceDecl { name := "Paths", body := some [.namespaceDecl petsPath] }]⟩

def petsOption (name : String) : PluginOption := .options { routeTypeName := some (.name name) }

/-- What decides on the additions to the tree under an alias. -/
def petsTransformer (name : String) : Transformer :=
  ⟨{ routeTypeName := some name }, (Table.ofInputs .merge petsInputs).value⟩

private theorem pathAt?_petsTree (name : String) :
    pathAt? ((petsTransformer name).transform petsTree).value.statements 1 0 =
      some (appendToPath "Paths" (petsTransformer name).table (petsTransformer name).config
        petsPath).value := by
  have before : pathAt? petsTree.statements 0 0 = some petsPath := rfl
  exact pathAt?_transform (petsTransformer name) before

private theorem appendToPath_petsPath_ne (name : String) :
    (appendToPath "Paths" (petsTransformer name).table (petsTransformer name).config
      petsPath).value ≠ petsPath := by
  have found : (Table.ofInputs .merge petsInputs).value.lookup? "FindPets" =
      some ⟨"findPets", .get, "/pets"⟩ := by
    decide +kernel
  exact appendToPath_ne "Paths" _ (List.cons_ne_nil _ _) found

theorem transform_adds_types_apart_pets : ∃ after added,
    (Plugin.postProcess (some (petsOption "Handlers")) petsInputs).value =
        some (petsTransformer "Handlers") ∧
      pathAt? ((petsTransformer "Handlers").transform petsTree).value.statements 1 0 =
        some after ∧
      after.statements = petsPath.statements ++ added ∧
      typeNames added = ["Config", "Handlers"] ∧
      (typeNames petsPath.statements).Disjoint (typeNames added) := by
  have enabled : (Plugin.postProcess (some (petsOption "Handlers")) petsInputs).value =
      some (petsTransformer "Handlers") := rfl
  obtain ⟨after, place, types⟩ :=
    @transform_adds_types_apart_iff _ _ _ enabled petsTree 0 0 petsPath rfl (by decide)
  obtain rfl := Option.some.inj ((pathAt?_petsTree "Handlers").symm.trans place)
  obtain ⟨added, statements, names, -, -, apart⟩ := types (appendToPath_petsPath_ne "Handlers")
  refine ⟨_, added, enabled, place, statements, names, apart.mpr fun name configured => ?_⟩
  obtain rfl : "Handlers" = name := Option.some.inj configured
  decide

/-- An accepted alias is added beside a type of its name. -/
theorem transform_repeats_type : ∃ after,
    (petsOption "QueryParameters").check = .ok () ∧
      (Plugin.postProcess (some (petsOption "QueryParameters")) petsInputs).value =
        some (petsTransformer "QueryParameters") ∧
      pathAt? petsTree.statements 0 0 = some petsPath ∧
      typeNames petsPath.statements = ["QueryParameters"] ∧
      pathAt? ((petsTransformer "QueryParameters").transform petsTree).value.statements 1 0 =
        some after ∧
      ∃ added, after.statements = petsPath.statements ++ added ∧
        typeNames added = ["Config", "QueryParameters"] := by
  obtain ⟨added, statements, names⟩ :=
    exists_added_of_ne (appendToPath_petsPath_ne "QueryParameters")
  exact ⟨_, by decide, rfl, rfl, by decide, pathAt?_petsTree _, added, statements, names⟩

end Route

end TypedRoutes
