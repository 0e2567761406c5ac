import TypedRoutes.Proofs.OpenApi.Paths
import TypedRoutes.Route.Table

/-!
The paths of several inputs. Merged documents are listed template by template, in the order in
which the templates first come, each with the path item of the last document that has it.
-/

set_option autoImplicit false
set_option relaxedAutoImplicit false

namespace TypedRoutes.Route

open OpenApi (Document Method Operation PathItem Paths)

/-- The templates of some documents in the order in which they first come. -/
def mergedTemplates (documents : List Document) : List String :=
  (documents.flatMap fun document => document.paths.items.map Prod.fst).eraseDups

/-- The path item of a template in the last document that has the template. -/
def lastItem? (documents : List Document) (template : String) : Option PathItem :=
  (documents.filterMap fun document => document.paths.get? template).getLast?

def mergedItems (documents : List Document) : List (String × PathItem) :=
  (mergedTemplates documents).filterMap fun template =>
    (lastItem? documents template).map (template, ·)

/-- The operations of some documents, merged, with templates and methods. -/
def mergedOperations (documents : List Document) : List (String × Method × Operation) :=
  (mergedItems documents).flatMap fun item =>
    item.2.operations.map fun operation => (item.1, operation.1, operation.2)

theorem entries_insertMany (paths : Paths) (items : List (String × PathItem)) :
    (paths.insertMany items).entries.entries =
      writeAll paths.entries.entries (items.map fun item => (item.1, .item item.2)) := by
  induction items generalizing paths with
  | nil => rfl
  | cons item rest ih => exact ih (paths.insert item.1 item.2)

private theorem get?_ofList (items : List (String × PathItem)) (template : String) :
    (Paths.ofList items).get? template = lastValue? template items := by
  unfold Paths.ofList Paths.get? OrderedMap.get?
  rw [entries_insertMany, entryValue?_writeAll, lastValue?_mapValues]
  cases lastValue? template items <;> rfl

private theorem items_ofList (items : List (String × PathItem)) :
    (Paths.ofList items).items = (items.map Prod.fst).eraseDups.filterMap fun template =>
      (lastValue? template items).map (template, ·) := by
  have keys : (Paths.ofList items).entries.entries.map Prod.fst =
      (items.map Prod.fst).eraseDups := by
    unfold Paths.ofList
    rw [entries_insertMany]
    refine (keys_writeAll_nil _).trans ?_
    simp [Function.comp_def]
  rw [Paths.items_eq, keys]
  exact List.filterMap_congr fun template _ => by rw [get?_ofList]

private theorem lastValue?_flatMap_items (documents : List Document) (template : String) :
    lastValue? template (documents.flatMap fun document => document.paths.items) =
      lastItem? documents template := by
  unfold lastValue? lastItem?
  rw [← List.getLast?_map, List.filter_flatMap, List.map_flatMap,
    List.filterMap_eq_flatMap_toList]
  exact congrArg _ (List.flatMap_congr fun document _ => document.paths.values_items template)

theorem items_ofList_flatMap (documents : List Document) :
    (Paths.ofList (documents.flatMap fun document => document.paths.items)).items =
      mergedItems documents := by
  refine (items_ofList _).trans ?_
  unfold mergedItems mergedTemplates
  simp only [← lastValue?_flatMap_items, List.map_flatMap]

theorem items_ofList_of_nodup {items : List (String × PathItem)}
    (nodup : (items.map Prod.fst).Nodup) : (Paths.ofList items).items = items := by
  let entry := fun item : String × PathItem => (item.1, Paths.Entry.item item.2)
  have templates : ([] ++ items.map entry).map Prod.fst = items.map Prod.fst := by
    simp [entry, Function.comp_def]
  have entries : (Paths.ofList items).entries.entries = items.map entry :=
    (entries_insertMany {} items).trans (writeAll_of_nodup (templates.symm ▸ nodup))
  unfold Paths.items
  rw [entries, List.filterMap_map]
  exact List.filterMap_some

theorem mergedOperations_of_nodup {documents : List Document}
    (nodup : ((documents.flatMap fun document => document.paths.items).map Prod.fst).Nodup) :
    mergedOperations documents = documents.flatMap fun document => document.paths.operations := by
  unfold mergedOperations Paths.operations
  rw [← items_ofList_flatMap, items_ofList_of_nodup nodup, List.flatMap_assoc]

end TypedRoutes.Route
