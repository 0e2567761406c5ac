import TypedRoutes.OpenApi.Document
import TypedRoutes.Route.Diagnostic

/-!
The table of operations: one record per lookup key, the later operation over the earlier one. It is
built from the paths of all inputs.
-/

set_option autoImplicit false
set_option relaxedAutoImplicit false

namespace TypedRoutes.Route

open OpenApi (Method Operation Paths Schema)
open Options (Selection)

/-- Records under the lookup keys of their operation ids. -/
structure Table where
  entries : OrderedMap Record := .empty

namespace Table

/-- The record of an operation, found by any spelling of its id or by the name of a path. -/
def lookup? (table : Table) (name : String) : Option Record :=
  table.entries.get? (lookupKey name)

/-- Writes a record under its lookup key, and tells the record that it takes the place of. -/
def getThenInsert? (table : Table) (record : Record) : Option Record × Table :=
  let (previous, entries) :=
    table.entries.getThenInsert? (lookupKey record.operationId) record
  (previous, ⟨entries⟩)

def insert (table : Table) (record : Record) : Table := (table.getThenInsert? record).2

/-- The records in the order in which their keys first came. -/
def records (table : Table) : List Record := table.entries.entries.map Prod.snd

def size (table : Table) : Nat := table.entries.size

/-- Takes an operation into the table, and tells if it has no id or displaces another one. -/
def take (table : Table) (operation : String × Method × Operation) : Logged Table :=
  let (template, method, operation) := operation
  match operation.id? with
  | none => ⟨table, [.idMissing method template]⟩
  | some id =>
    let record : Record := ⟨id, method, template⟩
    match table.getThenInsert? record with
    | (none, table) => ⟨table, []⟩
    | (some displaced, table) => ⟨table, [.idCollision record displaced]⟩

/-- Takes the operations of path items, item by item. There may be findings already; what is said of
the operations comes behind them. -/
def build (paths : Paths) (findings : List Diagnostic) : Logged Table :=
  paths.items.foldl (fun built item =>
    item.2.operations.foldl (fun built operation =>
      built.andThen fun table => table.take (item.1, operation.1, operation.2)) built)
    ⟨{}, findings⟩

def ofPaths (paths : Paths) : Logged Table := build paths []

end Table

/-- Inputs in order: the one at each place, and none from where they end. An input need not have a
schema. -/
abbrev Inputs := Nat → Option (Option Schema)

def Inputs.ofList (inputs : List (Option Schema)) : Inputs := fun place => inputs[place]?

def Inputs.ofSchemas (schemas : List Schema) : Inputs := Inputs.ofList (schemas.map some)

/-- Adds the paths of an input; an input without path items adds nothing. -/
def addInput (selection : Selection) (collected : Paths) (input : Option Schema) : Paths :=
  match OpenApi.inputPaths? input with
  | none => collected
  | some paths =>
    match selection with
    | .merge => collected.insertMany paths.items
    | .last => paths

/-- Collects the paths of at most `budget` inputs from a place on. -/
def collectFrom (selection : Selection) (inputs : Inputs) :
    (budget : Nat) → (place : Nat) → Paths → Logged Paths
  | 0, place, collected =>
    ⟨collected, if (inputs place).isSome then [.inputsUnfinished] else []⟩
  | budget + 1, place, collected =>
    match inputs place with
    | none => ⟨collected, []⟩
    | some input =>
      collectFrom selection inputs budget (place + 1) (addInput selection collected input)

def collectPaths (selection : Selection) (inputs : Inputs) : Logged Paths :=
  collectFrom selection inputs inputLimit 0 {}

def Table.ofInputs (selection : Selection) (inputs : Inputs) : Logged Table :=
  (collectPaths selection inputs).andThen Table.ofPaths

end TypedRoutes.Route
