/-!
The values of a TOML text: switches, texts, empty lists and tables. Tables remember how they came
about, since that decides what may still be written into them.
-/

set_option autoImplicit false
set_option relaxedAutoImplicit false

namespace TypedRoutes.Toml

/-- How a table came about: as a step on the way to a headed table, under a header of its own, as
a step of a dotted key, or between braces. -/
inductive Origin where
  | implied
  | headed
  | dotted
  | inline
  deriving DecidableEq, Repr

/-- A value. Numbers, dates and lists with items are left out, since no option takes them. -/
inductive Value where
  | bool (on : Bool)
  | text (text : String)
  | emptyList
  | table (origin : Origin) (entries : List (String × Value))

abbrev Entries := List (String × Value)

namespace Entries

def get? (entries : Entries) (key : String) : Option Value := List.lookup key entries

/-- The entries with a value under a key: in the place of the old value, or behind all others. -/
def put (key : String) (value : Value) : Entries → Entries
  | [] => [(key, value)]
  | entry :: rest =>
    if entry.1 = key then (key, value) :: rest else entry :: put key value rest

/--
Changes the table that a path leads to. A table that is missing on the way is made with the given
origin; a table on the way is entered only if its origin allows it.
-/
def change? (made : Origin) (allows : Origin → Bool) (change : Entries → Option Entries) :
    List String → Entries → Option Entries
  | [], entries => change entries
  | key :: path, entries =>
    match entries.get? key with
    | none =>
      (change? made allows change path []).map fun inner => entries.put key (.table made inner)
    | some (.table origin inner) =>
      if allows origin then
        (change? made allows change path inner).map fun inner =>
          entries.put key (.table origin inner)
      else none
    | some _ => none

def add? (key : String) (value : Value) (entries : Entries) : Option Entries :=
  match entries.get? key with
  | none => some (entries.put key value)
  | some _ => none

/-- Heads a table that is missing or only implied. -/
def head? (key : String) (entries : Entries) : Option Entries :=
  match entries.get? key with
  | none => some (entries.put key (.table .headed []))
  | some (.table .implied inner) => some (entries.put key (.table .headed inner))
  | some _ => none

/-- Writes a value under a dotted key: all but the last key lead to a table. -/
def assign? (path : List String) (value : Value) (entries : Entries) : Option Entries :=
  path.getLast?.bind fun key =>
    change? .dotted (fun origin => origin = .dotted ∨ origin = .implied) (add? key value)
      path.dropLast entries

def open? (path : List String) (entries : Entries) : Option Entries :=
  path.getLast?.bind fun key =>
    change? .implied (fun origin => origin ≠ .inline) (head? key) path.dropLast entries

/-- Writes a value under a dotted key of the table that a header leads to. -/
def assignUnder? (header path : List String) (value : Value) (entries : Entries) :
    Option Entries :=
  change? .implied (fun _ => true) (assign? path value) header entries

end Entries

end TypedRoutes.Toml
