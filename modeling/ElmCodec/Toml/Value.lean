/-
**Values and tables of TOML.**

A table remembers how it came to be, since that decides what may still be added to it: a table with
a header of its own may be named once only, one that a longer header passes through may get its
header later, one made by a dotted key grows by dotted keys only, and an inline table is complete.

* `Table.define` — a table opened by a header.
* `Table.addElement` — an element opened by a header of an array of tables.
* `Table.assign` — a value given to a dotted key.
-/

namespace ElmCodec.Toml

/-- How a table came to be. -/
inductive Origin where
  /-- By a header of its own, or as the whole document. -/
  | header
  /-- By a longer header. -/
  | path
  /-- By a dotted key. -/
  | dotted
  /-- In braces. -/
  | inline
  deriving DecidableEq, Repr

/-- A value. Nothing but the kind is kept of a moment in time; of a fraction it is kept whether the
format has a finite number for it. -/
inductive Value where
  | string (text : String)
  | integer (value : Int)
  | fraction (fits : Bool)
  | bool (value : Bool)
  | moment
  | array (items : List Value)
  /-- An array of tables with a header for each. -/
  | tables (elements : List Value)
  | table (origin : Origin) (entries : List (String × Value))
  deriving Inhabited

/-- The entries of a table, in their order. -/
abbrev Entries := List (String × Value)

namespace Value

mutual

/-- Whether every number in a value can be read: an integer within 128 bits, a fraction unless it
is beyond the greatest one. -/
def isReadable : Value → Bool
  | integer value => -(Nat.pow 2 127 : Nat) ≤ value && value < (Nat.pow 2 128 : Nat)
  | fraction fits => fits
  | array items | tables items => areReadable items
  | table _ entries => entriesReadable entries
  | string _ | bool _ | moment => true

/-- Whether every number in some values can be read. -/
def areReadable : List Value → Bool
  | [] => true
  | item :: rest => item.isReadable && areReadable rest

/-- Whether every number in some entries can be read. -/
def entriesReadable : Entries → Bool
  | [] => true
  | (_, value) :: rest => value.isReadable && entriesReadable rest

end

end Value

namespace Entries

/-- The entries with another value for a key that they have. -/
def replace (key : String) (value : Value) (entries : Entries) : Entries :=
  entries.map fun entry => if entry.1 == key then (key, value) else entry

/-- Changes the table at a path. Tables that are missing on the way get the given origin; by dotted
keys the way does not go through tables with a header, and never through inline tables. Through an
array of tables it goes to the last element. -/
def change (origin : Origin) (update : Origin → Entries → Option Entries) :
    List String → Origin → Entries → Option Entries
  | [], here, entries => update here entries
  | key :: rest, _, entries =>
    match entries.lookup key with
    | none =>
      (change origin update rest origin []).map fun inner =>
        entries ++ [(key, .table origin inner)]
    | some (.table found inner) =>
      if found = .inline || (origin = .dotted && found = .header) then none
      else (change origin update rest found inner).map fun inner =>
        replace key (.table found inner) entries
    | some (.tables elements) =>
      match elements.getLast? with
      | some (.table found inner) =>
        (change origin update rest found inner).map fun inner =>
          replace key (.tables (elements.dropLast ++ [.table found inner])) entries
      | _ => none
    | some _ => none

/-- Opens the table with a header. -/
def define (path : List String) (entries : Entries) : Option Entries :=
  match path.getLast? with
  | none => none
  | some key =>
    change .path (fun _ entries =>
      match entries.lookup key with
      | none => some (entries ++ [(key, .table .header [])])
      | some (.table .path inner) => some (replace key (.table .header inner) entries)
      | some _ => none) path.dropLast .header entries

/-- Opens another element of an array of tables. -/
def addElement (path : List String) (entries : Entries) : Option Entries :=
  match path.getLast? with
  | none => none
  | some key =>
    change .path (fun _ entries =>
      match entries.lookup key with
      | none => some (entries ++ [(key, .tables [.table .header []])])
      | some (.tables elements) =>
        some (replace key (.tables (elements ++ [.table .header []])) entries)
      | some _ => none) path.dropLast .header entries

/-- Gives a dotted key a value. The table that it ends in has to be made by dotted keys. -/
def assign (path : List String) (value : Value) (entries : Entries) : Option Entries :=
  match path.getLast? with
  | none => none
  | some key =>
    change .dotted (fun here entries =>
      if path.length > 1 && here ≠ .dotted then none
      else if (entries.lookup key).isSome then none
      else some (entries ++ [(key, value)])) path.dropLast .header entries

/-- Gives a dotted key a value in the table with a header. -/
def assignIn (header path : List String) (value : Value) (entries : Entries) : Option Entries :=
  change .path (fun _ inner => assign path value inner) header .header entries

end Entries

end ElmCodec.Toml
