/-!
# Configuration values

The values of a configuration file. Texts, arrays and tables matter; numbers, truth values and dates
are recognised but carry no data here.

* `Toml` — a value, with the way in which a table came about.
* `Toml.insert?` — adds the value of a key to a table; a key may not come twice.
* `Toml.within?` — changes a table inside another, making those that are missing on the way.
* `Toml.openTable?`, `Toml.openElement?` — what the header of a table, or of an element of an array
  of tables, does.
-/

namespace DmlOutline

/-- How a table came about, which decides what may be added to it later. -/
inductive Toml.Origin where
  /-- It has a header of its own. -/
  | header
  /-- It is on the way to a table with a header. -/
  | implied
  /-- It is on the way to a key with dots. -/
  | dotted
  /-- It is written in braces, and complete. -/
  | inline
  deriving DecidableEq, Repr

/-- A value of a configuration file. -/
inductive Toml where
  | string (text : String)
  | array (items : List Toml)
  | table (origin : Toml.Origin) (entries : List (String × Toml))
  /-- An array of tables, each with a header; it is never empty. -/
  | elements (tables : List (List (String × Toml)))
  /-- A number, a truth value or a date. -/
  | other
  deriving Repr, Inhabited

namespace Toml

/-- The keys of a table with their values. -/
abbrev Entries := List (String × Toml)

/-- Entries with another value for a key. -/
def set (key : String) (value : Toml) : Entries → Entries
  | [] => [(key, value)]
  | entry :: rest => if entry.1 = key then (key, value) :: rest else entry :: set key value rest

/-- A list with its last item changed. -/
def changeLast? {α : Type} (change : α → Option α) : List α → Option (List α)
  | [] => none
  | [last] => (change last).map ([·])
  | first :: next :: rest => (changeLast? change (next :: rest)).map (first :: ·)

/-- Adds the value of a key, given the tables on the way to it. The tables on the way may have been
made by such keys before, and the last of them only so. -/
def insert? (key : String) (value : Toml) : List String → Entries → Option Entries
  | [], entries =>
    match entries.lookup key with
    | some _ => none
    | none => some (entries ++ [(key, value)])
  | [last], entries =>
    match entries.lookup last with
    | none => some (entries ++ [(last, table .dotted [(key, value)])])
    | some (table .dotted inner) =>
      (insert? key value [] inner).map fun inner => set last (table .dotted inner) entries
    | some _ => none
  | first :: next :: rest, entries =>
    match entries.lookup first with
    | none =>
      (insert? key value (next :: rest) []).map fun inner =>
        entries ++ [(first, table .dotted inner)]
    | some (table .dotted inner) =>
      (insert? key value (next :: rest) inner).map fun inner =>
        set first (table .dotted inner) entries
    | some (table .implied inner) =>
      (insert? key value (next :: rest) inner).map fun inner =>
        set first (table .implied inner) entries
    | some (elements tables) =>
      (changeLast? (insert? key value (next :: rest)) tables).map fun tables =>
        set first (elements tables) entries
    | some _ => none

/-- Changes the table at the end of a way. Of an array of tables, the last one is meant; tables that
are missing are made. -/
def within? (change : Entries → Option Entries) : List String → Entries → Option Entries
  | [], entries => change entries
  | first :: rest, entries =>
    match entries.lookup first with
    | none =>
      (within? change rest []).map fun inner => entries ++ [(first, table .implied inner)]
    | some (table .inline _) => none
    | some (table origin inner) =>
      (within? change rest inner).map fun inner => set first (table origin inner) entries
    | some (elements tables) =>
      (changeLast? (within? change rest) tables).map fun tables =>
        set first (elements tables) entries
    | some _ => none

/-- Makes a table with a header. Only a table that is implied so far may be there. -/
def openTable? (key : String) (entries : Entries) : Option Entries :=
  match entries.lookup key with
  | none => some (entries ++ [(key, table .header [])])
  | some (table .implied inner) => some (set key (table .header inner) entries)
  | some _ => none

/-- Makes one more element of an array of tables. -/
def openElement? (key : String) (entries : Entries) : Option Entries :=
  match entries.lookup key with
  | none => some (entries ++ [(key, elements [[]])])
  | some (elements tables) => some (set key (elements (tables ++ [[]])) entries)
  | some _ => none

end Toml

end DmlOutline
