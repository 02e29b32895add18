import Checkup.Settings.Datum

/-!
# TOML tables

A table may grow only in the way in which it came to be: by a header, by dotted keys, on the way
to a header, or not at all when it was written inline.
-/

namespace Checkup.Toml

inductive TableKind where
  /-- Stands in the path of some header. -/
  | implied
  | dotted
  | header
  | inline
  deriving DecidableEq, Repr

inductive Value where
  | text (value : String)
  | truth (value : Bool)
  | number
  | date (written : String)
  | list (items : List Value)
  | table (kind : TableKind) (entries : List (String × Value))
  /-- The tables of a repeated header. -/
  | rows (tables : List (List (String × Value)))

abbrev Entries := List (String × Value)

namespace Entries

/-- Changes the value of a key in its place, or adds the key at the end. -/
def alterAt? (entries : Entries) (key : String) (change : Option Value → Option Value) :
    Option Entries :=
  match entries with
  | [] => (change none).map fun value => [(key, value)]
  | (other, value) :: rest =>
    if other = key then (change (some value)).map fun value => (key, value) :: rest
    else (alterAt? rest key change).map ((other, value) :: ·)

/-- Changes the last of the tables of a repeated header. -/
def alterLast? (change : Entries → Option Entries) (tables : List Entries) :
    Option (List Entries) := do
  return tables.dropLast ++ [← change (← tables.getLast?)]

/-- Begins the table that a header names. -/
def openTable? (repeated : Bool) : (path : List String) → Entries → Option Entries
  | [], _ => none
  | [key], entries =>
    entries.alterAt? key fun
      | none => some (if repeated then .rows [[]] else .table .header [])
      | some (.rows tables) => if repeated then some (.rows (tables ++ [[]])) else none
      | some (.table .implied entries) => if repeated then none else some (.table .header entries)
      | _ => none
  | key :: next :: rest, entries =>
    entries.alterAt? key fun
      | none => (openTable? repeated (next :: rest) []).map (.table .implied)
      | some (.table .inline _) => none
      | some (.table kind entries) =>
        (openTable? repeated (next :: rest) entries).map (.table kind)
      | some (.rows tables) =>
        (alterLast? (openTable? repeated (next :: rest)) tables).map .rows
      | _ => none

/-- Adds a value under a dotted key. The table that takes it is the one at hand or came to be by
dotted keys too. -/
def insert? (value : Value) : (direct : Bool) → (path : List String) → Entries → Option Entries
  | _, [], _ => none
  | direct, [key], entries =>
    if direct then
      entries.alterAt? key fun
        | none => some value
        | some _ => none
    else none
  | _, key :: next :: rest, entries =>
    entries.alterAt? key fun
      | none => (insert? value true (next :: rest) []).map (.table .dotted)
      | some (.table .dotted entries) =>
        (insert? value true (next :: rest) entries).map (.table .dotted)
      | some (.table .implied entries) =>
        (insert? value false (next :: rest) entries).map (.table .implied)
      | some (.rows tables) =>
        (alterLast? (insert? value false (next :: rest)) tables).map .rows
      | _ => none

/-- Adds a value under a dotted key of the table that a header began. -/
def insertUnder? (value : Value) (key : List String) :
    (header : List String) → Entries → Option Entries
  | [], entries => entries.insert? value true key
  | name :: rest, entries =>
    entries.alterAt? name fun
      | some (.table kind entries) => (insertUnder? value key rest entries).map (.table kind)
      | some (.rows tables) => (alterLast? (insertUnder? value key rest) tables).map .rows
      | _ => none

end Entries

/-- The field under which a date reads as a table. -/
def dateField : String := "$__toml_private_datetime"

mutual

def Value.datum : Value → Settings.Datum
  | .text value => .ofText value
  | .truth value => .ofTruth value
  | .number => .other
  | .date written => .table [(.ofText dateField, .ofText written)]
  | .list items => .record (itemData items)
  | .table _ entries => .table (entryData entries)
  | .rows tables => .record (rowData tables)

def itemData : List Value → List Settings.Datum
  | [] => []
  | item :: rest => item.datum :: itemData rest

def entryData : List (String × Value) → List (Settings.Datum × Settings.Datum)
  | [] => []
  | (key, value) :: rest => (.ofText key, value.datum) :: entryData rest

def rowData : List (List (String × Value)) → List Settings.Datum
  | [] => []
  | entries :: rest => .table (entryData entries) :: rowData rest

end

end Checkup.Toml
