/-!
# Configuration data

What a configuration document holds, apart from the format it is written in. A scalar tells how
it may be read: as a text, as a truth value or as the absence of a value.
-/

namespace Checkup.Settings

structure Scalar where
  text : Option String := none
  truth : Option Bool := none
  /-- Whether it stands for no value; undefined if the scalar contradicts itself. -/
  absent : Option Bool := some false
  /-- It also reads as an empty list or table. -/
  vacant : Bool := false
  deriving DecidableEq, Repr

inductive Datum where
  | scalar (reading : Scalar)
  | list (items : List Datum)
  /-- A list that also reads as a table, each item being the field at its place. -/
  | record (items : List Datum)
  | table (entries : List (Datum × Datum))

namespace Datum

def ofText (text : String) : Datum := .scalar { text := some text }

def ofTruth (truth : Bool) : Datum := .scalar { truth := some truth }

def nothing : Datum := .scalar { absent := some true }

/-- A value of some other kind, which can only be passed over. -/
def other : Datum := .scalar {}

def text? : Datum → Option String
  | .scalar reading => reading.text
  | _ => none

def truth? : Datum → Option Bool
  | .scalar reading => reading.truth
  | _ => none

def items? : Datum → Option (List Datum)
  | .list items | .record items => some items
  | .scalar reading => if reading.vacant then some [] else none
  | .table _ => none

def entries? : Datum → Option (List (Datum × Datum))
  | .table entries => some entries
  | .scalar reading => if reading.vacant then some [] else none
  | .list _ | .record _ => none

/-- Reads a value that may be left out. The outer option is a failure. -/
def optional? {Value : Type} (read? : Datum → Option Value) : Datum → Option (Option Value)
  | .scalar reading => do
    if ← reading.absent then return none
    return some (← read? (.scalar reading))
  | datum => (read? datum).map some

/-- The entries of a table whose keys are the given names; every key has to be a text. -/
def fields? (names : List String) : Datum → Option (List (String × Datum))
  | .record items => some (names.zip items)
  | datum => do (← datum.entries?).mapM fun (key, value) => return (← key.text?, value)

/-- Reads a field that may be missing or absent, but not written twice. -/
def field? {Value : Type} (fields : List (String × Datum)) (read? : Datum → Option Value)
    (name : String) : Option (Option Value) :=
  match fields.filter (·.1 == name) with
  | [] => some none
  | [(_, datum)] => datum.optional? read?
  | _ => none

end Datum

end Checkup.Settings
