/-! Values of TOML, and how a table grows while a document is read. A table may be named in several
places, and where it was first named decides what may still be added to it. -/
namespace Curator.Toml

abbrev Key := List Char

/-- Where a table comes from. -/
inductive Origin where
  /-- It is written in braces, and complete. -/
  | braces
  | header
  /-- A header names a table in it. -/
  | implied
  /-- A key with dots names an entry of it. -/
  | dotted
deriving DecidableEq, Repr

/-- A value. Floating numbers and dates are told from the others, but not held. -/
inductive Value where
  | text (characters : List Char)
  | integer (value : Int)
  | float
  | truth (value : Bool)
  | moment
  | array (items : List Value)
  /-- An array of tables, each under a header of its own. -/
  | tables (members : List (List (Key × Value)))
  | table (origin : Origin) (entries : List (Key × Value))
deriving Repr

abbrev Entries := List (Key × Value)

namespace Entries

/-- Replace the value under a key by what is made of it, or add an entry. -/
def change? (key : Key) (make : Option Value → Option Value) : Entries → Option Entries
  | [] => (make none).map fun value => [(key, value)]
  | (name, value) :: rest =>
    if name = key then (make (some value)).map fun value => (name, value) :: rest
    else (change? key make rest).map ((name, value) :: ·)

/-- Add an entry under a new key. -/
def add? (key : Key) (value : Value) : Entries → Option Entries :=
  change? key fun
    | none => some value
    | some _ => none

/-- Change the table at the end of a path. Tables on the path that are missing are made; of an
array of tables the last one is meant. The dots of a key lead into no table with a header. -/
def within? (isDotted : Bool) (make : Origin → Entries → Option Entries) (origin : Origin) :
    List Key → Entries → Option Entries
  | [], entries => make origin entries
  | key :: path, entries =>
    entries.change? key fun
      | none =>
        let origin := if isDotted then .dotted else .implied
        (within? isDotted make origin path []).map (.table origin)
      | some (.table origin inner) =>
        if origin = .braces ∨ isDotted = true ∧ origin = .header then none
        else (within? isDotted make origin path inner).map (.table origin)
      | some (.tables members) =>
        match members.getLast? with
        | some last =>
          (within? isDotted make .header path last).map fun last =>
            .tables (members.dropLast ++ [last])
        | none => none
      | some _ => none

end Entries

/-- A key with the value that is written for it. -/
structure Assignment where
  path : List Key
  key : Key
  value : Value
deriving Repr

/-- A header with the assignments under it. -/
structure Section where
  /-- Whether the header adds a table to an array. -/
  isMember : Bool
  path : List Key
  key : Key
  assignments : List Assignment
deriving Repr

namespace Entries

/-- Carry out an assignment. The table that dots lead to was itself made by dots. -/
def assign? (entries : Entries) (assignment : Assignment) : Option Entries :=
  entries.within? true (fun origin inner =>
    if assignment.path = [] ∨ origin = .dotted then inner.add? assignment.key assignment.value
    else none) .header assignment.path

/-- Add a section. A table has one header at most, and only one that its own parts implied may be
there before it. -/
def addSection? (entries : Entries) (part : Section) : Option Entries :=
  entries.within? false (fun _ inner =>
    inner.change? part.key fun
      | none => do
        let own ← part.assignments.foldlM assign? []
        return if part.isMember then .tables [own] else .table .header own
      | some (.table .implied own) =>
        if part.isMember then none
        else (part.assignments.foldlM assign? own).map (.table .header)
      | some (.tables members) => do
        let own ← part.assignments.foldlM assign? []
        if part.isMember then return .tables (members ++ [own]) else none
      | some _ => none) .header part.path

end Entries

namespace Value

/-- The members of a list, which may be tables. -/
def members? : Value → Option (List Value)
  | array items => some items
  | tables members => some (members.map (table .header))
  | _ => none

/-- The parts of a record by place and name. A record is a table, or a list with the parts in
order; a date is a record without parts that count. -/
def part? (record : Value) : Option (Nat → String → Option Value) :=
  match record with
  | table _ entries => some fun _ name => entries.lookup name.toList
  | moment => some fun _ _ => none
  | record => record.members?.map fun members index _ => members[index]?

/-- The characters of a text. -/
def text? : Value → Option (List Char)
  | text characters => some characters
  | _ => none

def truth? : Value → Option Bool
  | truth value => some value
  | _ => none

/-- An integer from `-bound` to `bound - 1`. -/
def integer? (bound : Nat) : Value → Option Int
  | integer value => if -(bound : Int) ≤ value ∧ value < bound then some value else none
  | _ => none

/-- The name of a choice, which may also be the only key of a table, with nothing under it. -/
def choice? : Value → Option Key
  | text name => some name
  | table _ [(name, table _ [])] | table _ [(name, array [])] => some name
  | _ => none

end Value

end Curator.Toml
