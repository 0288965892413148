import RoguePilot.Number.Binary64
import RoguePilot.Toml.Fault

/-!
# Values and tables

A document is a table of values, which may be tables in turn. How a table came about decides what may
still be added to it: a header opens a table once, a longer header implies the tables on its way, a dotted
key makes tables that only dotted keys extend, and a table written in braces is closed. This file looks up
and adds entries under these rules.
-/

namespace RoguePilot.Toml

/-- How a table came about. -/
inductive Origin where
  /-- It has a header of its own, or is the whole document. -/
  | header
  /-- It lies on the way of a longer header. -/
  | implied
  /-- It lies on the way of a dotted key. -/
  | dotted
  /-- It is written in braces. -/
  | inline
deriving DecidableEq, Repr

/-- A value of a document. -/
inductive Value where
  | text (text : String)
  | integer (number : Int)
  | float (number : Binary64)
  | boolean (value : Bool)
  | moment (text : String)
  /-- An array written in brackets. -/
  | array (items : List Value)
  /-- Tables that share one header in double brackets, the last one first. -/
  | tables (items : List (List (String × Value)))
  | table (origin : Origin) (entries : List (String × Value))
deriving Repr

/-- The entries of a table in the order of their definition. -/
abbrev Table : Type := List (String × Value)

namespace Table

/-- The value of a key. -/
def get? (table : Table) (key : String) : Option Value :=
  table.lookup key

/-- The table with the value of a key it has already replaced. -/
def replace (key : String) (value : Value) : Table → Table
  | [] => []
  | entry :: table =>
    if entry.1 = key then (key, value) :: table else entry :: replace key value table

/--
Changes the table at the end of a path of keys, making the tables on the way if there are none. A path
through tables that share a header goes through the last of them. A dotted path does not go through
tables that have a header, and no path goes through a table in braces.
-/
def descend (dotted : Bool) (change : Origin → Table → Except Fault Table) :
    List String → Origin → Table → Except Fault Table
  | [], origin, table => change origin table
  | key :: path, _, table =>
    match get? table key with
    | none => do
      let origin : Origin := if dotted then .dotted else .implied
      let made ← descend dotted change path origin []
      return table ++ [(key, .table origin made)]
    | some (.table origin inner) =>
      if origin = .inline then .error (.notATable key)
      else if dotted && origin = .header then .error (.duplicateKey key)
      else do
        let changed ← descend dotted change path origin inner
        return replace key (.table origin changed) table
    | some (.tables (last :: earlier)) => do
      let changed ← descend dotted change path .header last
      return replace key (.tables (changed :: earlier)) table
    | some _ => .error (.notATable key)

/--
Defines a key at the end of a dotted path, which is empty for a plain key. A plain key does not extend a
table made by dotted keys, and a dotted one no other table.
-/
def define (path : List String) (key : String) (value : Value) (origin : Origin) (table : Table) :
    Except Fault Table :=
  descend (!path.isEmpty)
    (fun place inner =>
      if (place = .dotted) == path.isEmpty then .error (.duplicateKey key)
      else if (get? inner key).isSome then .error (.duplicateKey key)
      else .ok (inner ++ [(key, value)]))
    path origin table

/-- Opens the table of a header. Only a table that was implied so far may already be there. -/
def openTable (path : List String) (key : String) (table : Table) : Except Fault Table :=
  descend false
    (fun _ inner =>
      match get? inner key with
      | none => .ok (inner ++ [(key, .table .header [])])
      | some (.table .implied entries) => .ok (replace key (.table .header entries) inner)
      | some _ => .error (.duplicateKey key))
    path .header table

/-- Opens one more of the tables that share a header. -/
def openShared (path : List String) (key : String) (table : Table) : Except Fault Table :=
  descend false
    (fun _ inner =>
      match get? inner key with
      | none => .ok (inner ++ [(key, .tables [[]])])
      | some (.tables items) => .ok (replace key (.tables ([] :: items)) inner)
      | some _ => .error (.duplicateKey key))
    path .header table

end Table

end RoguePilot.Toml
