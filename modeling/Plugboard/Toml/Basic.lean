import Plugboard.Table

/-!
TOML documents as tables within tables. A table remembers how it came to be, since that decides who
may still add to it. Of values only strings and whole numbers are kept.
-/
namespace Plugboard

namespace Toml

inductive Value
  | string (s : String)
  | integer (i : Int)
  /-- A value of any other type. -/
  | other
  deriving Repr, DecidableEq

/-- How a table came to be. -/
inductive Origin
  /-- As a step on the way to a table with a header. -/
  | passed
  /-- By a dotted key. -/
  | dotted
  /-- By a header of its own, as an element of a list of tables, or as the document itself. -/
  | declared
  deriving Repr, DecidableEq

/-- What stands under a key: a value, a table, or a list of tables with the last one open. -/
inductive Node
  | value (v : Value)
  | table (origin : Origin) (entries : List (String × Node))
  | tables (last : List (String × Node))

abbrev Entries := Table String Node

/-- A table that is being changed. -/
structure Open where
  origin : Origin
  entries : Entries

/-- Goes down along some keys and changes the table there. Tables that are not there are made; a
dotted key does not pass through a table that has a header. -/
def change (dotted : Bool) (f : Open → Option Open) : List String → Open → Option Open
  | [], t => f t
  | k :: path, t =>
    match Table.get? k t.entries with
    | none => do
      let c ← change dotted f path ⟨if dotted then .dotted else .passed, []⟩
      some { t with entries := Table.put k (.table c.origin c.entries) t.entries }
    | some (.value _) => none
    | some (.table origin entries) =>
      if dotted && origin == .declared then none
      else do
        let c ← change dotted f path ⟨origin, entries⟩
        some { t with entries := Table.put k (.table c.origin c.entries) t.entries }
    | some (.tables last) => do
      let c ← change dotted f path ⟨.declared, last⟩
      some { t with entries := Table.put k (.tables c.entries) t.entries }

/-- Puts a value under a new key. -/
def addValue (k : String) (v : Value) (t : Open) : Option Open :=
  match Table.get? k t.entries with
  | some _ => none
  | none => some { t with entries := Table.put k (.value v) t.entries }

/-- A key and its value in the open table. With dots the last table must be a dotted one too. -/
def addPair (path : List String) (k : String) (v : Value) (t : Open) : Option Open :=
  change true (fun t =>
    if (t.origin == .dotted) == path.isEmpty then none else addValue k v t) path t

/-- A table with a header. It may have been passed before, but not declared. -/
def declare (k : String) (t : Open) : Option Open :=
  match Table.get? k t.entries with
  | none => some { t with entries := Table.put k (.table .declared []) t.entries }
  | some (.table .passed entries) =>
    some { t with entries := Table.put k (.table .declared entries) t.entries }
  | some _ => none

/-- One more element of a list of tables. -/
def declareElement (k : String) (t : Open) : Option Open :=
  match Table.get? k t.entries with
  | none => some { t with entries := Table.put k (.tables []) t.entries }
  | some (.tables _) => some { t with entries := Table.put k (.tables []) t.entries }
  | some _ => none

end Toml
end Plugboard
