import InteractionRouting.Json.Basic
import InteractionRouting.Table

/-!
# Trees of TOML tables

A document is a tree of tables that is made key by key.  A table is made once: by its own
header, or by keys with dots, or on the way to a table further in, and only the last kind
may get a header of its own later.
-/

namespace InteractionRouting.Toml

/-- How a table came to be. -/
inductive Making where
  /-- By a header of its own. -/
  | header
  /-- On the way to a table further in. -/
  | passing
  /-- By a key with dots. -/
  | dotted
deriving DecidableEq

/-- A place of a document. -/
inductive Node where
  | value (v : Json)
  | table (making : Making) (entries : List (String × Node))
  /-- Tables that came one after the other under one name. -/
  | tables (items : List (List (String × Node)))

/-- The entries of a table. -/
abbrev Entries := List (String × Node)

mutual

/-- The value at a place. -/
def Node.toJson : Node → Json
  | .value v => v
  | .table _ entries => .object (entriesToJson entries)
  | .tables items => .array (itemsToJson items)

def entriesToJson : List (String × Node) → List (String × Json)
  | [] => []
  | (k, n) :: rest => (k, n.toJson) :: entriesToJson rest

def itemsToJson : List (List (String × Node)) → List Json
  | [] => []
  | entries :: rest => .object (entriesToJson entries) :: itemsToJson rest

end

/-- Goes down a path, making the tables that are not there, and changes the table at its
end.  Keys with dots do not reach into a table with a header. -/
def within (making : Making) (change : Making → Entries → Option Entries) :
    List String → Making → Entries → Option Entries
  | [], made, entries => change made entries
  | key :: path, _, entries =>
    match entries.lookup key with
    | none => do
      let inner ← within making change path making []
      return Table.insertEntry key (.table making inner) entries
    | some (.value _) => none
    | some (.table made inner) =>
      if making = .dotted ∧ made = .header then none
      else do
        let inner ← within making change path made inner
        return Table.insertEntry key (.table made inner) entries
    | some (.tables items) =>
      match items.getLast? with
      | none => none
      | some last => do
        let last ← within making change path .header last
        return Table.insertEntry key (.tables (items.dropLast ++ [last])) entries

/-- Sets the value of a key with dots, below a table. -/
def setKey (path : List String) (key : String) (v : Json) (making : Making) (entries : Entries) :
    Option Entries :=
  within .dotted
    (fun made entries =>
      if decide (made = .dotted) == path.isEmpty || (entries.lookup key).isSome then none
      else some (entries ++ [(key, .value v)]))
    path making entries

/-- Makes the table of a header, below the table its path leads to. -/
def openTable (path : List String) (key : String) (entries : Entries) : Option Entries :=
  within .passing
    (fun _ entries =>
      match entries.lookup key with
      | none => some (entries ++ [(key, .table .header [])])
      | some (.table .passing inner) =>
        some (Table.insertEntry key (.table .header inner) entries)
      | some _ => none)
    path .header entries

/-- Adds a table to those of a header in double brackets. -/
def addTable (path : List String) (key : String) (entries : Entries) : Option Entries :=
  within .passing
    (fun _ entries =>
      match entries.lookup key with
      | none => some (entries ++ [(key, .tables [[]])])
      | some (.tables items) => some (Table.insertEntry key (.tables (items ++ [[]])) entries)
      | some _ => none)
    path .header entries

/-- Sets the value of a key with dots in the table a header has opened. -/
def setBelow (opened path : List String) (key : String) (v : Json) (entries : Entries) :
    Option Entries :=
  within .passing (setKey path key v) opened .header entries

end InteractionRouting.Toml
