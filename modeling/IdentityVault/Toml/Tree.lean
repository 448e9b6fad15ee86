import IdentityVault.Toml.Value

/-! The tables of a document while it is read. How a table came about decides whether later keys
and headers may add to it. -/
namespace IdentityVault.Toml

/-- A table is written by a header, implied by the header of a table inside it, or made by a
dotted key. -/
inductive Origin where
  | header
  | implied
  | dotted
  deriving DecidableEq

/-- A value, a table, or an array of tables with the last one in front. -/
inductive Node where
  | value (v : Value)
  | table (origin : Origin) (entries : List (String × Node))
  | tables (elements : List (List (String × Node)))

abbrev Entries : Type := List (String × Node)

namespace Entries

/-- Give a bound key another node. -/
def replace (key : String) (node : Node) (entries : Entries) : Entries :=
  entries.map fun e => if e.1 = key then (key, node) else e

/-- Bind a key that must be new. -/
def add (key : String) (node : Node) (entries : Entries) : Option Entries :=
  match entries.lookup key with
  | some _ => none
  | none => some (entries ++ [(key, node)])

/-- Change the table that a path leads to. Missing tables on the way are made. A dotted key does
not pass through a table with a header; no path passes through a value. -/
def descend (dotted : Bool) (change : Origin → Entries → Option Entries) :
    List String → Origin → Entries → Option Entries
  | [], origin, entries => change origin entries
  | key :: path, _, entries =>
      match entries.lookup key with
      | none => do
          let origin : Origin := if dotted then .dotted else .implied
          let inner ← descend dotted change path origin []
          some (entries ++ [(key, .table origin inner)])
      | some (.value _) => none
      | some (.table origin inner) =>
          if dotted ∧ origin = .header then none
          else do
            let inner ← descend dotted change path origin inner
            some (entries.replace key (.table origin inner))
      | some (.tables (last :: earlier)) => do
          let last ← descend dotted change path .header last
          some (entries.replace key (.tables (last :: earlier)))
      | some (.tables []) => none

/-- Bind a dotted key. A key with several parts ends in a table that dotted keys made. -/
def assign (path : List String) (key : String) (v : Value) (origin : Origin) (entries : Entries) :
    Option Entries :=
  descend true (fun origin entries =>
    if path ≠ [] ∧ origin ≠ .dotted then none else entries.add key (.value v)) path origin entries

/-- Open a table by its header: a new one, or one that was only implied. -/
def openTable (key : String) (entries : Entries) : Option Entries :=
  match entries.lookup key with
  | none => some (entries ++ [(key, .table .header [])])
  | some (.table .implied inner) => some (entries.replace key (.table .header inner))
  | some _ => none

/-- Open the next table of an array of tables. -/
def openElement (key : String) (entries : Entries) : Option Entries :=
  match entries.lookup key with
  | none => some (entries ++ [(key, .tables [[]])])
  | some (.tables elements) => some (entries.replace key (.tables ([] :: elements)))
  | some _ => none

end Entries

mutual

def Node.toValue : Node → Value
  | .value v => v
  | .table _ entries => .table (fields entries)
  | .tables elements => .array (tableValues elements).reverse

def fields : List (String × Node) → List (String × Value)
  | [] => []
  | (key, node) :: rest => (key, node.toValue) :: fields rest

def tableValues : List (List (String × Node)) → List Value
  | [] => []
  | entries :: rest => .table (fields entries) :: tableValues rest

end

end IdentityVault.Toml
