/-!
# TOML documents

A document is a tree of tables. A table that came about as part of another one's path is implicit,
by a header or by a dotted key; what was written in braces or brackets is closed. `Table.define`
and `Table.open` add to a tree and fail where the document would say a thing twice.
-/

namespace DockLint.Toml

/-- A value without parts. Numbers and dates are kept as they were written. -/
inductive Scalar where
  | text (s : String)
  | boolean (b : Bool)
  | integer (literal : String)
  | float (literal : String)
  | date (literal : String)
  deriving DecidableEq, Repr

/-- How a table came about. -/
inductive Origin where
  /-- It has a header of its own. -/
  | header
  /-- It stands in the header of another one. -/
  | headerPath
  | dottedKey
  deriving DecidableEq, Repr

inductive Node where
  | scalar (s : Scalar)
  | array (elements : List Node)
  /-- Written in braces. -/
  | inline (entries : List (String × Node))
  | table (origin : Origin) (entries : List (String × Node))
  /-- An array of tables, each with a header; the latest stands first. -/
  | tables (items : List (List (String × Node)))
  deriving Repr, Inhabited

def hexValue? (c : Char) : Option Nat :=
  if c.isDigit then some (c.toNat - 0x30)
  else if 'a' ≤ c ∧ c ≤ 'f' then some (c.toNat - 0x57)
  else if 'A' ≤ c ∧ c ≤ 'F' then some (c.toNat - 0x37)
  else none

abbrev Table := List (String × Node)

namespace Table

/-- Puts a node in place of one with the same key, or at the end. -/
def set (key : String) (node : Node) : Table → Table
  | [] => [(key, node)]
  | (k, n) :: rest => if k = key then (key, node) :: rest else (k, n) :: set key node rest

/-- Changes the table at the end of `path`; tables missing on the way come about by `origin`. A
dotted key does not reach into a table that has a header. -/
def change (origin : Origin) (f : Origin → Table → Option Table) :
    (path : List String) → (here : Origin) → Table → Option Table
  | [], here, t => f here t
  | key :: path, _, t =>
    match t.lookup key with
    | none => do
      let sub ← change origin f path origin []
      return t.set key (.table origin sub)
    | some (.table o sub) =>
      if origin = .dottedKey ∧ o = .header then none
      else do
        let sub ← change origin f path o sub
        return t.set key (.table o sub)
    | some (.tables (latest :: earlier)) => do
      let sub ← change origin f path .header latest
      return t.set key (.tables (sub :: earlier))
    | some _ => none

/-- Adds a node under a key that the table does not have. -/
def add (key : String) (node : Node) (t : Table) : Option Table :=
  match t.lookup key with
  | none => some (t.set key node)
  | some _ => none

/-- Defines the value of a key, dotted if `path` is not empty, in a table. -/
def define (path : List String) (key : String) (node : Node) (t : Table) : Option Table :=
  change .dottedKey
    (fun here t => if path.isEmpty ∨ here = .dottedKey then t.add key node else none) path .header t

/-- Opens the table of a header. -/
def openTable (path : List String) (key : String) (t : Table) : Option Table :=
  change .headerPath
    (fun _ t =>
      match t.lookup key with
      | none => some (t.set key (.table .header []))
      | some (.table .headerPath sub) => some (t.set key (.table .header sub))
      | some _ => none) path .header t

/-- Opens one more table of an array of tables. -/
def openItem (path : List String) (key : String) (t : Table) : Option Table :=
  change .headerPath
    (fun _ t =>
      match t.lookup key with
      | none => some (t.set key (.tables [[]]))
      | some (.tables items) => some (t.set key (.tables ([] :: items)))
      | some _ => none) path .header t

/-- Defines a key in the table that was opened last. -/
def defineAt (opened : List String) (path : List String) (key : String) (node : Node) (t : Table) :
    Option Table :=
  change .headerPath (fun _ t => t.define path key node) opened .header t

end Table

end DockLint.Toml
