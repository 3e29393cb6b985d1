import TunnelServer.Toml.Value

/-! # Adding to tables

No key may be given twice, and a table may be extended only in the way in which it came about: one
that has had its own header only under that header, one made by dotted keys only by dotted keys, and
one in braces not at all.
-/

namespace TunnelServer.Toml

namespace Entries

def find? (entries : Entries) (key : String) : Option Value := entries.lookup key

/-- Puts a value in the place of that of a key. -/
def replace (key : String) (value : Value) (entries : Entries) : Entries :=
  entries.map fun entry => if entry.1 = key then (key, value) else entry

def remove (key : String) (entries : Entries) : Entries := entries.filter (·.1 ≠ key)

/-- Adds a key at the end, unless it is there already. -/
def add? (key : String) (value : Value) (entries : Entries) : Option Entries :=
  match entries.find? key with
  | some _ => none
  | none => some (entries ++ [(key, value)])

/-- Changes the table at the end of a path. Tables that are missing on the way are made, and of an
array of tables the last is meant. -/
def within (dotted : Bool) (change : TableKind → Entries → Option Entries) :
    List String → TableKind → Entries → Option Entries
  | [], kind, entries => change kind entries
  | step :: path, _, entries =>
    match entries.find? step with
    | none =>
      let kind := if dotted then .dotted else .implied
      (within dotted change path kind []).map fun inner => entries ++ [(step, .table kind inner)]
    | some (.table kind inner) =>
      if kind = .inline ∨ (dotted ∧ kind = .header) then none
      else (within dotted change path kind inner).map fun inner =>
        entries.replace step (.table kind inner)
    | some (.tables elements) =>
      match elements.reverse with
      | [] => none
      | last :: earlier =>
        (within dotted change path .header last).map fun last =>
          entries.replace step (.tables (earlier.reverse ++ [last]))
    | some _ => none

/-- Adds a value under a dotted key. The table that it goes into must be the one at hand, or have
been made by dotted keys. -/
def put? (path : List String) (key : String) (value : Value) (entries : Entries) :
    Option Entries :=
  within true (fun kind inner =>
    if path.isEmpty ∨ kind = .dotted then inner.add? key value else none) path .header entries

end Entries

/-- A value under a dotted key. -/
structure Assignment where
  path : List String
  key : String
  value : Value

def Entries.putAll? (assignments : List Assignment) (entries : Entries) : Option Entries :=
  assignments.foldlM (fun entries item => entries.put? item.path item.key item.value) entries

/-- A header: whether it opens an element of an array of tables, and the path to the table. -/
structure Header where
  element : Bool
  path : List String
  key : String

/-- A header and the assignments under it. -/
structure Block where
  header : Header
  assignments : List Assignment

namespace Entries

/-- Opens a table that has not had a header, and fills it. One that was implied so far moves to the
end of its surroundings. -/
def openTable? (block : Block) (entries : Entries) : Option Entries :=
  let key := block.header.key
  match entries.find? key with
  | none => do
    let inner ← putAll? block.assignments []
    return entries ++ [(key, .table .header inner)]
  | some (.table .implied inner) => do
    let inner ← putAll? block.assignments inner
    return entries.remove key ++ [(key, .table .header inner)]
  | some _ => none

def openElement? (block : Block) (entries : Entries) : Option Entries := do
  let key := block.header.key
  let element ← putAll? block.assignments []
  match entries.find? key with
  | none => return entries ++ [(key, .tables [element])]
  | some (.tables elements) => return entries.replace key (.tables (elements ++ [element]))
  | some _ => none

def addBlock? (entries : Entries) (block : Block) : Option Entries :=
  let change := if block.header.element then openElement? block else openTable? block
  within false (fun _ inner => change inner) block.header.path .header entries

/-- The document of the assignments before the first header, and of the blocks after it. -/
def ofBlocks? (assignments : List Assignment) (blocks : List Block) : Option Entries := do
  blocks.foldlM addBlock? (← putAll? assignments [])

end Entries

end TunnelServer.Toml
