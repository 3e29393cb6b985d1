import TunnelServer.Toml.Literal
import TunnelServer.Toml.StringScan
import TunnelServer.Toml.Table

/-! # Reading documents

A document is a sequence of lines: assignments, headers, and lines that hold at most a comment.
Arrays and tables in braces may stand inside each other to a limited depth, and a dotted key may
have a limited number of parts. Every fault, in the grammar or in how tables are put together, makes
the whole document unreadable.
-/

namespace TunnelServer.Toml

/-- How deep arrays and tables in braces may stand inside each other. -/
def depthLimit : Nat := 79

def partLimit : Nat := 79

def isBareKeyChar (c : Char) : Bool := c.isAlphanum ∨ c = '-' ∨ c = '_'

namespace Scanner

def keyPart : Scanner String := do
  match ← peek? with
  | some '"' | some '\'' => shortString
  | _ =>
    let name ← run isBareKeyChar
    if name.isEmpty then failure
    return String.ofList name

/-- The parts after the first, at most so many, with dots before them and blanks around them. -/
def keyParts : Nat → Scanner (List String)
  | 0 => do
    if ← accept '.' then failure
    return []
  | more + 1 => do
    if ← accept '.' then
      blanks
      let part ← keyPart
      blanks
      return part :: (← keyParts more)
    else return []

/-- A dotted key: the parts before the last, and the last. -/
def key : Scanner (List String × String) := do
  blanks
  let first ← keyPart
  blanks
  let parts := first :: (← keyParts (partLimit - 1))
  return (parts.dropLast, parts.getLastD first)

/-- The items of an array, after the bracket. The number bounds how many there are. -/
def arrayItems (item : Scanner Value) : Nat → Scanner (List Value)
  | 0 => failure
  | bound + 1 => do
    gaps
    if ← accept ']' then return []
    let value ← item
    gaps
    if ← accept ',' then return value :: (← arrayItems item bound)
    expect ']'
    return [value]

def assignment (value : Scanner Value) : Scanner Assignment := do
  let (path, key) ← key
  expect '='
  blanks
  return ⟨path, key, ← value⟩

/-- The assignments in braces, after the brace. The number bounds how many there are. -/
def braceItems (value : Scanner Value) : Nat → Scanner (List Assignment)
  | 0 => failure
  | bound + 1 => do
    let item ← assignment value
    blanks
    if ← accept ',' then return item :: (← braceItems value bound)
    expect '\x7d'
    return [item]

def braceTable (value : Scanner Value) : Scanner Value := do
  blanks
  if ← accept '\x7d' then return .table .inline []
  let items ← braceItems value ((← get).length + 1)
  let entries ← (Entries.putAll? items [] : Option Entries)
  return .table .inline entries

/-- A value; `item` reads the values inside it, if there may be any. -/
def valueOver (item : Option (Scanner Value)) : Scanner Value := do
  match ← peek? with
  | some '"' | some '\'' => return .string (← string)
  | some '[' =>
    let some item := item | failure
    expect '['
    return .array (← arrayItems item ((← get).length + 1))
  | some '\x7b' =>
    let some item := item | failure
    expect '\x7b'
    braceTable item
  | _ => literal

/-- A value in which arrays and tables stand inside each other so deep at most. -/
def value : Nat → Scanner Value
  | 0 => valueOver none
  | depth + 1 => valueOver (some (value depth))

def header : Scanner Header := do
  expect '['
  let element ← accept '['
  let (path, key) ← key
  expect ']'
  if element then expect ']'
  lineEnd
  return ⟨element, path, key⟩

/-- A line of a document that says something. -/
inductive Line where
  | assignment (item : Assignment)
  | header (header : Header)

/-- The lines of a document. The number bounds how many there are. -/
def lines : Nat → Scanner (List Line)
  | 0 => failure
  | bound + 1 => do
    blanks
    match ← peek? with
    | none => return []
    | some '\n' | some '#' =>
      lineEnd
      lines bound
    | some '[' =>
      let header ← header
      return .header header :: (← lines bound)
    | some _ =>
      let item ← assignment (value depthLimit)
      lineEnd
      return .assignment item :: (← lines bound)

end Scanner

/-- The assignments before the first header, and the blocks. -/
def groupLines : List Scanner.Line → List Assignment × List Block
  | [] => ([], [])
  | .assignment item :: rest =>
    let (items, blocks) := groupLines rest
    (item :: items, blocks)
  | .header header :: rest =>
    let (items, blocks) := groupLines rest
    ([], ⟨header, items⟩ :: blocks)

/-- A text without a mark of byte order at its beginning. -/
def withoutMark : List Char → List Char
  | '\uFEFF' :: rest => rest
  | text => text

def read? (text : String) : Option Entries := do
  let text ← unifyLineEnds (withoutMark text.toList)
  let (lines, _) ← Scanner.lines (text.length + 1) text
  let (assignments, blocks) := groupLines lines
  Entries.ofBlocks? assignments blocks

end TunnelServer.Toml
