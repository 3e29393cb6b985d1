import TunnelServer.Io.Error
import TunnelServer.Text.Split

/-! # Files

What is found under a path. A directory can be opened like a file, but not read. In a tree of
directories a path is followed name by name, and each name but the last has to be a directory's.
-/

namespace TunnelServer

inductive Opened where
  | file (bytes : List UInt8)
  | directory
deriving DecidableEq

def Opened.read : Opened → Except IoError (List UInt8)
  | .file bytes => .ok bytes
  | .directory => .error .directoryRead

/-- The files that can be seen. -/
structure FileSystem where
  openPath : String → Except IoError Opened

def nameLimit : Nat := 255

def pathLimit : Nat := 4095

/-- Directories and files by their place: the names that lead there from the root. -/
structure FileTree where
  entry : List String → Option Opened
  /-- The directory in which paths start that do not start at the root. -/
  working : List String

namespace FileTree

/-- One step of a path, from the place where the steps before it lead. The parent of the root is
the root. -/
def step (tree : FileTree) (place : List String) (name : String) :
    Except IoError (List String) :=
  match tree.entry place with
  | none => .error .missingFile
  | some (.file _) => .error .belowFile
  | some .directory =>
    if name = "" ∨ name = "." then .ok place
    else if name = ".." then .ok place.dropLast
    else if nameLimit < name.utf8ByteSize then .error .nameTooLong
    else if (tree.entry (place ++ [name])).isSome then .ok (place ++ [name])
    else .error .missingFile

def locate (tree : FileTree) (path : String) : Except IoError (List String) :=
  if '\x00' ∈ path.toList then .error .zeroByteInName
  else if path.isEmpty then .error .missingFile
  else if pathLimit < path.utf8ByteSize then .error .nameTooLong
  else
    let names := (Text.splitOn '/' path.toList).map String.ofList
    names.foldlM tree.step (if path.startsWith "/" then [] else tree.working)

def files (tree : FileTree) : FileSystem where
  openPath path := do
    match tree.entry (← tree.locate path) with
    | some opened => .ok opened
    | none => .error .missingFile

end FileTree

def FileSystem.readFile (files : FileSystem) (path : String) : Except IoError (List UInt8) := do
  (← files.openPath path).read

end TunnelServer
