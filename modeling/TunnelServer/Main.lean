import TunnelServer.CommandLine.Startup

/-! # The program

Reads the files that the command line and the configuration name, and shows what a run of the
program shows.
-/

namespace TunnelServer

/-- A failure of the system, in the words of this library. -/
private def ioErrorOf : IO.Error → IoError
  | .noFileOrDirectory .. => .missingFile
  | .inappropriateType .. => .directoryRead
  | .permissionDenied .. => .ofSystem .permissionDenied "Permission denied" 13
  | error => .because .other (toString error)

/-- Opens a path. A directory is noticed only when it is read. -/
private def openFile (path : String) : IO (Except IoError Opened) := do
  try
    return .ok (.file (← IO.FS.readBinFile path).toList)
  catch error =>
    match ioErrorOf error with
    | ⟨.isADirectory, _, _⟩ => return .ok .directory
    | cause => return .error cause

/-- The files under some paths; nothing else is seen. -/
private def filesAt (paths : List String) : IO FileSystem := do
  let opened ← paths.mapM fun path => do return (path, ← openFile path)
  return ⟨fun path => (opened.lookup path).getD (.error .missingFile)⟩

private def filesFor (arguments : CommandLine.Arguments) : IO FileSystem := do
  let named := arguments.config.toList
  match arguments.effectiveConfig (← filesAt named) with
  | .error _ => filesAt named
  | .ok config => filesAt (named ++ [config.server.cert, config.server.privateKey])

/-- The machine that the program runs on: it can listen on any address of its own. -/
private def localMachine : Machine := { Machine.isolated with owns _ := true }

end TunnelServer

open TunnelServer in
def main (commandLine : List String) : IO UInt32 := do
  let files ← match CommandLine.Arguments.read commandLine with
    | .ok arguments => filesFor arguments
    | .error _ => filesAt []
  let outcome := CommandLine.run ⟨files, localMachine⟩ commandLine
  for line in outcome.output do IO.println line
  IO.eprint outcome.errors
  return UInt32.ofNat outcome.code
