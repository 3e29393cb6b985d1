/-! # Failures of input and output

An `IoError` pairs the class of a failure with the text shown for it. A failure that comes from a
scripted stream is described by its class alone; one that comes from the operating system carries
the system's own wording and number.
-/

namespace TunnelServer

/-- The classes of input and output failure. -/
inductive IoErrorKind where
  | addressInUse
  | addressNotAvailable
  | alreadyExists
  | brokenPipe
  | connectionAborted
  | connectionRefused
  | connectionReset
  | hostUnreachable
  | interrupted
  | invalidData
  | invalidFilename
  | invalidInput
  | isADirectory
  | networkUnreachable
  | notADirectory
  | notConnected
  | notFound
  | other
  | outOfMemory
  | permissionDenied
  | timedOut
  | uncategorized
  | unexpectedEof
  | unsupported
  | wouldBlock
  | writeZero
deriving DecidableEq, Repr, Inhabited

/-- The general wording for a class of failure, used where nothing more is known. -/
def IoErrorKind.description : IoErrorKind → String
  | .addressInUse => "address in use"
  | .addressNotAvailable => "address not available"
  | .alreadyExists => "entity already exists"
  | .brokenPipe => "broken pipe"
  | .connectionAborted => "connection aborted"
  | .connectionRefused => "connection refused"
  | .connectionReset => "connection reset"
  | .hostUnreachable => "host unreachable"
  | .interrupted => "operation interrupted"
  | .invalidData => "invalid data"
  | .invalidFilename => "invalid filename"
  | .invalidInput => "invalid input parameter"
  | .isADirectory => "is a directory"
  | .networkUnreachable => "network unreachable"
  | .notADirectory => "not a directory"
  | .notConnected => "not connected"
  | .notFound => "entity not found"
  | .other => "other error"
  | .outOfMemory => "out of memory"
  | .permissionDenied => "permission denied"
  | .timedOut => "timed out"
  | .uncategorized => "uncategorized error"
  | .unexpectedEof => "unexpected end of file"
  | .unsupported => "unsupported"
  | .wouldBlock => "operation would block"
  | .writeZero => "write zero"

/-- A failure of input or output: its class, what is said about it, and the number under which the
operating system reported it, if it did. -/
structure IoError where
  kind : IoErrorKind
  text : String
  code : Option Nat
deriving DecidableEq, Repr

namespace IoError

/-- The text shown for a failure, with the system's number behind it. -/
def message (error : IoError) : String :=
  match error.code with
  | some code => error.text ++ " (os error " ++ toString code ++ ")"
  | none => error.text

def because (kind : IoErrorKind) (text : String) : IoError := ⟨kind, text, none⟩

def ofKind (kind : IoErrorKind) : IoError := because kind kind.description

/-- A failure reported by the operating system under the number `code`. -/
def ofSystem (kind : IoErrorKind) (text : String) (code : Nat) : IoError :=
  ⟨kind, text, some code⟩

/-- The stream ended inside a block whose length was fixed beforehand. -/
def earlyEnd : IoError := because .unexpectedEof "early eof"

/-- The stream ended inside a number or a skipped string. -/
def unexpectedEnd : IoError := ofKind .unexpectedEof

def missingFile : IoError := ofSystem .notFound "No such file or directory" 2

/-- A directory was given where the bytes of a file are wanted. -/
def directoryRead : IoError := ofSystem .isADirectory "Is a directory" 21

/-- A path goes on below a name that is no directory. -/
def belowFile : IoError := ofSystem .notADirectory "Not a directory" 20

def nameTooLong : IoError := ofSystem .invalidFilename "File name too long" 36

/-- The bytes of a file are no text. -/
def notText : IoError := because .invalidData "stream did not contain valid UTF-8"

def addressNotAssigned : IoError :=
  ofSystem .addressNotAvailable "Cannot assign requested address" 99

def noRoute : IoError := ofSystem .networkUnreachable "Network is unreachable" 101

def lookupFailed (reason : String) : IoError :=
  because .uncategorized ("failed to lookup address information: " ++ reason)

def nameNotKnown : IoError := lookupFailed "Name or service not known"

/-- Nobody could be asked for the name. -/
def nameServiceDown : IoError := lookupFailed "Temporary failure in name resolution"

/-- A name handed to the system holds a zero byte. -/
def zeroByteInName : IoError :=
  because .invalidInput "file name contained an unexpected NUL byte"

end IoError

end TunnelServer
