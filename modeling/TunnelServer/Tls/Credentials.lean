import TunnelServer.Io.File
import TunnelServer.Log
import TunnelServer.Pem.Item

/-! # Certificates and private keys

A certificate chain is every certificate of a file, and there has to be one at least; the private
key is the first in its file. A chain is loaded as a whole or not at all, while what follows a key
does not matter.
-/

namespace TunnelServer.Tls

inductive KeyFormat where
  | pkcs1
  | sec1
  | pkcs8
deriving DecidableEq, Repr

structure PrivateKey where
  format : KeyFormat
  bytes : List UInt8
deriving DecidableEq, Repr

/-- Why secure connections cannot be set up. -/
inductive SetupError where
  /-- Something is wrong with a file. -/
  | certificate (text : String)
  /-- Something is wrong with what the files hold. -/
  | tls (text : String)
deriving DecidableEq

def SetupError.message : SetupError → String
  | .certificate text => "Certificate error: " ++ text
  | .tls text => "TLS error: " ++ text

/-- The certificates among the items of a file, unless there is a fault anywhere in it. -/
def certificates (contents : Pem.Contents) : Except Pem.Fault (List (List UInt8)) :=
  match contents.fault with
  | some fault => .error fault
  | none => .ok ((contents.items.filter (·.kind = .certificate)).map (·.bytes))

def keyOfItem? (item : Pem.Item) : Option PrivateKey :=
  match item.kind with
  | .rsaPrivateKey => some ⟨.pkcs1, item.bytes⟩
  | .ecPrivateKey => some ⟨.sec1, item.bytes⟩
  | .privateKey => some ⟨.pkcs8, item.bytes⟩
  | _ => none

/-- The first private key of a file. Only a fault before it matters. -/
def firstKey (contents : Pem.Contents) : Except Pem.Fault (Option PrivateKey) :=
  match contents.items.findSome? keyOfItem?, contents.fault with
  | some key, _ => .ok (some key)
  | none, some fault => .error fault
  | none, none => .ok none

/-- Opens a file and reads the sections in it; `role` names the file and `content` what it should
hold. -/
def readSections (files : FileSystem) (role content path : String) :
    Except SetupError Pem.Contents :=
  match files.openPath path with
  | .error cause =>
    .error (.certificate
      ("Failed to open " ++ role ++ " file " ++ path ++ ": " ++ cause.message))
  | .ok opened =>
    match opened.read with
    | .error cause =>
      .error (.certificate ("Failed to parse PEM " ++ content ++ ": " ++ cause.message))
    | .ok bytes => .ok (Pem.read bytes)

def loadChain (files : FileSystem) (path : String) : Except SetupError (List (List UInt8)) := do
  let contents ← readSections files "cert" "certificates" path
  match certificates contents with
  | .error fault =>
    .error (.certificate ("Failed to parse PEM certificates: " ++ fault.message))
  | .ok [] => .error (.certificate ("No certificates found in " ++ path))
  | .ok chain => .ok chain

def chainLoaded (chain : List (List UInt8)) (path : String) : LogLine :=
  ⟨.info, "Loaded " ++ toString chain.length ++ " certificate(s) from " ++ path⟩

def loadKey (files : FileSystem) (path : String) : Except SetupError PrivateKey := do
  let contents ← readSections files "key" "private key" path
  match firstKey contents with
  | .error fault =>
    .error (.certificate ("Failed to parse PEM private key: " ++ fault.message))
  | .ok none => .error (.certificate ("No private key found in " ++ path))
  | .ok (some key) => .ok key

end TunnelServer.Tls
