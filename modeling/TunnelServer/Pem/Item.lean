import TunnelServer.Text.Base64
import TunnelServer.Text.Quoted
import TunnelServer.Text.Utf8

/-! # Files of keys and certificates

Such a file holds sections of base64 between lines that begin and end them. Lines end with a line
feed or a carriage return. Text outside sections means nothing, sections with an unknown label are
passed over, and a beginning inside a section starts another in its place, with the text so far. A
file is read from the front, so items before a fault are there all the same.
-/

namespace TunnelServer.Pem

inductive Kind where
  | certificate
  | publicKey
  | rsaPrivateKey
  | privateKey
  | ecPrivateKey
  | revocationList
  | certificateRequest
  | echConfig
deriving DecidableEq, Repr

namespace Kind

def all : List Kind :=
  [certificate, publicKey, rsaPrivateKey, privateKey, ecPrivateKey, revocationList,
    certificateRequest, echConfig]

def label : Kind → String
  | certificate => "CERTIFICATE"
  | publicKey => "PUBLIC KEY"
  | rsaPrivateKey => "RSA PRIVATE KEY"
  | privateKey => "PRIVATE KEY"
  | ecPrivateKey => "EC PRIVATE KEY"
  | revocationList => "X509 CRL"
  | certificateRequest => "CERTIFICATE REQUEST"
  | echConfig => "ECHCONFIG"

def ofLabel? (label : List UInt8) : Option Kind :=
  all.find? fun kind => Utf8.encode kind.label = label

end Kind

structure Item where
  kind : Kind
  bytes : List UInt8
deriving DecidableEq, Repr

/-- What can be wrong with a file. -/
inductive Fault where
  /-- The file ends inside a section. -/
  | unfinished (label : List UInt8)
  /-- A line that should begin a section does not end as it has to. -/
  | badStart (line : List UInt8)
  | badBase64
deriving DecidableEq

def Fault.message : Fault → String
  | .unfinished label => "section end " ++ Text.quote (Utf8.lenient label) ++ " missing"
  | .badStart line => "illegal section start: " ++ Text.quote (Utf8.lenient line)
  | .badBase64 => "base64"

/-- What was read from a file: the items up to the first fault, and the fault. -/
structure Contents where
  items : List Item
  fault : Option Fault
deriving DecidableEq

/-- The lines of a file, each with the line feed or carriage return at its end. The first argument
is the line so far, in reverse. -/
def linesFrom : List UInt8 → List UInt8 → List (List UInt8)
  | line, [] => if line.isEmpty then [] else [line.reverse]
  | line, c :: rest =>
    if c = 10 ∨ c = 13 then (c :: line).reverse :: linesFrom [] rest
    else linesFrom (c :: line) rest

def startMark : List UInt8 := Utf8.encode "-----BEGIN "

def endMark (label : List UInt8) : List UInt8 :=
  Utf8.encode "-----END " ++ label ++ Utf8.encode "-----"

/-- Counts dashes from the end of a line, passing over blanks and line ends. The line is given in
reverse; gives the count and what is left before the leftmost of them. -/
def dashesFrom : Nat → List UInt8 → List UInt8 → Nat × List UInt8
  | count, before, [] => (count, before)
  | count, before, c :: rest =>
    if c = 45 then dashesFrom (count + 1) rest rest
    else if c = 10 ∨ c = 13 ∨ c = 32 then dashesFrom count before rest
    else (count, before)

/-- The label of a line that begins a section, which has to end with exactly five dashes. -/
def startLabel? (line : List UInt8) : Option (List UInt8) :=
  let (count, before) := dashesFrom 0 line.reverse line.reverse
  if count = 5 then some (before.reverse.drop startMark.length) else none

/-- Reads lines. The first argument is the label of the section that is open, the second the lines
in it, the last first. -/
def readLines : Option (List UInt8) → List (List UInt8) → List (List UInt8) → Contents
  | some label, _, [] => ⟨[], some (.unfinished label)⟩
  | none, _, [] => ⟨[], none⟩
  | current, body, line :: rest =>
    if startMark.isPrefixOf line then
      match startLabel? line with
      | none => ⟨[], some (.badStart line)⟩
      | some label => readLines (some label) body rest
    else
      match current with
      | none => readLines none body rest
      | some label =>
        if (endMark label).isPrefixOf line then
          match Kind.ofLabel? label with
          | none => readLines none [] rest
          | some kind =>
            match Base64.decode? body.reverse.flatten with
            | none => ⟨[], some .badBase64⟩
            | some bytes =>
              let later := readLines none [] rest
              { later with items := ⟨kind, bytes⟩ :: later.items }
        else readLines current (line :: body) rest

def read (file : List UInt8) : Contents := readLines none [] (linesFrom [] file)

end TunnelServer.Pem
