import TunnelServer.CommandLine.Switch
import TunnelServer.Text.Numeral
import TunnelServer.Text.Terminal

/-! # Arguments

The command line is read from the front. A value may be attached to its switch or be the next
argument. A value is only looked at once the next switch, or the end, shows that it is complete, so
an argument that means nothing is reported before a bad value right in front of it.
-/

namespace TunnelServer.CommandLine

/-- What was given on the command line. -/
structure Arguments where
  config : Option String
  generateConfig : Bool
  password : Option String
  serverPort : Option UInt16
  cert : Option String
  privateKey : Option String
  debug : Bool
  sendBuffer : Option UInt32
  recvBuffer : Option UInt32
  logLevel : Option String
deriving DecidableEq, Repr

def Arguments.blank : Arguments :=
  ⟨none, false, none, none, none, none, false, none, none, none⟩

/-- Why a text is not a number that is wanted. -/
inductive NumberFault where
  | empty
  | digit
  | tooLarge
  | tooSmall
  /-- It is a number, but not from zero up to a greatest value. -/
  | outside (value : Int) (greatest : Nat)
deriving DecidableEq, Repr

def NumberFault.message : NumberFault → String
  | .empty => "cannot parse integer from empty string"
  | .digit => "invalid digit found in string"
  | .tooLarge => "number too large to fit in target type"
  | .tooSmall => "number too small to fit in target type"
  | .outside value greatest =>
    toString value ++ " is not in 0..=" ++ toString greatest

/-- What is wrong with a command line. -/
inductive UsageError where
  | unknownArgument (text : String)
  | unwantedValue (value : String) (switch : Switch)
  | valueMissing (switch : Switch)
  | repeated (switch : Switch)
  | badNumber (value : String) (switch : Switch) (fault : NumberFault)
deriving DecidableEq

/-- The text shown for a fault. What was given is highlighted. -/
def UsageError.message : UsageError → String
  | .unknownArgument text => "unexpected argument '" ++ Terminal.highlight text ++ "' found"
  | .unwantedValue value switch =>
    "unexpected value '" ++ Terminal.highlight value ++ "' for '" ++ switch.render ++
      "' found; no more were expected"
  | .valueMissing switch =>
    "a value is required for '" ++ switch.render ++ "' but none was supplied"
  | .repeated switch =>
    "the argument '" ++ switch.render ++ "' cannot be used multiple times"
  | .badNumber value switch fault =>
    "invalid value '" ++ Terminal.highlight value ++ "' for '" ++ switch.render ++ "': " ++
      fault.message

/-- Why reading stops before the end. -/
inductive Halt where
  | usage (error : UsageError)
  | help
  | version
deriving DecidableEq

/-! ## Numbers -/

/-- The least and the greatest number that is taken in at all. -/
def wordLimit : Int := 0x8000000000000000

def readDigits (negative : Bool) : Int → List Char → Except NumberFault Int
  | value, [] => .ok value
  | value, c :: rest =>
    match Numeral.digitValue? 10 c with
    | none => .error .digit
    | some digit =>
      let next := if negative then value * 10 - digit else value * 10 + digit
      if next < -wordLimit then .error .tooSmall
      else if wordLimit ≤ next then .error .tooLarge
      else readDigits negative next rest

def readWhole (text : List Char) : Except NumberFault Int :=
  match text with
  | [] => .error .empty
  | ['+'] | ['-'] => .error .digit
  | '+' :: digits => readDigits false 0 digits
  | '-' :: digits => readDigits true 0 digits
  | digits => readDigits false 0 digits

def readUpTo (greatest : Nat) (text : String) : Except NumberFault Nat := do
  let value ← readWhole text.toList
  if 0 ≤ value ∧ value ≤ greatest then return value.toNat
  else throw (.outside value greatest)

/-! ## The state of reading -/

/-- A switch whose value is not complete: what has been seen of it. -/
structure Pending where
  switch : Switch
  value : Option String
deriving DecidableEq

structure Progress where
  arguments : Arguments
  seen : List Switch
  pending : Option Pending
  /-- Whether two dashes have ended the switches. -/
  ended : Bool

def Progress.start : Progress := ⟨.blank, [], none, false⟩

def readPath (switch : Switch) (value : String) : Except UsageError String :=
  if value.isEmpty then .error (.valueMissing switch) else .ok value

def readNumber (switch : Switch) (greatest : Nat) (value : String) :
    Except UsageError Nat :=
  (readUpTo greatest value).mapError (.badNumber value switch)

def Arguments.assign (arguments : Arguments) (switch : Switch) (value : String) :
    Except UsageError Arguments :=
  match switch with
  | .config => do return { arguments with config := some (← readPath switch value) }
  | .password => .ok { arguments with password := some value }
  | .serverPort => do
    let port ← readNumber switch 65535 value
    return { arguments with serverPort := some (UInt16.ofNat port) }
  | .cert => do return { arguments with cert := some (← readPath switch value) }
  | .privateKey => do return { arguments with privateKey := some (← readPath switch value) }
  | .sendBuffer => do
    let size ← readNumber switch 4294967295 value
    return { arguments with sendBuffer := some (UInt32.ofNat size) }
  | .recvBuffer => do
    let size ← readNumber switch 4294967295 value
    return { arguments with recvBuffer := some (UInt32.ofNat size) }
  | .logLevel => .ok { arguments with logLevel := some value }
  | .generateConfig => .ok { arguments with generateConfig := true }
  | .debug => .ok { arguments with debug := true }
  | .help | .version => .ok arguments

namespace Progress

/-- Takes in a switch with its value, which may be given once. -/
def take (progress : Progress) (switch : Switch) (value : String) : Except Halt Progress :=
  if switch ∈ progress.seen then .error (.usage (.repeated switch))
  else
    match progress.arguments.assign switch value with
    | .error error => .error (.usage error)
    | .ok arguments =>
      .ok { progress with arguments, seen := switch :: progress.seen }

def settle (progress : Progress) : Except Halt Progress :=
  match progress.pending with
  | none => .ok progress
  | some ⟨switch, none⟩ => .error (.usage (.valueMissing switch))
  | some ⟨switch, some value⟩ => { progress with pending := none }.take switch value

def meetFlag (progress : Progress) (switch : Switch) : Except Halt Progress := do
  let progress ← progress.settle
  match switch with
  | .help => throw .help
  | .version => throw .version
  | switch => progress.take switch ""

/-- Meets a switch that takes a value, which may be attached. -/
def meetOption (progress : Progress) (switch : Switch) (attached : Option String) :
    Except Halt Progress := do
  let progress ← progress.settle
  match attached with
  | some value => progress.take switch value
  | none => return { progress with pending := some ⟨switch, none⟩ }

def meetLong (progress : Progress) (text : List Char) : Except Halt Progress :=
  let name := text.takeWhile (· ≠ '=')
  let attached := match text.dropWhile (· ≠ '=') with
    | [] => none
    | _ :: value => some (String.ofList value)
  match Switch.ofLongName? name, attached with
  | none, _ => .error (.usage (.unknownArgument ("--" ++ String.ofList name)))
  | some switch, attached =>
    if switch.takesValue then progress.meetOption switch attached
    else
      match attached with
      | some value => .error (.usage (.unwantedValue value switch))
      | none => progress.meetFlag switch

/-- A value attached to a letter; a sign of equality before it does not belong to it. -/
def attachedValue? : List Char → Option String
  | [] => none
  | '=' :: value => some (String.ofList value)
  | value => some (String.ofList value)

def meetLetters (progress : Progress) : List Char → Except Halt Progress
  | [] => .ok progress
  | letter :: rest =>
    match Switch.ofLetter? letter with
    | none => .error (.usage (.unknownArgument (String.ofList ['-', letter])))
    | some switch =>
      if switch.takesValue then progress.meetOption switch (attachedValue? rest)
      else do (← progress.meetFlag switch).meetLetters rest

def meetPlain (progress : Progress) (text : String) : Except Halt Progress :=
  match progress.pending with
  | some ⟨switch, none⟩ => .ok { progress with pending := some ⟨switch, some text⟩ }
  | _ => .error (.usage (.unknownArgument text))

def meet (progress : Progress) (argument : String) : Except Halt Progress :=
  if progress.ended then .error (.usage (.unknownArgument argument))
  else
    match argument.toList with
    | ['-', '-'] => .ok { progress with ended := true }
    | '-' :: '-' :: text => progress.meetLong text
    | '-' :: letter :: rest => progress.meetLetters (letter :: rest)
    | _ => progress.meetPlain argument

end Progress

def Arguments.read (arguments : List String) : Except Halt Arguments := do
  let progress ← arguments.foldlM Progress.meet .start
  return (← progress.settle).arguments

end TunnelServer.CommandLine
