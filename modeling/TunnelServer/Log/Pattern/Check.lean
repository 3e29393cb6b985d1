import TunnelServer.Log.Pattern.Class
import TunnelServer.Text.LetterOrNumber

/-! # Checking patterns

A pattern lists what has to follow one another, with alternatives, groups and repetitions. It is
checked before it is used. A pattern holds neither closing braces nor commas, so a repetition with a
count cannot be completed.
-/

namespace TunnelServer.Log.Pattern

/-! ## Groups -/

/-- A character in the name of a group, which does not begin with a digit. -/
def isGroupName (first : Bool) (c : Char) : Bool :=
  if first then c = '_' || (Text.isLetterOrNumber c && !c.isDigit)
  else c = '_' || c = '.' || c = '[' || c = ']' || Text.isLetterOrNumber c

/-- Passes over the name of a group that began at a place. -/
def skipGroupName (start : Nat) : Nat → Reader Unit
  | 0 => return ()
  | bound + 1 => do
    match ← peek? with
    | none | some '>' => return ()
    | some c =>
      let place ← here
      if isGroupName (place = start) c then
        skip 1
        skipGroupName start bound
      else failAt .nameInvalid place (place + 1)

def groupName : Reader Unit := do
  let before ← get
  let start := before.place
  skipGroupName start before.rest.length
  let last ← here
  if ← atEnd then failAt .nameIncomplete last last
  if last = start then failAt .nameEmpty start start
  skip 1
  let name := before.rest.take (last - start)
  match before.names.lookup name with
  | some earlier => throw ⟨.nameRepeated, ⟨start, last⟩, some earlier⟩
  | none => modify fun state => { state with names := (name, ⟨start, last⟩) :: state.names }

/-- A change of flags: each is a letter, and a hyphen negates those behind it. -/
abbrev FlagItems := List (Char × Span)

def flagState (letter : Char) : Bool → FlagItems → Option Bool
  | _, [] => none
  | value, (c, _) :: rest =>
    if c = '-' then flagState letter false rest
    else if c = letter then some value
    else flagState letter value rest

def Flags.changed (flags : Flags) (items : FlagItems) : Flags where
  spaced := (flagState 'x' true items).getD flags.spaced
  folded := (flagState 'i' true items).getD flags.folded
  unicode := (flagState 'u' true items).getD flags.unicode

/-- Reads a change of flags, up to a colon or a closing parenthesis. -/
def readFlags : Nat → FlagItems → Reader FlagItems
  | 0, items => return items
  | bound + 1, items => do
    let place ← here
    let span : Span := ⟨place, place + 1⟩
    match ← peek? with
    | none => failAt .flagsIncomplete place place
    | some c =>
      if c = ':' ∨ c = ')' then
        match items.getLast? with
        | some ('-', dangling) => failAt .negationDangling dangling.first dangling.last
        | _ => return items
      else if c ∉ "-imsUuRx".toList then failAt .flagUnknown span.first span.last
      else
        match items.lookup c with
        | some earlier =>
          throw ⟨if c = '-' then .negationRepeated else .flagRepeated, span, some earlier⟩
        | none =>
          skip 1
          readFlags bound (items ++ [(c, span)])

def enterGroup (start : Nat) (flags : Flags) : Reader Unit := modify fun state =>
  { state with groups := ⟨start, state.flags⟩ :: state.groups, flags, last := .nothing }

/-- Reads the beginning of a group, or a change of flags that is no group. -/
def openGroup : Reader Unit := do
  let start ← here
  step
  let inner ← here
  let flags := (← get).flags
  for ahead in ["?=", "?!", "?<=", "?<!"] do
    if ← startsWith ahead.toList then failAt .lookAround start (inner + ahead.length)
  if ← startsWith "?P<".toList then
    skip 3
    groupName
    enterGroup start flags
  else if ← startsWith "?<".toList then
    skip 2
    groupName
    enterGroup start flags
  else if ← startsWith "?".toList then
    skip 1
    if ← atEnd then failAt .groupUnclosed start (start + 1)
    let items ← readFlags ((← get).rest.length + 1) []
    let closing ← peek?
    skip 1
    if closing = some ':' then enterGroup start (flags.changed items)
    else if items.isEmpty then failAt .repetitionMissing inner inner
    else
      modify fun state => { state with flags := state.flags.changed items, last := .flags }
  else enterGroup start flags

def closeGroup : Reader Unit := do
  let state ← get
  match state.groups with
  | [] => failAt .groupUnopened state.place (state.place + 1)
  | group :: groups =>
    skip 1
    modify fun state => { state with groups, flags := group.flags, last := .item }

/-! ## Repetitions -/

def needItem : Reader Unit := do
  let state ← get
  if state.last ≠ .item then failAt .repetitionMissing state.place state.place

/-- Reads a repetition without a count, perhaps with a sign to keep it short. -/
def repetition : Reader Unit := do
  needItem
  skip 1
  if (← peek?) = some '?' then skip 1

def readCount : Nat → List Char → Reader (List Char)
  | 0, digits => return digits
  | bound + 1, digits => do
    match ← peek? with
    | some c =>
      if c.isDigit then
        step
        readCount bound (digits ++ [c])
      else return digits
    | none => return digits

def skipWhite : Reader Unit := do
  skip ((← get).rest.takeWhile Text.isWhite).length

/-- Reads a repetition with a count, which has no end. -/
def countedRepetition : Reader Unit := do
  needItem
  let start ← here
  step
  if ← atEnd then failAt .countUnclosed start (← here)
  skipWhite
  let first ← here
  let digits ← readCount (← get).rest.length []
  let last ← here
  skipWhite
  skipGap
  if ← atEnd then failAt .countUnclosed start (← here)
  match Numeral.read? 10 digits with
  | none => failAt .countEmpty first last
  | some count =>
    if UInt32.size ≤ count then failAt .decimalInvalid first last
    else failAt .countUnclosed start (← here)

/-! ## Whole patterns -/

def readAtom (c : Char) : Reader Unit := do
  let place ← here
  setLast .item
  if c = '\\' then
    let (atom, span) ← escape
    examine false atom span
  else
    skip 1
    let span : Span := ⟨place, place + 1⟩
    if c = '.' then
      if !(← get).flags.unicode then keepDoubt .invalidUtf8 span
    else if c = '^' ∨ c = '$' then return ()
    else examine false (.literal c.toNat false) span

/-- Reads on to the end. The number bounds the steps. -/
def readItems : Nat → Reader Unit
  | 0 => return ()
  | bound + 1 => do
    skipGap
    match ← peek? with
    | none => return ()
    | some c =>
      if c = '(' then openGroup
      else if c = ')' then closeGroup
      else if c = '|' then
        skip 1
        setLast .nothing
      else if c = '[' then
        readClass
        setLast .item
      else if c = '?' ∨ c = '*' ∨ c = '+' then repetition
      else if c = '\x7b' then countedRepetition
      else readAtom c
      readItems bound

def readAll : Reader Unit := do
  readItems (← get).rest.length
  let state ← get
  match state.groups with
  | group :: _ => failAt .groupUnclosed group.start (group.start + 1)
  | [] =>
    match state.doubt with
    | some fault => throw fault
    | none => return ()

/-- Why a pattern cannot be used, the outermost reason first. -/
def faults (text : List Char) : List String :=
  match readAll.run (.start text) with
  | .error fault => ["error building NFA", "error parsing regex", fault.report text]
  | .ok (_, state) =>
    if state.boundary then ["error building NFA", "NFA contains Unicode word boundary"] else []

end TunnelServer.Log.Pattern
