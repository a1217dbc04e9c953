import LineShell.Edit.Listing
import LineShell.Edit.Session
import LineShell.System.Subprocess

/-!
# Running an editing script

- **`Work.perform?`** does what one step says.
- **`Work.cycle`** runs the script on the line.
- **`edit`** runs it on all lines.
-/

namespace LineShell.Edit

open Utility

/-- How the script goes on behind a step. -/
inductive Flow where
  /-- With the next step. -/
  | onward
  /-- With another step. -/
  | jump (index : Nat)
  /-- With the next line, after this one has been written, if lines are written. -/
  | next
  /-- With the next line. -/
  | drop
  /-- Not at all: the editing ends with a code. -/
  | stop (code : Nat)
  deriving DecidableEq, Repr, Inhabited

namespace Space

/-- The part up to the first delimiter. -/
def first (delimiter : UInt8) (space : Space) : Space :=
  let bytes := space.bytes.takeWhile (· != delimiter)
  ⟨bytes, space.ended || bytes.length < space.bytes.length⟩

/-- One line and another one behind it. -/
def join (delimiter : UInt8) (one other : Space) : Space :=
  ⟨one.bytes ++ delimiter :: other.bytes, other.ended⟩

end Space

namespace Work

/-- The line. -/
def space : Work Space := do return (← get).space

/-- The line has changed. -/
def setSpace (space : Space) : Work Unit := modify fun session => { session with space := space }

/-- What the line holds has changed. -/
def setBytes (bytes : Bytes) : Work Unit :=
  modify fun session => { session with space := { session.space with bytes := bytes } }

/-- The regular expression that is meant, which will have been used last. -/
def meant (pattern : Pattern) : Work Regex.Program := do
  match pattern.or (← get).used with
  | none => refuse .nothingBefore
  | some program =>
      modify fun session => { session with used := some program }
      return program

/-- An address holds of the line. -/
def holds (address : Address) : Work Bool := do
  let session ← get
  match address with
  | .line number => return session.input.number == number
  | .every first step =>
      return first ≤ session.input.number && (session.input.number - first) % step == 0
  | .last => isLast
  | .matching pattern =>
      let program ← meant pattern
      return program.isMatched { bytes := session.space.bytes.toArray }

/-- The line is picked by the step with an index. -/
def picks (index : Nat) (step : Step) : Work Bool := do
  let session ← get
  let phase := session.phases.getD index .waiting
  let (picked, phase) ← step.selector.picks holds session.input.number phase
  modify fun session => { session with phases := session.phases.setIfInBounds index phase }
  return picked != step.others

/-- Writes the line, if lines are written. -/
def putLine : Work Unit := do
  if !(← get).settings.silent then putSpace .main (← space)

/-- What the line gives when it is run as a command. -/
def runSpace : Work Unit := do
  flush .main
  let delimiter ← delimiter
  let written ← perform (Prog.outputOf (← space).bytes)
  setBytes (withoutDelimiter delimiter written)

/-- Replaces matches in the line. -/
def substitute (substitution : Substitution) : Work Unit := do
  let program ← meant substitution.pattern
  let groups := Piece.greatestGroup substitution.replacement
  if program.groups < groups then refuse (.unknownGroup groups)
  match substitution.replaced? program (← space).bytes with
  | none => return ()
  | some bytes =>
      setBytes bytes
      modify fun session => { session with replaced := true }
      if substitution.showing == .early then putSpace .main (← space)
      if substitution.runs then runSpace
      if substitution.showing == .late then putSpace .main (← space)
      match substitution.output with
      | some path => putSpace (.file path) (← space)
      | none => return ()

/-- The step at which a label stands, or the one behind the last one. -/
def target (label : Bytes) : Work Flow := do
  let script := (← get).script
  let last := script.steps.size
  return .jump (if label.isEmpty then last else (script.labels.lookup label).getD last)

/-- Remembers something to be written behind the line. -/
def add (addition : Addition) : Work Unit :=
  modify fun session => { session with additions := addition :: session.additions }

/-- Goes on with the next line or ends. -/
def nextOr (join : Space → Space → Space) : Work Flow := do
  if ← nextSpace join then return .onward
  return .drop

/-- Does what a step says, given whether it is the last one of its range. -/
def perform? (isRangeEnd : Bool) : Command → Work Flow
  | .openBlock _ | .nothing => return .onward
  | .append text => do
      add (.text text)
      return .onward
  | .insert text => do
      putBehind .main text
      return .onward
  | .change text => do
      if isRangeEnd then putBehind .main text
      return .drop
  | .branch condition label => do
      let replaced := (← get).replaced
      let taken := match condition with
        | .always => true
        | .replaced => replaced
        | .untouched => !replaced
      if condition ≠ .always then modify fun session => { session with replaced := false }
      if taken then target label else return .onward
  | .delete => return .drop
  | .deleteFirst => do
      let delimiter ← delimiter
      let space ← space
      let first := (space.first delimiter).bytes
      if first.length = space.bytes.length then return .drop
      setBytes (space.bytes.drop (first.length + 1))
      return .jump 0
  | .run none => do
      runSpace
      return .onward
  | .run (some command) => do
      flush .main
      let written ← perform (Prog.outputOf command)
      putBehind .main written
      return .onward
  | .fileName => do
      putBehind .main ((← get).input.name ++ [← delimiter])
      return .onward
  | .recall => do
      setSpace (← get).hold
      return .onward
  | .recallBehind => do
      setSpace (.join (← delimiter) (← space) (← get).hold)
      return .onward
  | .keep => do
      modify fun session => { session with hold := session.space }
      return .onward
  | .keepBehind => do
      let delimiter ← delimiter
      modify fun session => { session with hold := .join delimiter session.hold session.space }
      return .onward
  | .exchange => do
      modify fun session => { session with space := session.hold, hold := session.space }
      return .onward
  | .list width => do
      let width := width.getD (← get).settings.width
      putBehind .main (Listing.list width (← delimiter) (← space).bytes)
      return .onward
  | .next => do
      if ← isLast then return .next
      putLine
      nextOr fun _ next => next
  | .nextBehind => do
      if ← isLast then return .next
      nextOr (.join (← delimiter))
  | .print => do
      putSpace .main (← space)
      return .onward
  | .printFirst => do
      putSpace .main ((← space).first (← delimiter))
      return .onward
  | .quit code => do
      putLine
      complete .main
      putAdditions
      return .stop code
  | .quitSilently code => return .stop code
  | .readFile path => do
      add (.file path)
      return .onward
  | .readLine path => do
      match ← nextReading path with
      | some line => add (.text line)
      | none => pure ()
      return .onward
  | .substitute substitution => do
      Work.substitute substitution
      return .onward
  | .write path => do
      putSpace (.file path) (← space)
      return .onward
  | .writeFirst path => do
      putSpace (.file path) ((← space).first (← delimiter))
      return .onward
  | .translate table => do
      setBytes ((← space).bytes.map fun b => (table.lookup b).getD b)
      return .onward
  | .number => do
      putBehind .main (Text.decimal (← get).input.number ++ [← delimiter])
      return .onward
  | .clear => do
      setBytes []
      return .onward

/-- Runs the step with an index, behind the last of which the line has been edited. -/
def step (index : Nat) : Work Flow := do
  match (← get).script.steps[index]? with
  | none => return .next
  | some step =>
      if ← picks index step then
        let isRangeEnd := match (← get).phases.getD index .waiting with
          | .going _ => false
          | _ => true
        perform? isRangeEnd step.command
      else match step.command with
        | .openBlock stop => return .jump stop
        | _ => return .onward

/-- Runs the script on the line, and tells the code with which the editing ends, if it does. -/
def cycle : Work (Option Nat) :=
  iterate (fun index => do
    match ← step index with
    | .onward => return .inl (index + 1)
    | .jump index => return .inl index
    | .next =>
        putLine
        return .inr none
    | .drop => return .inr none
    | .stop code => return .inr (some code)) 0

/-- Runs the script on all lines. -/
def editAll : Work Nat := do
  let code ← iterate (fun () => do
    if ← nextSpace fun _ next => next then
      match ← cycle with
      | none => return .inl ()
      | some code => return .inr code
    else return .inr 0) ()
  closeSuccessor
  return code

end Work

/-- Runs a script on files and gives the exit code. What was read too early is given back. -/
def edit (session : Session) : Prog Int := do
  let (result, session) ← (ExceptT.run Work.editAll).run session
  match session.input.reader with
  | some reader => reader.giveBack
  | none => pure ()
  let flushed ← session.stdout.flush
  let refuse (what : String) (errno : Errno) : Prog Int := do
    complain session.settings.name (text what ++ session.stdout.name ++ text ": " ++ reason errno)
    return Work.panicCode
  match result, flushed, ← Prog.call (.kind Fd.stdout) with
  | .error code, _, _ => return code
  | .ok _, .error errno, _ => refuse "couldn't flush " errno
  | .ok _, .ok _, .error errno => refuse "couldn't close " errno
  | .ok code, .ok _, .ok _ => return if session.input.failed then 2 else code

end LineShell.Edit
