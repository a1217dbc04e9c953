import LineShell.Script.State

/-!
# What a script does

- **`Activity`** is something a script does, with what it knows at hand.
- **`fail`** ends it with a complaint.
- **`startTask`** starts processes for it, and **`finishTask`** waits for them.
-/

namespace LineShell.Script

/-- Why a script stops. -/
inductive Stop where
  /-- It has been told to stop with the code that was saved. -/
  | exits
  /-- It has come to an end. -/
  | ends
  /-- Something is wrong. -/
  | fails
  deriving DecidableEq, Repr, Inhabited

/-- Something a script does. -/
abbrev Activity (α : Type) := ExceptT Stop (StateT Knowledge Prog) α

/-- How a command is run. -/
structure Manner where
  /-- Somebody looks whether it fails. -/
  tested : Bool := false
  /-- Nothing comes behind it. -/
  last : Bool := false
  deriving DecidableEq, Repr, Inhabited

/-- What runs commands; it gives their exit codes. -/
abbrev Runner := Command → Manner → Activity Int

namespace Activity

/-- Repeats a body until it comes to a value. -/
def iterate {σ α : Type} (body : σ → Activity (σ ⊕ α)) (state : σ) : Activity α :=
  ExceptT.mk fun known =>
    Prog.loop (fun (state, known) => do
      match ← (body state).run.run known with
      | (.ok (.inl state), known) => return .inl (state, known)
      | (.ok (.inr value), known) => return .inr (.ok value, known)
      | (.error stop, known) => return .inr (.error stop, known)) (state, known) .pure

/-- Does something and tells how it came out. -/
def attempt {α : Type} (body : Activity α) : Activity (Except Stop α) :=
  ExceptT.mk fun known => do
    let (result, known) ← body.run.run known
    return (.ok result, known)

/-- Goes on as something came out. -/
def conclude {α : Type} (result : Except Stop α) : Activity α :=
  ExceptT.mk fun known => return (result, known)

/-- A request. -/
def ask (call : Call) : Activity call.Result := liftM (Prog.call call)

/-- Ends the process. -/
def exitNow {α : Type} (code : Int) : Activity α := ExceptT.mk fun _ => Prog.exit code

end Activity

open Activity

/-- Writes a complaint. -/
def warn (message : Bytes) : Activity Unit := do
  let known ← get
  liftM (Prog.complain (known.complaintStart ++ message ++ [10]))

/-- Stops with a complaint. -/
def fail {α : Type} (message : Bytes) : Activity α := do
  modify fun known => { known with status := 2 }
  warn message
  throw .fails

/-- Stops with a complaint in plain words. -/
def failWith {α : Type} (message : String) : Activity α := fail (Text.bytesOf message)

/-- Something ends with an exit code. -/
def settle (status : Int) : Activity Unit :=
  modify fun known => { known with status := status }

/-- Lets an option be on or off. -/
def settleOption (option : String) (on : Bool) : Activity Unit :=
  modify fun known => known.setOption option on

/-- Holds back something that is to be written. -/
def say (bytes : Bytes) : Activity Unit :=
  modify fun known => { known with output := bytes :: known.output }

/-- Holds back a text that is to be written. -/
def sayText (text : String) : Activity Unit := say (Text.bytesOf text)

/-- Writes what is held back, and tells whether that is possible. -/
def flush : Activity Bool := do
  let bytes := (← get).output.reverse.flatten
  if bytes.isEmpty then return true
  modify fun known => { known with output := [] }
  match ← ask (.write Fd.stdout bytes) with
  | .ok () => return true
  | .error _ => return false

/-! ## Variables -/

/-- What a variable becomes besides getting a value. -/
structure Change where
  /-- Programs receive it. -/
  exports : Bool := false
  /-- It keeps its value from now on. -/
  fixes : Bool := false
  deriving DecidableEq, Repr, Inhabited

/-- Gives a variable a value or takes it away, unless it has to keep it. -/
def changeVariable (name : Bytes) (value : Option Bytes) (change : Change) : Activity Unit := do
  let known ← get
  let before := known.store.find name
  if before.any Variable.fixed then fail (name ++ Text.bytesOf ": is read only")
  let changed : Variable :=
    { name := name
      value := value
      exported := change.exports || before.any Variable.exported
        || (known.has "allexport" && value.isSome)
      fixed := change.fixes }
  let gone := value.isNone && !change.exports && !change.fixes
  let store := if gone then known.store.erase name else known.store.put changed
  set ({ known with store := store }.heed name value)

/-- Gives a variable a value. -/
def setVariable (name value : Bytes) : Activity Unit := changeVariable name (some value) {}

/-- Gives a variable a value if its name can be one. -/
def setNamed (name : Bytes) (value : Option Bytes) (change : Change) : Activity Unit := do
  if !isName name then fail (name ++ Text.bytesOf ": bad variable name")
  changeVariable name value change

/-- Remembers for the command under way how something was. -/
def Knowledge.save (known : Knowledge) (saved : Saved) : Knowledge :=
  match known.locals with
  | [] => known
  | frame :: rest => { known with locals := (saved :: frame) :: rest }

/-- Lets a variable belong to the command under way. -/
def makeLocal (name : Bytes) (value : Option Bytes) (change : Change) : Activity Unit := do
  let before := (← get).store.find name
  modify fun known => known.save (.variable name before)
  match before, value with
  | some _, none => return ()
  | _, some value => changeVariable name (some value) change
  | none, none =>
      modify fun known => { known with store := known.store.put { name := name, value := none } }

/-- Lets the options belong to the command under way. -/
def makeOptionsLocal : Activity Unit :=
  modify fun known => known.save (.options known.options)

/-- Begins to remember things for a command. -/
def pushLocals : Activity Unit := modify fun known => { known with locals := [] :: known.locals }

/-- The knowledge in which something is again what it was. -/
def Knowledge.revive (known : Knowledge) (saved : Saved) : Knowledge :=
  match saved with
  | .variable name before =>
      let store := match before with
        | some before => known.store.put before
        | none => known.store.erase name
      { known with store := store }.heed name (before.bind Variable.value)
  | .options before => { known with options := before }

/-- Lets what belongs to commands be again what it was, until there are so many commands. -/
def popLocals (commands : Nat) : Activity Unit :=
  modify fun known =>
    let ended := known.locals.take (known.locals.length - commands)
    ended.flatten.foldl Knowledge.revive
      { known with locals := known.locals.drop (known.locals.length - commands) }

/-! ## Processes -/

/-- The knowledge of a process of its own: traps are left to the one it comes from, but for the
signals that do nothing. -/
def Knowledge.apart (known : Knowledge) : Knowledge :=
  { known with
    traps := known.traps.filter fun trap => trap.2.isEmpty
    catching := false
    pending := []
    jobs := []
    output := [] }

/-- Lets signals that were taken note of do again what they do to everybody. -/
def releaseTraps : Activity Unit := do
  let known ← get
  (known.traps.filter fun trap => !trap.2.isEmpty && trap.1 != 0).forM fun trap => do
    let _ ← ask (.dispose trap.1 .default)
  set known.apart

/-- Enters a task. -/
def enterTask (apart : Bool) : Activity Nat := do
  let known ← get
  let inUse := known.jobs.filter fun job => !(job.done && job.waited)
  let numbers := inUse.map Job.number
  let free := ((List.range (numbers.length + 1)).map (· + 1)).find? fun n => !numbers.contains n
  let number := free.getD 1
  let others := known.jobs.filter fun job => job.number != number
  let job : Job := { number := number, members := [], apart := apart }
  set { known with jobs := others ++ [job] }
  return number

/-- Starts a process that belongs to a task, if one is given. It does something and leaves. -/
def startProcess (leave : Stop → Activity Unit) (task : Option Nat) (apart : Bool)
    (body : Activity Unit) : Activity Pid := do
  let _ ← flush
  match ← ask .fork with
  | .error _ => failWith "Cannot fork"
  | .ok (.parent child) =>
      modify fun known => { known with
        lastApart := if apart then some child else known.lastApart
        jobs := known.jobs.map fun job =>
          if some job.number == task then
            { job with members := job.members ++ [(child, none)] }
          else job }
      return child
  | .ok .child =>
      releaseTraps
      match ← attempt body with
      | .ok () => leave .ends
      | .error stop => leave stop
      exitNow (← get).status

/-- A signal has been taken note of. -/
def Knowledge.note (known : Knowledge) (signal : Signal) : Knowledge :=
  if known.pending.contains signal then known
  else { known with pending := known.pending ++ [signal] }

/-- A child has ended. -/
def noteEnding (pid : Pid) (ending : Ending) : Activity Unit :=
  modify fun known =>
    let settled := known.jobs.map fun job => job.settle pid ending
    let known := { known with jobs := settled }
    if known.traps.any fun trap => trap.1 == Signal.child && !trap.2.isEmpty then
      known.note Signal.child
    else known

/-- Takes note of the signals that have arrived. -/
def noteArrived : Activity Unit := do
  let arrived ← ask .arrived
  modify fun known => arrived.foldl Knowledge.note known

/-- The task with a number. -/
def task? (number : Nat) : Activity (Option Job) := do
  return (← get).jobs.find? fun job => job.number == number

/-- How much is said of a process that a signal has killed. -/
def epitaphLength : Nat := 31

/-- Says of a process that a signal has killed it, unless that was to be expected. -/
def mourn (ending : Ending) : Activity Unit := do
  match ending with
  | .killed signal =>
      if signal != Signal.interrupt && signal != Signal.brokenPipe then
        liftM (Prog.complain ((Text.bytesOf (Signal.epitaph signal)).take epitaphLength ++ [10]))
  | .exited _ => return ()

/-- Forgets a task. -/
def forgetTask (number : Nat) : Activity Unit :=
  modify fun known =>
    { known with jobs := known.jobs.filter fun job => job.number != number }

/-- Waits for a task and gives its exit code. -/
def finishTask (number : Nat) : Activity Int := do
  let code ← iterate (fun () => do
    match ← task? number with
    | none => return .inr 0
    | some job =>
        if job.done then return .inr job.code
        match ← ask (.wait none) with
        | .error _ => return .inr job.code
        | .ok (pid, .ended ending) =>
            noteEnding pid ending
            if job.members.any fun entry => entry.1 == pid then mourn ending
            return .inl ()
        | .ok _ => return .inl ()) ()
  forgetTask number
  return code

end LineShell.Script
