import LineShell.Script.Aftermath
import LineShell.Script.Builtin.Places
import LineShell.Script.Builtin.Tasks
import LineShell.Script.Builtin.Variables
import LineShell.Script.Streams

/-!
# Simple commands

A simple command is made of words, assignments and redirections. Its words become fields, and the
first field names what is run.

- **`Invocation.find`** finds out what is run.
- **`simple`** runs a simple command.
-/

namespace LineShell.Script

open Activity

/-! ## Programs and values within words -/

/-- Something is to be done before the process may become a program. -/
def Knowledge.hasTraps (known : Knowledge) : Bool := known.traps.any fun trap => !trap.2.isEmpty

/-- What a command within a word writes. -/
def capture (go : Runner) : Capture := fun command => do
  if isNothing command then return []
  match ← ask .pipe with
  | .error _ => failWith "Pipe call failed"
  | .ok (reader, writer) =>
      let task ← enterTask false
      let _ ← startProcess (leave go) (some task) false (do
        Streams.close reader
        Streams.plug writer Fd.stdout
        let _ ← go command { last := true })
      Streams.close writer
      let bytes ← ask (.readAll reader [])
      Streams.close reader
      let code ← finishTask task
      modify fun known => { known with innerStatus := code }
      return bytes.toOption.getD []

/-- The exit code for a program that cannot be run. -/
def uselessCode (errno : Errno) : Int :=
  if errno == .linkLoop || errno == .nameTooLong || errno == .noEntry || errno == .notDirectory then
    127
  else 126

/-- Tries to become the programs at some paths, one after the other. -/
def tryPrograms (fields : List Bytes) (bindings : Variables) :
    (hindrance : Errno) → List Bytes → Activity Errno
  | hindrance, [] => return hindrance
  | hindrance, path :: rest => do
      let errno ← ask (.exec path fields bindings)
      let errno ← if errno == .notExecutable then
          let shell := Search.scriptShell
          ask (.exec shell (shell :: path :: fields.tail) bindings)
        else pure errno
      let plain := errno == .noEntry || errno == .notDirectory
      tryPrograms fields bindings (if plain then hindrance else errno) rest

/-- Becomes the program that the first field names, which is looked for in the given directories
from a place on. When that is not possible, the script ends. -/
def become {α : Type} (path : Option Bytes) (place : Nat) (fields : List Bytes) : Activity α := do
  let known ← get
  let name := fields.headD []
  let paths := (candidates (path.getD known.searchPath) name).drop place
  let errno ← tryPrograms fields known.store.environment .noEntry paths
  settle (uselessCode errno)
  warn (name ++ Text.bytesOf ": " ++ hindranceText errno)
  throw .ends

/-- Runs a program in a process of its own, or in this one if nothing comes behind it. -/
def runProgram (go : Runner) (path : Option Bytes) (place : Nat) (fields : List Bytes)
    (manner : Manner) : Activity Int := do
  if manner.last && !(← get).hasTraps then become path place fields
  else
    let task ← enterTask false
    let _ ← startProcess (leave go) (some task) false (become path place fields)
    finishTask task

/-! ## Functions and commands of the script's own -/

/-- How many functions can be under way at once. -/
def mostCalls : Nat := 1000

/-- Runs a function. -/
def runFunction (go : Runner) (function : Function) (fields : List Bytes) (manner : Manner) :
    Activity Int := do
  let before ← get
  if mostCalls ≤ before.calls then
    failWith s!"Maximum function recursion depth ({mostCalls}) reached"
  set { before with
    arguments := fields.tail
    optionPlace := (1, none)
    loops := 0
    calls := before.calls + 1 }
  let result ← attempt (go function.body { tested := manner.tested })
  modify fun known =>
    { known with
      arguments := before.arguments
      optionPlace := before.optionPlace
      loops := before.loops
      calls := before.calls
      skip := match known.skip with
        | .returns _ => .nothing
        | skip => skip }
  let _ ← conclude result
  return (← get).status

/-- Runs a text that the words make together. -/
def eval (go : Runner) (manner : Manner) : Builtin := fun words => do
  if words.length ≤ 1 then return 0
  runText go (List.intercalate [32] words.tail) { tested := manner.tested }

/-- The file that a name without a slash stands for. -/
def findScript (name : Bytes) : List Bytes → Activity Bytes
  | [] => fail (name ++ Text.bytesOf ": not found")
  | path :: rest => do
      match ← ask (.status path true) with
      | .ok status => if status.node.isRegular then return path else findScript name rest
      | .error _ => findScript name rest

/-- Opens a script under a number that commands do not use. -/
def openScript (path : Bytes) : Activity Fd := do
  match ← ask (.openPath path { read := true } true) with
  | .error errno => Streams.cannotOpen path errno
  | .ok fd =>
      match ← ask (.duplicateAbove fd Streams.leastSpare) with
      | .ok spare =>
          Streams.close fd
          return spare
      | .error _ => return fd

/-- Runs a file as a part of the script. -/
def source (go : Runner) : Builtin := fun words => do
  let (_, operands) ← takeOptions "" words
  match operands with
  | [] => return 0
  | name :: _ =>
      let path ← if name.contains Path.slash then pure name
        else findScript name (candidates (← get).searchPath name)
      let fd ← openScript path
      let before := (← get).lineRead
      modify fun known => { known with command := some path }
      let result ← attempt (runLines go (fun _ => {}) (.ofFile fd))
      Streams.close fd
      modify fun known =>
        { known with
          lineRead := before
          skip := match known.skip with
            | .returns _ => .nothing
            | skip => skip }
      conclude result

/-- Becomes a program, if one is named. -/
def exec : Builtin := fun words => do
  let (_, operands) ← takeOptions "" words
  if operands.isEmpty then return 0 else become none 0 operands

/-- Ends the script. -/
def exit : Builtin := fun words => do
  match words.tail with
  | [] => pure ()
  | word :: _ =>
      let code ← numberOf word
      modify fun known => { known with savedStatus := some code }
  throw .exits

/-- Ends a function or a file. -/
def giveBack : Builtin := fun words => do
  match words.tail with
  | [] =>
      modify fun known => { known with skip := .returns false }
      return (← get).status
  | word :: _ =>
      let code ← numberOf word
      modify fun known => { known with skip := .returns true }
      return code

/-- Leaves loops, or goes on with their next rounds. -/
def leaveLoops (skip : Nat → Skip) : Builtin := fun words => do
  let loops ← match words.tail with
    | [] => pure 1
    | word :: _ => do
        let loops ← numberOf word
        if loops = 0 then fail (Text.bytesOf "Illegal number: " ++ word)
        pure loops
  modify fun known =>
    let loops := min loops known.loops
    if loops = 0 then known else { known with skip := skip loops }
  return 0

/-- What a command that the script runs by itself does. -/
def builtin (go : Runner) (manner : Manner) (name : Bytes) : Builtin :=
  match Text.textOf name with
  | "." => source go
  | "[" => bracket
  | "alias" => makeAliases
  | "bg" | "fg" => moveTask
  | "break" => leaveLoops .breaks
  | "cd" | "chdir" => cd
  | "command" => commandNames
  | "continue" => leaveLoops .continues
  | "echo" => echo
  | "eval" => eval go manner
  | "exec" => exec
  | "exit" => exit
  | "export" => exportAll
  | "false" => fun _ => return 1
  | "getopts" => getopts
  | "hash" => hash
  | "jobs" => jobs
  | "kill" => kill
  | "local" => makeLocals
  | "printf" => printf
  | "pwd" => pwd
  | "read" => read
  | "readonly" => readonly
  | "return" => giveBack
  | "set" => settings
  | "shift" => shift
  | "test" => test
  | "times" => times
  | "trap" => trap
  | "type" => type
  | "ulimit" => ulimit
  | "umask" => umask
  | "unalias" => unalias
  | "unset" => unset
  | "wait" => wait
  | _ => fun _ => return 0

/-- Runs a command of the script's own and writes what it has to say. Something wrong with it ends
the script if the command is a special one. -/
def runOwn (special : Bool) (name : Bytes) (body : Activity Int) : Activity Int := do
  let before := (← get).command
  modify fun known => { known with command := some name }
  let result ← attempt body
  match result with
  | .ok code =>
      settle code
      if !(← flush) then
        warn (name ++ Text.bytesOf ": I/O error")
        settle (if code % 2 = 0 then code + 1 else code)
  | .error _ =>
      let _ ← flush
  modify fun known => { known with command := before }
  match result with
  | .error .fails => if special then throw .fails
  | .error stop => throw stop
  | .ok _ => pure ()
  return (← get).status

/-! ## What is run -/

/-- The beginning of a simple command, while it is found out what is run. -/
structure Invocation where
  /-- The fields so far. -/
  fields : List Bytes
  /-- The words that are left. -/
  words : List Word
  /-- The place of the field that names what is run. -/
  place : Nat := 0
  /-- Functions are not run. -/
  noFunctions : Bool := false
  /-- The directories in which programs are looked for, if not the usual ones. -/
  path : Option Bytes := none
  /-- How the first field stands to other commands, if the script runs it by itself. -/
  standing : Option Standing := none
  /-- The script runs what is run by itself. -/
  own : Bool := false
  deriving Inhabited

namespace Invocation

/-- The fields of the first word that has any, and the words behind it. -/
def firstFields (go : Runner) : List Word → Activity (List Bytes × List Word)
  | [] => return ([], [])
  | word :: rest => do
      match ← Expansion.fields (capture go) word with
      | [] => firstFields go rest
      | fields => return (fields, rest)

/-- The name of what is run. -/
def name (invoked : Invocation) : Bytes := (invoked.fields[invoked.place]?).getD []

/-- Goes to the next field, if there is one. -/
def next (go : Runner) (invoked : Invocation) : Activity (Invocation × Bool) := do
  let further := { invoked with place := invoked.place + 1 }
  if further.place < further.fields.length then return (further, true)
  match ← firstFields go invoked.words with
  | ([], words) => return ({ invoked with words := words }, false)
  | (fields, words) =>
      return ({ further with fields := invoked.fields ++ fields, words := words }, true)

/-- Passes over the word `command` and its options. The second component is false if that is what
is run. -/
def passCommand (go : Runner) (invoked : Invocation) : Activity (Invocation × Bool) :=
  iterate (fun (place : Invocation) => do
    match ← place.next go with
    | (place, false) => return .inr ({ place with place := invoked.place }, false)
    | (place, true) =>
        match place.name with
        | [45, 45] =>
            match ← place.next go with
            | (place, true) => return .inr (place, true)
            | (place, false) => return .inr ({ place with place := invoked.place }, false)
        | 45 :: b :: letters =>
            if (b :: letters).all (· == 112) then
              return .inl { place with path := some Knowledge.usualPath }
            else return .inr ({ place with place := invoked.place }, false)
        | _ => return .inr (place, true)) invoked

/-- Finds out what is run. -/
def find (go : Runner) (words : List Word) : Activity Invocation := do
  let (fields, words) ← firstFields go words
  if fields.isEmpty then return { fields := [], words := [] }
  iterate (fun (invoked : Invocation) => do
    let function := (← get).function? invoked.name
    match if invoked.noFunctions then none else function, standing? invoked.name with
    | none, some standing =>
        let invoked := { invoked with
          own := true
          standing := invoked.standing.orElse fun () => some standing }
        if invoked.name == Text.bytesOf "command" then
          match ← invoked.passCommand go with
          | (later, true) => return .inl { later with own := false, noFunctions := true }
          | (later, false) => return .inr { later with path := invoked.path }
        else return .inr invoked
    | _, _ => return .inr invoked) { fields := fields, words := words }

/-- What is run is a command with the given name. -/
def isOwn (invoked : Invocation) (name : String) : Bool :=
  invoked.own && invoked.name == Text.bytesOf name

/-- What is run takes words that are assignments for assignments. -/
def assigns (invoked : Invocation) : Bool :=
  invoked.isOwn "export" || invoked.isOwn "readonly" || invoked.isOwn "local"
    || invoked.isOwn "alias"

/-- Something wrong with the command ends the script. -/
def isSpecial (invoked : Invocation) : Bool := invoked.standing == some .special

/-- Assignments belong to the command alone. -/
def keepsAssignments (invoked : Invocation) : Bool := invoked.fields.isEmpty || invoked.isSpecial

/-- The command with all its words turned to fields. -/
def complete (go : Runner) (invoked : Invocation) : Activity Invocation := do
  let lists ← invoked.words.mapM fun word =>
    match if invoked.assigns then assignment? word else none with
    | some (name, value) => do
        return [name ++ 61 :: (← Expansion.assigned (capture go) value)]
    | none => Expansion.fields (capture go) word
  return { invoked with fields := invoked.fields ++ lists.flatten, words := [] }

end Invocation

/-! ## Running -/

/-- The beginning of a line of the trace unless something else is said. -/
def traceStart (go : Runner) : Activity Bytes := do
  let known ← get
  let text := (known.get? "PS4").getD []
  settleOption "xtrace" false
  let result ← attempt (do
    match readText text with
    | .error (.fault _ message) => fail message
    | .error .more => return text
    | .ok word => Expansion.document (capture go) word)
  settleOption "xtrace" true
  settle known.status
  return result.toOption.getD text

/-- Writes a command to the trace. -/
def trace (go : Runner) (fd : Fd) (pieces : List Bytes) : Activity Unit := do
  if (← get).has "xtrace" then
    let start ← traceStart go
    let _ ← ask (.write fd (start ++ List.intercalate [32] pieces ++ [10]))

/-- Carries out assignments, which belong to the command alone if that is asked, and lists them. -/
def assign (go : Runner) (alone : Bool) (change : Change) (assignments : List (Bytes × Word)) :
    Activity (List Bytes) :=
  assignments.mapM fun (name, word) => do
    let value ← Expansion.assigned (capture go) word
    if alone then makeLocal name (some value) { exports := true }
    else changeVariable name (some value) change
    return name ++ 61 :: value

/-- Runs what is run. -/
def runOpened (go : Runner) (invoked : Invocation) (manner : Manner) : Activity Int := do
  let fields := invoked.fields.drop invoked.place
  match fields with
  | [] =>
      let code := (← get).innerStatus
      settle code
      return code
  | name :: _ =>
      if invoked.own then
        runOwn invoked.isSpecial name (builtin go manner name fields)
      else
        match ← locateOrWarn (!invoked.noFunctions) invoked.path name with
        | none =>
            settle 127
            if invoked.isSpecial then throw .fails
            return 127
        | some (.function function) => runFunction go function fields manner
        | some (.program place) => runProgram go invoked.path place fields manner
        | some (.own _) => runOwn invoked.isSpecial name (builtin go manner name fields)

/-- Runs a simple command. -/
def simple (go : Runner) (line : Nat) (assignments : List (Bytes × Word)) (words : List Word)
    (routes : List Redirection) (manner : Manner) : Activity Int := do
  modify fun known => { known with line := line, innerStatus := 0 }
  let invoked ← (← Invocation.find go words).complete go
  let execs := invoked.isOwn "exec"
  let commands := (← get).locals.length
  if !invoked.keepsAssignments then pushLocals
  let goals ← Streams.goals (capture go) routes
  let (kept, outcome) ← Streams.redirect (leave go) true [] goals
  let result ← attempt (do
    match outcome with
    | .error .fails =>
        settle 2
        if invoked.isSpecial then throw .fails
        return 2
    | .error stop => throw stop
    | .ok () =>
        let exports := execs && invoked.place + 1 < invoked.fields.length
        let made ← assign go (!invoked.keepsAssignments) { exports := exports } assignments
        trace go (Streams.complaintStream kept) (made ++ invoked.fields)
        runOpened go invoked manner)
  if execs && result.toBool && outcome.toBool then Streams.forget kept
  else Streams.restore kept
  if result.toBool then popLocals commands
  conclude result

end LineShell.Script
