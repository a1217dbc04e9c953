import LineShell.Script.Simple

/-!
# Running commands

- **`perform`** runs a command, given what runs those inside of it.
- **`execute`** runs a command whose parts lie so deep at most.
-/

namespace LineShell.Script

open Activity

/-! ## Processes -/

/-- Where the input of a command leads that is not waited for. -/
def nowhere : Bytes := Text.bytesOf "/dev/null"

/-- Lets the process be one that is not waited for: it does not heed the user's interruptions. Its
input is empty if it is the first one of its task. -/
def goApart (first : Bool) : Activity Unit := do
  let signals := [Signal.interrupt, Signal.quit]
  signals.forM fun signal => do
    let _ ← ask (.dispose signal .ignored)
  modify fun known => { known with ignored := signals ++ known.ignored }
  if first then
    Streams.close Fd.stdin
    match ← ask (.openPath nowhere { read := true } false) with
    | .ok _ => return ()
    | .error _ => fail (Text.bytesOf "Can't open " ++ nowhere)

/-- Starts the commands of a pipeline, the first of which reads from the given pipe. -/
def startStages (go : Runner) (task : Nat) (apart : Bool) (manner : Manner) :
    (input : Option Fd) → List Command → Activity Unit
  | _, [] => return ()
  | input, stage :: rest => do
      let output ← if rest.isEmpty then pure none
        else match ← ask .pipe with
          | .ok ends => pure (some ends)
          | .error _ =>
              input.toList.forM Streams.close
              failWith "Pipe call failed"
      let _ ← startProcess (leave go) (some task) apart (do
        if apart then goApart input.isNone
        output.toList.forM fun ends => Streams.close ends.1
        input.toList.forM fun reader => Streams.plug reader Fd.stdin
        output.toList.forM fun ends => Streams.plug ends.2 Fd.stdout
        let _ ← go stage { manner with last := true })
      input.toList.forM Streams.close
      output.toList.forM fun ends => Streams.close ends.2
      startStages go task apart manner (output.map Prod.fst) rest

/-- Runs commands joined by pipes. -/
def pipeline (go : Runner) (stages : List Command) (apart : Bool) (manner : Manner) :
    Activity Int := do
  let task ← enterTask apart
  startStages go task apart manner none stages
  if apart then return 0 else finishTask task

/-- Runs a command in a process of its own, unless this one has nothing else to do. -/
def subshell (go : Runner) (body : Command) (routes : List Redirection) (apart : Bool)
    (manner : Manner) : Activity Int := do
  let goals ← Streams.goals (capture go) routes
  let inside (manner : Manner) : Activity Unit := do
    let (_, outcome) ← Streams.redirect (leave go) false [] goals
    conclude outcome
    let _ ← go body { manner with last := true }
  if !apart && manner.last && !(← get).hasTraps then
    inside manner
    return (← get).status
  let task ← enterTask apart
  let _ ← startProcess (leave go) (some task) apart (do
    if apart then goApart true
    inside { manner with tested := manner.tested && !apart })
  if apart then return 0 else finishTask task

/-- Runs a command with redirections. -/
def redirected (go : Runner) (body : Command) (routes : List Redirection) (manner : Manner) :
    Activity Int := do
  let goals ← Streams.goals (capture go) routes
  let (kept, outcome) ← Streams.redirect (leave go) true [] goals
  let result ← attempt (do
    match outcome with
    | .error .fails => return 2
    | .error stop => throw stop
    | .ok () => go body { tested := manner.tested })
  Streams.restore kept
  conclude result

/-! ## Loops -/

/-- What comes after a round of a loop. -/
inductive Round where
  /-- The next round. -/
  | next
  /-- What follows the loop. -/
  | ended
  deriving DecidableEq, Repr, Inhabited

/-- Finds out what comes after a part of a round of a loop: whether that part was cut short, and
what follows. -/
def endRound : Activity (Bool × Round) := do
  let known ← get
  match known.skip with
  | .nothing => return (false, .next)
  | .returns _ => return (true, .ended)
  | .breaks loops =>
      set { known with skip := if loops ≤ 1 then .nothing else .breaks (loops - 1) }
      return (true, .ended)
  | .continues loops =>
      set { known with skip := if loops ≤ 1 then .nothing else .continues (loops - 1) }
      return (true, if loops ≤ 1 then .next else .ended)

/-- Does something within a loop. -/
def looping {α : Type} (body : Activity α) : Activity α := do
  modify fun known => { known with loops := known.loops + 1 }
  let value ← body
  modify fun known => { known with loops := known.loops - 1 }
  return value

/-- Runs a command again and again, as long as a condition says so. -/
def repeatedly (go : Runner) (inverted : Bool) (condition body : Command) (tested : Bool) :
    Activity Int :=
  looping (iterate (fun (status : Int) => do
    let answer ← go condition { tested := true }
    let returning := (← get).skip == .returns true
    let (cut, round) ← endRound
    if cut then
      return if round == .next then .inl status
        else .inr (if returning then answer else status)
    if (answer == 0) == inverted then return .inr status
    let status ← go body { tested := tested }
    match ← endRound with
    | (_, .next) => return .inl status
    | (_, .ended) => return .inr status) 0)

/-- Runs a command once for each of some values. -/
def forEach (go : Runner) (name : Bytes) (body : Command) (tested : Bool) :
    (status : Int) → List Bytes → Activity Int
  | status, [] => return status
  | _, value :: rest => do
      setVariable name value
      let status ← go body { tested := tested }
      match ← endRound with
      | (_, .next) => forEach go name body tested status rest
      | (_, .ended) => return status

/-- A word fits one of some patterns. -/
def fitsAny (go : Runner) (word : Bytes) : List Word → Activity Bool
  | [] => return false
  | pattern :: rest => do
      if (← Expansion.pattern (capture go) pattern).fits word then return true
      else fitsAny go word rest

/-- Runs the first command one of whose patterns fits a word. -/
def choose (go : Runner) (word : Bytes) (manner : Manner) : List Alternative → Activity Int
  | [] => return 0
  | (patterns, body) :: rest => do
      if ← fitsAny go word patterns then
        if isNothing body then return 0 else go body manner
      else choose go word manner rest

/-! ## All commands -/

/-- A command gets a name. -/
def define (name : Bytes) (body : Command) : Activity Unit := do
  forgetProgram name
  modify fun known =>
    { known with functions := { name := name, body := body }
        :: known.functions.filter fun function => function.name != name }

/-- What has come of running a command. -/
inductive Result where
  /-- Its exit code, which may end the script if it is not zero. -/
  | code (status : Int) (mayEnd : Bool)
  /-- The exit code stays as it is. -/
  | unsettled
  deriving DecidableEq, Repr, Inhabited

/-- Something is to be passed over. -/
def isSkipping : Activity Bool := do return (← get).skip != .nothing

/-- The command begins in a line. -/
def enterLine (line : Nat) : Activity Unit :=
  modify fun known => { known with line := line }

/-- Runs a command apart from what is done before and after every one. -/
def perform (go : Runner) (command : Command) (manner : Manner) : Activity Result := do
  let inner : Manner := { tested := manner.tested }
  match command with
  | .nothing => return .unsettled
  | .simple line assignments words routes =>
      return .code (← simple go line assignments words routes manner) true
  | .pipeline stages apart => return .code (← pipeline go stages apart manner) true
  | .subshell line body routes apart =>
      if line != 0 then enterLine line
      return .code (← subshell go body routes apart manner) true
  | .redirected line body routes =>
      enterLine line
      return .code (← redirected go body routes manner) false
  | .sequence first second =>
      let _ ← go first inner
      if ← isSkipping then return .unsettled
      return .code (← go second manner) false
  | .both first second =>
      if (← go first { tested := true }) != 0 || (← isSkipping) then return .unsettled
      return .code (← go second manner) false
  | .either first second =>
      if (← go first { tested := true }) == 0 || (← isSkipping) then return .unsettled
      return .code (← go second manner) false
  | .negated body =>
      return .code (if (← go body { tested := true }) == 0 then 1 else 0) false
  | .conditional condition consequence alternative =>
      let answer ← go condition { tested := true }
      if ← isSkipping then return .unsettled
      if answer == 0 then return .code (← go consequence manner) false
      else if isNothing alternative then return .code 0 false
      else return .code (← go alternative manner) false
  | .loop inverted condition body =>
      return .code (← repeatedly go inverted condition body manner.tested) false
  | .each line name words body =>
      enterLine line
      let values ← Expansion.allFields (capture go) words
      return .code (← looping (forEach go name body manner.tested 0 values)) false
  | .choose line word cases =>
      enterLine line
      let text ← Expansion.text (capture go) { tilde := true } word
      return .code (← choose go text manner cases) false
  | .define _ name body =>
      define name body
      return .code 0 false

/-- Runs a command, given what runs those inside of it. -/
def step (go : Runner) (command : Command) (manner : Manner) : Activity Int := do
  let mut ends := false
  if !(← get).has "noexec" then
    if !isNothing command then answerSignals go
    match ← perform go command manner with
    | .unsettled => pure ()
    | .code status mayEnd =>
        settle status
        ends := mayEnd && !manner.tested && status != 0
  answerSignals go
  if (ends && (← get).has "errexit") || manner.last then throw .ends
  return (← get).status

/-- Runs a command whose parts lie so deep at most. The process does not survive a command that
goes deeper. -/
def execute : (depth : Nat) → Runner
  | 0 => fun _ _ => do
      let _ ← ask (.kill (← ask .processId) Signal.brokenMemory)
      exitNow 2
  | depth + 1 => fun command manner => step (execute depth) command manner

end LineShell.Script
