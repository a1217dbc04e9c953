import LineShell.Script.Builtin.Options

/-!
# Processes and signals

- **`kill`** sends signals, and **`trap`** says what is done about them.
- **`jobs`** lists the tasks that are not waited for, and **`wait`** waits for them after all.
-/

namespace LineShell.Script

open Activity

/-! ## Signals -/

/-- The signal that a word names by its number or its name, from the given number on. -/
def signal? (least : Signal) (word : Bytes) : Option Signal :=
  match Text.number? word with
  | some n => if n ≤ Signal.last then some n else none
  | none =>
      if least = 0 && Text.textOf (word.map Text.upper) == "EXIT" then some 0
      else Signal.number? (Text.textOf word)

/-- The name of a signal; the number 0 stands for the end. -/
def signalName (signal : Signal) : Bytes :=
  Text.bytesOf (if signal = 0 then "EXIT" else Signal.name signal)

/-- Sets what the system does about a signal according to what is to be done. Nothing can be done
about signals that were ignored before the script began. -/
def arrange (signal : Signal) : Activity Unit := do
  let known ← get
  if signal = 0 || known.ignored.contains signal then return ()
  let disposition : Disposition := match known.traps.lookup signal with
    | none => .default
    | some [] => .ignored
    | some _ => .caught
  let before ← ask (.dispose signal disposition)
  if before == .ignored && !known.arranged.contains signal then
    let _ ← ask (.dispose signal .ignored)
    modify fun known => { known with ignored := signal :: known.ignored }
  else
    modify fun known =>
      { known with
        arranged := if known.arranged.contains signal then known.arranged
          else signal :: known.arranged
        catching := known.catching || disposition == .caught }

/-- Another action belongs to a signal, or none. -/
def setTrap (signal : Signal) (action : Option Bytes) : Activity Unit := do
  modify fun known =>
    let others := known.traps.filter fun trap => trap.1 != signal
    { known with traps := others ++ (action.map fun action => (signal, action)).toList }
  arrange signal

/-- Lets actions belong to signals one after the other, as far as they are signals. -/
def setTraps (action : Option Bytes) : List Bytes → Activity Int
  | [] => return 0
  | word :: rest => do
      match signal? 0 word with
      | some signal =>
          setTrap signal action
          setTraps action rest
      | none =>
          liftM (Prog.complain (Text.bytesOf "trap: " ++ word ++ Text.bytesOf ": bad trap\n"))
          return 1

/-- Says what is done about signals, or shows that. -/
def trap : Builtin := fun words => do
  let (_, operands) ← takeOptions "" words
  match operands with
  | [] =>
      let known ← get
      (List.range (Signal.last + 1)).forM fun signal =>
        match known.traps.lookup signal with
        | some action =>
            say (Text.bytesOf "trap -- " ++ inQuotes action ++ 32 :: signalName signal ++ [10])
        | none => pure ()
      return 0
  | [word] => setTraps none [word]
  | word :: rest =>
      if (Text.number? word).any fun n => n ≤ Signal.last then setTraps none operands
      else setTraps (if word == [45] then none else some word) rest

/-! ## Tasks -/

/-- The task that a word names. -/
def taskOf (word : Bytes) : Activity Job := do
  let newestFirst := (← get).jobs.reverse
  let choose (job : Option Job) (message : String) : Activity Job := do
    match job with
    | some job => return job
    | none => fail (Text.bytesOf message ++ word)
  match word.drop 1 with
  | [] | [37] | [43] => do
      match newestFirst with
      | job :: _ => return job
      | [] => failWith "No current job"
  | [45] => do
      match newestFirst.drop 1 with
      | job :: _ => return job
      | [] => failWith "No previous job"
  | [63] => choose (if newestFirst.length = 1 then newestFirst.head? else none) "No such job: "
  | text =>
      choose (newestFirst.find? fun job => Text.number? text == some job.number) "No such job: "

/-- Takes account of the children that have ended. -/
def noteEndings : Activity Unit :=
  iterate (fun () => do
    match ← ask .poll with
    | .ok (some (pid, .ended ending)) =>
        noteEnding pid ending
        return .inl ()
    | .ok (some _) => return .inl ()
    | .ok none | .error _ => return .inr ()) ()

/-- The width up to which the state of a task is filled up. -/
def stateWidth : Nat := 33

/-- How a task stands. -/
def standingOf (job : Job) : String :=
  if !job.done then "Running"
  else match job.ending? with
    | some (.killed signal) => Signal.epitaph signal
    | some (.exited 0) | none => "Done"
    | some (.exited code) => "Done(" ++ toString code ++ ")"

/-- Shows a task, which is forgotten if it is done. -/
def showTask (withPid onlyPid : Bool) (job : Job) : Activity Unit := do
  let pids := job.members.map fun entry => Text.decimal entry.1
  if onlyPid then say (pids.headD [] ++ [10])
  else
    let newestFirst := (← get).jobs.reverse.map Job.number
    let sign := if newestFirst.head? == some job.number then " + "
      else if newestFirst[1]? == some job.number then " - " else "   "
    let start := Text.bytesOf ("[" ++ toString job.number ++ "]" ++ sign)
    let state := start ++ (if withPid then pids.headD [] ++ [32] else [])
      ++ Text.bytesOf (standingOf job)
    say (state ++ List.replicate (max 1 (stateWidth - state.length)) 32)
    if withPid then
      pids.tail.forM fun pid => do
        let more := List.replicate start.length 32 ++ pid ++ [32]
        sayText " |\n"
        say (more ++ List.replicate (max 1 (stateWidth - more.length)) 32)
    else
      pids.tail.forM fun _ => sayText " | "
    say [10]
    if job.done then forgetTask job.number

/-- Lists tasks. -/
def jobs : Builtin := fun words => do
  let (options, operands) ← takeOptions "lp" words
  let last := options.getLast?.map Prod.fst
  let display := showTask (last == some 108) (last == some 112)
  if operands.isEmpty then
    noteEndings
    (← get).jobs.reverse.forM display
  else
    operands.forM fun word => do display (← taskOf word)
  return 0

/-- Waits until something is so, and tells whether that has come about before a signal. -/
def waitUntil (mournFor : Option Nat) (reached : Knowledge → Bool) : Activity Bool :=
  iterate (fun () => do
    if reached (← get) then return .inr true
    match ← ask .waitOrSignal with
    | .ok (pid, .ended ending) =>
        let mine := (← get).jobs.any fun job =>
          some job.number == mournFor && job.members.any fun entry => entry.1 == pid
        noteEnding pid ending
        if mine then mourn ending
        return .inl ()
    | .ok _ => return .inl ()
    | .error .interrupted =>
        noteArrived
        return .inr false
    | .error _ => return .inr true) ()

/-- The exit code of a command that a signal has cut short. -/
def interruptedCode : Activity Int := do
  return Job.signalBase + ((← get).pending.getLast?.getD 0 : Nat)

/-- Waits for a task, and tells its exit code unless a signal has come before. -/
def waitForTask (job : Job) : Activity (Option Int) := do
  let now (known : Knowledge) := known.jobs.find? fun other => other.number == job.number
  if !(← waitUntil (some job.number) fun known => ((now known).map Job.done).getD true) then
    return none
  let code := ((now (← get)).map Job.code).getD 0
  modify fun known => { known with jobs := known.jobs.map fun other =>
    if other.number == job.number then { other with waited := true } else other }
  return some code

/-- Waits for tasks one after the other, and gives the exit code of the last one. -/
def waitForAll : (code : Int) → List Bytes → Activity Int
  | code, [] => return code
  | code, word :: rest => do
      let job ← if word.head? == some 37 then some <$> taskOf word
        else do
          let pid ← numberOf word
          pure ((← get).jobs.reverse.find? fun job =>
            (job.members.getLast?.map Prod.fst) == some pid)
      match job with
      | none => waitForAll code rest
      | some job =>
          match ← waitForTask job with
          | some code => waitForAll code rest
          | none => interruptedCode

/-- The exit code of waiting for what is not there. -/
def nothingToWaitFor : Int := 127

/-- Waits for some tasks, or for all. -/
def wait : Builtin := fun words => do
  let (_, operands) ← takeOptions "" words
  if !operands.isEmpty then waitForAll nothingToWaitFor operands
  else if ← waitUntil none fun known => known.jobs.all Job.done then
    modify fun known =>
      { known with jobs := known.jobs.map fun job => { job with waited := true } }
    return 0
  else interruptedCode

/-- Moves a task to where it cannot be moved. -/
def moveTask : Builtin := fun words => do
  let (_, operands) ← takeOptions "" words
  match operands with
  | [] =>
      if (← get).jobs.isEmpty then failWith "No current job"
      else failWith "job (null) not created under job control"
  | word :: _ =>
      let _ ← taskOf word
      fail (Text.bytesOf "job " ++ word ++ Text.bytesOf " not created under job control")

/-! ## Sending signals -/

/-- How signals are sent, in words. -/
def killUsage : String :=
  "Usage: kill [-s sigspec | -signum | -sigspec] [pid | job]... or\nkill -l [exitstatus]"

/-- Names a signal, given its number or the exit code of a command that it has killed, or all
signals. -/
def listSignals : List Bytes → Activity Int
  | [] => do
      sayText "0\n"
      (List.range Signal.last).forM fun n => say (signalName (n + 1) ++ [10])
      return 0
  | word :: _ => do
      let number ← numberOf word
      let signal := if number > Job.signalBase.toNat then number - Job.signalBase.toNat else number
      if signal = 0 || signal > Signal.last then
        fail (Text.bytesOf "invalid signal number or exit status: " ++ word)
      say (signalName signal ++ [10])
      return 0

/-- The process that a word names, if there can be one. -/
def target (word : Bytes) : Activity (Option Pid) := do
  match word with
  | 37 :: _ =>
      let _ ← taskOf word
      return none
  | 45 :: rest =>
      let _ ← numberOf rest
      return none
  | _ => return some (← numberOf word)

/-- Sends a signal to processes. -/
def sendAll (signal : Signal) (words : List Bytes) : Activity Int := do
  let sent ← words.mapM fun word => do
    let reply ← match ← target word with
      | some pid => ask (.kill pid signal)
      | none => pure (.error .noProcess)
    match reply with
    | .ok () => return true
    | .error errno =>
        warn (Text.bytesOf (errno.message ++ "\n"))
        return false
  return if sent.all id then 0 else 1

/-- The signal that options of their own letters name. -/
def signalOption : Option Signal → List TakenOption → Activity (Option Signal)
  | signal, [] => return signal
  | signal, (letter, value) :: rest =>
      if letter == 115 then
        match signal? 1 value with
        | some signal => signalOption (some signal) rest
        | none => fail (Text.bytesOf "invalid signal number or name: " ++ value)
      else signalOption signal rest

/-- Sends signals to processes, or names them. -/
def kill : Builtin := fun words => do
  let send (signal : Option Signal) (operands : List Bytes) : Activity Int := do
    if operands.isEmpty then failWith killUsage
    sendAll (signal.getD Signal.terminate) operands
  match words.tail with
  | [] => failWith killUsage
  | (45 :: name) :: rest =>
      match signal? 1 name with
      | some signal => send (some signal) rest
      | none =>
          let (options, operands) ← takeOptions "ls:" words
          let signal ← signalOption none options
          if !given options 'l' then send signal operands
          else if signal.isSome then failWith killUsage
          else listSignals operands
  | operands => send none operands

/-- Shows how long the script and its children have been at work. -/
def times : Builtin := fun _ => do
  sayText "0m0.000000s 0m0.000000s\n0m0.000000s 0m0.000000s\n"
  return 0

end LineShell.Script
