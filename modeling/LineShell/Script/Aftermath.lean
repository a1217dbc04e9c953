import LineShell.Script.Lines

/-!
# What is done in the end

- **`answerSignals`** does what is to be done about signals that have been taken note of.
- **`leave`** does what is to be done when a script stops.
-/

namespace LineShell.Script

open Activity

/-! ## Signals -/

/-- Does what is to be done about a signal. The exit code stays what it was, unless that is meant
for a function. -/
def answer (go : Runner) (status : Int) (signal : Signal) : Activity Unit := do
  if (← get).skip != .nothing then return ()
  modify fun known => { known with pending := known.pending.filter (· != signal) }
  match (← get).traps.lookup signal with
  | none => return ()
  | some action =>
      let _ ← runText go action {}
      if (← get).skip != .returns true then settle status

/-- Does what is to be done about the signals that have been taken note of, one after the other in
the order of their numbers. -/
def answerSignals (go : Runner) : Activity Unit := do
  if (← get).catching then noteArrived
  let known ← get
  if known.pending.isEmpty then return ()
  let status := known.savedStatus.getD known.status
  modify fun known => { known with savedStatus := some status }
  (known.pending.mergeSort (· ≤ ·)).forM (answer go status)
  modify fun after => { after with savedStatus := known.savedStatus }

/-! ## The end -/

/-- Settles the exit code of a script that has stopped. -/
def conclusion (stop : Stop) (known : Knowledge) : Knowledge :=
  { known with
    status := match known.savedStatus with
      | some saved => if stop == .exits || known.skip == .returns false then saved else known.status
      | none => known.status
    savedStatus := none
    skip := .nothing
    loops := 0 }

/-- Does what is to be done when a script stops. -/
def leave (go : Runner) (stop : Stop) : Activity Unit := do
  modify (conclusion stop)
  let known ← get
  match known.traps.lookup 0 with
  | none => return ()
  | some action =>
      set { known with
        savedStatus := some known.status
        traps := known.traps.filter fun trap => trap.1 != 0 }
      match ← attempt (runText go action {}) with
      | .ok _ =>
          modify fun known => { known with skip := .returns false }
          modify (conclusion stop)
      | .error stop => modify (conclusion stop)

end LineShell.Script
