import LineShell.System.Machine

/-!
# Running a machine

A process moves until it has to wait; then the first one that can move takes over. When all of
them wait and one of them sleeps, time passes, and the first one that can move then takes over.

- **`run`** moves a machine until its first process has ended, or none can move any more.
-/

namespace LineShell.System

variable {α : Type}

/-- The first of some processes that can move, and the machine after it has moved. -/
def firstStep (launch : Launcher) (system : System α) : List Pid → Option (Pid × System α)
  | [] => none
  | pid :: rest =>
      match system.step launch pid with
      | some moved => some (pid, moved)
      | none => firstStep launch system rest

/-- The time at which a process wants to wake up, when it sleeps. -/
def wakeTime? (process : Process α) : Option Nat :=
  if !process.active then none
  else match process.program with
    | .ask (.sleepUntil time) _ _ => some time
    | _ => none

/-- The earliest time at which some process wants to wake up. -/
def earliestWake? (system : System α) : Option Nat :=
  (system.processes.filterMap wakeTime?).min?

/-- The process has a value, or has ended, or is not there. -/
def settled (system : System α) (pid : Pid) : Bool :=
  match system.process? pid with
  | none => true
  | some process =>
      !process.alive || match process.program with
        | .pure _ => true
        | _ => false

/-- Moves a machine for so many rounds at most, until the process `root` is settled. The process
`current` has the first turn. -/
def run (launch : Launcher) (root : Pid) : (rounds : Nat) → (current : Pid) → System α → System α
  | 0, _, system => system
  | rounds + 1, current, system =>
      if system.settled root then system
      else match system.step launch current with
        | some moved => run launch root rounds current moved
        | none =>
            match system.firstStep launch (system.processes.map Process.pid) with
            | some (pid, moved) => run launch root rounds pid moved
            | none =>
                match system.earliestWake? with
                | some time => run launch root rounds root (system.setClock time)
                | none => system

end LineShell.System
