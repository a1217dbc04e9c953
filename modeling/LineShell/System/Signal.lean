/-!
# Signals

A signal is known by its number and, in commands, by a name.

- **`number?`** and **`name`** lead from one to the other.
- **`Signals.receive`** says what becomes of a process that is sent one.
-/

namespace LineShell

/-- The number of a signal. -/
abbrev Signal := Nat

namespace Signal

/-- What is known of a signal. -/
structure Entry where
  /-- The number. -/
  number : Signal
  /-- The name. -/
  name : String
  /-- What is said of a process that it has ended. -/
  epitaph : String

/-- The signals that have a meaning of their own. -/
def table : List Entry :=
  [⟨1, "HUP", "Hangup"⟩, ⟨2, "INT", "Interrupt"⟩, ⟨3, "QUIT", "Quit"⟩,
   ⟨4, "ILL", "Illegal instruction"⟩, ⟨5, "TRAP", "Trace/breakpoint trap"⟩,
   ⟨6, "ABRT", "Aborted"⟩, ⟨7, "BUS", "Bus error"⟩, ⟨8, "FPE", "Floating point exception"⟩,
   ⟨9, "KILL", "Killed"⟩, ⟨10, "USR1", "User defined signal 1"⟩,
   ⟨11, "SEGV", "Segmentation fault"⟩, ⟨12, "USR2", "User defined signal 2"⟩,
   ⟨13, "PIPE", "Broken pipe"⟩, ⟨14, "ALRM", "Alarm clock"⟩, ⟨15, "TERM", "Terminated"⟩,
   ⟨16, "16", "Stack fault"⟩, ⟨17, "CHLD", "Child exited"⟩, ⟨18, "CONT", "Continued"⟩,
   ⟨19, "STOP", "Stopped (signal)"⟩, ⟨20, "TSTP", "Stopped"⟩,
   ⟨21, "TTIN", "Stopped (tty input)"⟩, ⟨22, "TTOU", "Stopped (tty output)"⟩,
   ⟨23, "URG", "Urgent I/O condition"⟩, ⟨24, "XCPU", "CPU time limit exceeded"⟩,
   ⟨25, "XFSZ", "File size limit exceeded"⟩, ⟨26, "VTALRM", "Virtual timer expired"⟩,
   ⟨27, "PROF", "Profiling timer expired"⟩, ⟨28, "WINCH", "Window changed"⟩,
   ⟨29, "IO", "I/O possible"⟩, ⟨30, "PWR", "Power failure"⟩, ⟨31, "SYS", "Bad system call"⟩]

/-- The signal that the user interrupts with. -/
def interrupt : Signal := 2

/-- The signal that the user quits with. -/
def quit : Signal := 3

/-- The signal that always ends a process. -/
def kill : Signal := 9

/-- The signal that comes of using memory that is not there. -/
def brokenMemory : Signal := 11

/-- The signal that comes of writing where nobody reads. -/
def brokenPipe : Signal := 13

/-- The signal that asks a process to end. -/
def terminate : Signal := 15

/-- The signal that tells of the end of a child. -/
def child : Signal := 17

/-- The signal that always stops a process. -/
def stop : Signal := 19

/-- The first of the signals without a meaning of their own. -/
def firstReal : Signal := 34

/-- The greatest number of a signal. -/
def last : Signal := 64

/-- The signals that do nothing unless they are caught. -/
def harmless : List Signal := [17, 23, 28]

/-- The signals that stop a process. -/
def stopping : List Signal := [19, 20, 21, 22]

/-- The signal that makes a process go on after a stop. -/
def continuing : Signal := 18

/-- The name of a signal. -/
def name (signal : Signal) : String :=
  match table.find? fun entry => entry.number == signal with
  | some entry => entry.name
  | none =>
      if signal = firstReal then "RTMIN"
      else if signal = last then "RTMAX"
      else if firstReal < signal ∧ signal ≤ firstReal + 15 then
        "RTMIN+" ++ toString (signal - firstReal)
      else if firstReal + 15 < signal ∧ signal < last then "RTMAX-" ++ toString (last - signal)
      else toString signal

/-- What is said of a process that a signal has ended. -/
def epitaph (signal : Signal) : String :=
  match table.find? fun entry => entry.number == signal with
  | some entry => entry.epitaph
  | none =>
      if firstReal ≤ signal ∧ signal ≤ last then
        "Real-time signal " ++ toString (signal - firstReal)
      else "Unknown signal " ++ toString signal

/-- The signal with a name, in capital letters or not. -/
def number? (name : String) : Option Signal :=
  (List.range (last + 1)).find? fun signal =>
    signal != 0 && Signal.name signal == name.toUpper

end Signal

/-- What a process does about a signal. -/
inductive Disposition where
  /-- What everybody does. -/
  | default
  /-- Nothing. -/
  | ignored
  /-- It takes note of it. -/
  | caught
  deriving DecidableEq, Repr, Inhabited

/-- What a process does about signals. -/
structure Signals where
  /-- Those it ignores. -/
  ignored : List Signal := [Signal.brokenPipe]
  /-- Those it takes note of. -/
  caught : List Signal := []
  /-- Those it has taken note of and not looked at. -/
  arrived : List Signal := []
  deriving DecidableEq, Repr, Inhabited

namespace Signals

/-- What is done about a signal. -/
def get (signals : Signals) (signal : Signal) : Disposition :=
  if signals.ignored.contains signal then .ignored
  else if signals.caught.contains signal then .caught
  else .default

/-- Something else is to be done about a signal. Two of them cannot be helped. -/
def set (signals : Signals) (signal : Signal) (disposition : Disposition) : Signals :=
  if signal = Signal.kill ∨ signal = Signal.stop then signals
  else
    let ignored := signals.ignored.filter (· != signal)
    let caught := signals.caught.filter (· != signal)
    match disposition with
    | .default => { signals with ignored := ignored, caught := caught }
    | .ignored => { signals with ignored := signal :: ignored, caught := caught }
    | .caught => { signals with ignored := ignored, caught := signal :: caught }

/-- A signal has been taken note of. -/
def note (signals : Signals) (signal : Signal) : Signals :=
  if signals.arrived.contains signal then signals
  else { signals with arrived := signals.arrived ++ [signal] }

/-- What a copy of the process does about signals. -/
def forChild (signals : Signals) : Signals := { signals with arrived := [] }

/-- What the process does about signals when it becomes another program. -/
def afterExec (signals : Signals) : Signals := { signals with caught := [], arrived := [] }

end Signals

end LineShell
