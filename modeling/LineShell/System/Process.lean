import LineShell.System.Program

/-!
# Processes and their open files

- **`Handle`** is an open file, as all the numbers that stand for it share it.
- **`Table`** says what the numbers of a process stand for, in the order of the numbers.
- **`Process`** is a program under way.
-/

namespace LineShell

/-- The number of a pipe. -/
abbrev PipeId := Nat

/-- What an open file leads to. -/
inductive Endpoint where
  /-- A node of the file store. -/
  | node (id : NodeId)
  /-- The end of a pipe that is read. -/
  | pipeReader (pipe : PipeId)
  /-- The end of a pipe that is written. -/
  | pipeWriter (pipe : PipeId)
  /-- The terminal. -/
  | terminal
  deriving DecidableEq, Repr, Inhabited

/-- An open file. The cell holds its position, which all its numbers share. -/
structure Handle where
  /-- What it leads to. -/
  endpoint : Endpoint
  /-- What may be done with it. -/
  access : Access
  /-- The cell that holds its position. -/
  cell : Nat
  deriving DecidableEq, Repr, Inhabited

/-- What a number stands for in a process. -/
structure Descriptor where
  /-- The open file. -/
  handle : Handle
  /-- The number is given up when the process becomes another program. -/
  closeOnExec : Bool
  deriving DecidableEq, Repr, Inhabited

/-- What the numbers of a process stand for, in the order of the numbers. -/
abbrev Table := List (Fd × Descriptor)

namespace Table

/-- What a number stands for. -/
def get? (table : Table) (fd : Fd) : Option Descriptor := table.lookup fd

/-- The table in which a number stands for something. -/
def set (fd : Fd) (descriptor : Descriptor) : Table → Table
  | [] => [(fd, descriptor)]
  | (other, held) :: rest =>
      if fd < other then (fd, descriptor) :: (other, held) :: rest
      else if fd = other then (fd, descriptor) :: rest
      else (other, held) :: set fd descriptor rest

/-- The table in which a number stands for nothing. -/
def erase (fd : Fd) (table : Table) : Table := table.filter fun entry => entry.1 != fd

/-- The least number that is not below the given one and stands for nothing. -/
def freeFrom : (least : Fd) → Table → Fd
  | least, [] => least
  | least, (fd, _) :: rest => if fd = least then freeFrom (least + 1) rest else freeFrom least rest

/-- The least number that stands for nothing. -/
def free (table : Table) : Fd := freeFrom 0 table

/-- The table of a process that becomes another program. -/
def afterExec (table : Table) : Table := table.filter fun entry => !entry.2.closeOnExec

/-- Some number stands for an open file with the given endpoint. -/
def holds (table : Table) (endpoint : Endpoint) : Bool :=
  table.any fun entry => entry.2.handle.endpoint == endpoint

end Table

/-- A process. -/
structure Process (α : Type) where
  /-- Its number. -/
  pid : Pid
  /-- The number of the process that made it. -/
  parent : Pid
  /-- What it has still to do. -/
  program : Prog α
  /-- Its open files. -/
  table : Table
  /-- Its numbers of open files stay below this. -/
  limit : Nat
  /-- Its directory. -/
  directory : NodeId
  /-- Its variables. -/
  bindings : Variables
  /-- What it holds back for its standard output. -/
  pending : Bytes
  /-- The permission bits that are withheld from new files. -/
  mask : Nat := Files.usualMask
  /-- What it does about signals. -/
  signals : Signals := {}
  /-- A signal has stopped it, and none has made it go on since. -/
  halted : Bool := false
  /-- How it has ended, if it has. -/
  ending : Option Ending

namespace Process

/-- The process goes on with an answer to what it asked. -/
def proceed {α : Type} (call : Call) (again : call.Result → Bool) (next : call.Result → Prog α)
    (answer : call.Result) : Prog α :=
  if again answer then .ask call again next else next answer

/-- The process has ended: its files are closed and what it held back is lost. -/
def finish {α : Type} (process : Process α) (ending : Ending) : Process α :=
  { process with ending := some ending, table := [], pending := [] }

/-- The process is under way. -/
def alive {α : Type} (process : Process α) : Bool := process.ending.isNone

/-- The process is under way and has not been stopped. -/
def active {α : Type} (process : Process α) : Bool := process.alive && !process.halted

end Process

end LineShell
