import LineShell.System.Files
import LineShell.System.Signal

/-!
# Programs

A program is what it asks of the system, and how it goes on with each answer.

- **`Call`** lists what can be asked, and **`Call.Result`** says what the answer to each is.
- **`Prog`** is a program that ends with a value. It may repeat a request for as long as the
  answers are of no use, and it may repeat a part of itself, so it can run without a bound.
-/

namespace LineShell

/-- The number by which a process knows an open file. -/
abbrev Fd := Nat

/-- The number of a process. -/
abbrev Pid := Nat

/-- The variables that a process hands to the programs it becomes. -/
abbrev Variables := List (Bytes × Bytes)

/-- Standard input. -/
def Fd.stdin : Fd := 0

/-- Standard output. -/
def Fd.stdout : Fd := 1

/-- Standard error. -/
def Fd.stderr : Fd := 2

/-- How a process has ended. -/
inductive Ending where
  /-- It has exited with a code. -/
  | exited (code : Nat)
  /-- A signal has killed it. -/
  | killed (signal : Signal)
  deriving DecidableEq, Repr, Inhabited

/-- What is told to a process that waits for a child. -/
inductive ChildNews where
  /-- The child has ended. -/
  | ended (ending : Ending)
  /-- A signal has stopped it. -/
  | stopped (signal : Signal)
  /-- It goes on after a stop. -/
  | continued
  deriving DecidableEq, Repr, Inhabited

/-- On which side of a fork a process finds itself. -/
inductive ForkSide where
  /-- The process that asked. -/
  | parent (child : Pid)
  /-- The new process. -/
  | child
  deriving DecidableEq, Repr, Inhabited

/-- What a process can learn of a node. -/
structure Status where
  /-- The number of the node. -/
  id : NodeId
  /-- The node itself. -/
  node : Node
  /-- How many names it has. -/
  links : Nat := 1
  deriving DecidableEq, Repr, Inhabited

/-- What an open file is. -/
inductive FileKind where
  /-- A node of the file store. -/
  | node (status : Status)
  /-- An end of a pipe. -/
  | pipe
  /-- A terminal. -/
  | terminal
  deriving DecidableEq, Repr, Inhabited

/-- From where a new position is counted. -/
inductive Seek where
  /-- From the beginning. -/
  | start (position : Nat)
  /-- Backwards from the present position. -/
  | back (distance : Nat)
  /-- Forwards from the present position. -/
  | ahead (distance : Nat)
  deriving DecidableEq, Repr, Inhabited

/-- What a program can ask of the system. -/
inductive Call where
  /-- Open a path. -/
  | openPath (path : Bytes) (access : Access) (closeOnExec : Bool)
  /-- Give up an open file. -/
  | close (fd : Fd)
  /-- Make a pipe, both ends of which are closed when the process becomes another program. -/
  | pipe
  /-- Let the second number stand for what the first one stands for. -/
  | duplicate (source target : Fd)
  /-- Let a free number that is not below the given one stand for an open file too. -/
  | duplicateAbove (source minimum : Fd)
  /-- Make a copy of the process. -/
  | fork
  /-- Become the program in a file. -/
  | exec (path : Bytes) (arguments : List Bytes) (bindings : Variables)
  /-- End. -/
  | exit (code : Int)
  /-- Wait for a child, or for any. -/
  | wait (child : Option Pid)
  /-- Read some bytes; none are left when none come. -/
  | read (fd : Fd) (count : Nat)
  /-- Read everything up to the end, behind what has been read so far, the last part of which
  comes first. -/
  | readAll (fd : Fd) (sofar : List Bytes)
  /-- Write all the bytes. -/
  | write (fd : Fd) (bytes : Bytes)
  /-- Move the position of an open file, and learn where it is then. -/
  | seek (fd : Fd) (move : Seek)
  /-- Let an open file hold so many bytes, further ones being NULs. -/
  | resize (fd : Fd) (size : Nat)
  /-- Hold bytes back for standard output. -/
  | put (bytes : Bytes)
  /-- Write to standard output what has been held back. -/
  | flush
  /-- Move to another directory. -/
  | changeDirectory (path : Bytes)
  /-- The path of the process's directory. -/
  | currentDirectory
  /-- The path without links that leads to where a path leads. -/
  | canonical (path : Bytes)
  /-- The names in a directory. -/
  | names (path : Bytes)
  /-- What a path leads to, the link itself if it leads to a link that is not to be followed. -/
  | status (path : Bytes) (follow : Bool)
  /-- What an open file is. -/
  | kind (fd : Fd)
  /-- Learn whether a permission, given by its bit for the owner, is granted on what a path leads
  to. -/
  | mayUse (path : Bytes) (bit : Nat)
  /-- Make a directory with the given permission bits. -/
  | makeDirectory (path : Bytes) (mode : Nat)
  /-- Remove an empty directory. -/
  | removeDirectory (path : Bytes)
  /-- Remove the name of a file. -/
  | unlink (path : Bytes)
  /-- Give a file a further name. -/
  | hardLink (source path : Bytes)
  /-- Make a symbolic link. -/
  | makeLink (target path : Bytes)
  /-- Give a node another name. -/
  | rename (source path : Bytes)
  /-- Give a node other permission bits. -/
  | setMode (path : Bytes) (mode : Nat)
  /-- Let a node count as changed at a time, or now. -/
  | setTime (path : Bytes) (follow : Bool) (time : Option Nat)
  /-- Withhold other permission bits from new files, and learn which it were before. -/
  | setMask (mask : Nat)
  /-- Learn how many files may be open at once. -/
  | limit
  /-- Let another number of files be open at once. -/
  | setLimit (limit : Nat)
  /-- The number of the process. -/
  | processId
  /-- The number of the process that made it. -/
  | parentId
  /-- Send a signal to a process. -/
  | kill (target : Pid) (signal : Signal)
  /-- Do something else about a signal, and learn what was done before. -/
  | dispose (signal : Signal) (disposition : Disposition)
  /-- Look at the signals that have been taken note of since the last time. -/
  | arrived
  /-- Wait for any child, or for a signal that is taken note of. -/
  | waitOrSignal
  /-- Learn of a child that has ended, if there is one. -/
  | poll
  /-- The time, in milliseconds. -/
  | now
  /-- Do nothing before a time. -/
  | sleepUntil (time : Nat)
  /-- The variables of the process. -/
  | bindings
  deriving DecidableEq, Repr, Inhabited

/-- The answer to a request. -/
@[reducible] def Call.Result : Call → Type
  | .openPath .. => Except Errno Fd
  | .close _ => Except Errno Unit
  | .pipe => Except Errno (Fd × Fd)
  | .duplicate .. => Except Errno Unit
  | .duplicateAbove .. => Except Errno Fd
  | .fork => Except Errno ForkSide
  | .exec .. => Errno
  | .exit _ => Empty
  | .wait _ => Except Errno (Pid × ChildNews)
  | .read .. => Except Errno Bytes
  | .readAll .. => Except Errno Bytes
  | .write .. => Except Errno Unit
  | .seek .. => Except Errno Nat
  | .resize .. => Except Errno Unit
  | .put _ => Unit
  | .flush => Except Errno Unit
  | .changeDirectory _ => Except Errno Unit
  | .currentDirectory => Except Errno Bytes
  | .canonical _ => Except Errno Bytes
  | .names _ => Except Errno (List Bytes)
  | .status .. => Except Errno Status
  | .kind _ => Except Errno FileKind
  | .mayUse .. => Except Errno Unit
  | .makeDirectory .. => Except Errno Unit
  | .removeDirectory _ => Except Errno Unit
  | .unlink _ => Except Errno Unit
  | .hardLink .. => Except Errno Unit
  | .makeLink .. => Except Errno Unit
  | .rename .. => Except Errno Unit
  | .setMode .. => Except Errno Unit
  | .setTime .. => Except Errno Unit
  | .setMask _ => Nat
  | .limit => Nat
  | .setLimit _ => Unit
  | .processId => Pid
  | .parentId => Pid
  | .kill .. => Except Errno Unit
  | .dispose .. => Disposition
  | .arrived => List Signal
  | .waitOrSignal => Except Errno (Pid × ChildNews)
  | .poll => Except Errno (Option (Pid × ChildNews))
  | .now => Nat
  | .sleepUntil _ => Unit
  | .bindings => Variables

/-- A program that ends with a value. -/
inductive Prog : Type → Type 1 where
  /-- The program has ended. -/
  | pure {α : Type} (value : α) : Prog α
  /-- The program asks, again and again while `again` holds of the answer, and goes on. -/
  | ask {α : Type} (call : Call) (again : call.Result → Bool) (next : call.Result → Prog α) :
      Prog α
  /-- The program repeats a body, each time with the state the last time has led to, until the
  body comes to a value, and goes on with that. -/
  | loop {σ β α : Type} (body : σ → Prog (σ ⊕ β)) (state : σ) (next : β → Prog α) : Prog α

namespace Prog

/-- One program, and then another that depends on its value. -/
def bind {α β : Type} : Prog α → (α → Prog β) → Prog β
  | .pure value, rest => rest value
  | .ask call again next, rest => .ask call again fun answer => (next answer).bind rest
  | .loop body state next, rest => .loop body state fun value => (next value).bind rest

/-- Programs are put together by `do`. -/
instance : Monad Prog where
  pure := .pure
  bind := bind

/-- A single request. -/
def call (request : Call) : Prog request.Result := .ask request (fun _ => false) .pure

/-- A request that is repeated while its answer is to be ignored. -/
def callUntil (request : Call) (again : request.Result → Bool) : Prog request.Result :=
  .ask request again .pure

/-- Ends the process; nothing comes after that. -/
def exit {α : Type} (code : Int) : Prog α :=
  .ask (.exit code) (fun _ => false) fun answer => nomatch answer

/-- Repeats a body until it comes to a value. -/
def iterate {σ α : Type} (body : σ → Prog (σ ⊕ α)) (state : σ) : Prog α := .loop body state .pure

/-- What a loop comes to when its body has been run once. -/
def unroll {σ β α : Type} (body : σ → Prog (σ ⊕ β)) (state : σ) (next : β → Prog α) : Prog α :=
  (body state).bind fun
    | .inl later => .loop body later next
    | .inr value => next value

/-- To go on with nothing changes nothing. -/
theorem bind_pure {α : Type} (program : Prog α) : program.bind .pure = program := by
  induction program with
  | pure value => rfl
  | ask call again next ih => simp only [bind, ih]
  | loop body state next _ ih => simp only [bind, ih]

/-- Three programs in a row can be grouped either way. -/
theorem bind_assoc {α β γ : Type} (program : Prog α) (second : α → Prog β)
    (third : β → Prog γ) :
    (program.bind second).bind third = program.bind fun value => (second value).bind third := by
  induction program with
  | pure value => rfl
  | ask call again next ih => simp only [bind, ih]
  | loop body state next _ ih => simp only [bind, ih]

/-! ## Common requests -/

/-- Writes all the bytes to an open file. -/
def write (fd : Fd) (bytes : Bytes) : Prog (Except Errno Unit) := call (.write fd bytes)

/-- Writes text to standard error, whatever comes of it. -/
def complain (text : Bytes) : Prog Unit := do
  let _ ← call (.write Fd.stderr text)
  return ()

/-- Reads everything up to the end. -/
def readAll (fd : Fd) : Prog (Except Errno Bytes) := call (.readAll fd [])

/-- The value of a variable. -/
def valueOf (name : Bytes) : Prog (Option Bytes) := do
  let bindings ← call .bindings
  return bindings.lookup name

/-- Waits until a child has ended, or cannot be waited for. Interruptions and children that have
not ended are no answer. -/
def waitFor (child : Pid) : Prog (Except Errno (Pid × ChildNews)) :=
  callUntil (.wait (some child)) fun
    | .error errno => errno == .interrupted
    | .ok (_, .ended _) => false
    | .ok _ => true

end Prog

end LineShell
