import LineShell.Shell.Redirection
import LineShell.Shell.Report
import LineShell.System.Search

/-!
# Running a pipeline

One process is started for each stage; a pipe joins each stage to the next one, and the last
stage writes to the file of the redirection, if there is one. The shell gives up its own ends
before it waits, and it waits for the stages in their order.

- **`Plumbing`** is what the shell opens for a pipeline.
- **`runStage`** is what the process of a stage does until it becomes the program.
- **`execute`** runs a pipeline and reports one exit code for each stage.
-/

namespace LineShell

/-- The exit code of a stage whose program cannot be run. -/
def notFoundCode : Int := 127

/-- The exit code of a stage whose standard streams cannot be set up. -/
def setupCode : Int := 126

/-- What is added to the number of the signal that has killed a stage. -/
def signalBase : Int := 128

/-- The greatest signal that has a meaning to the shell. -/
def lastNamedSignal : Nat := 31

/-- The files that the shell opens for a pipeline. -/
structure Plumbing where
  /-- The pipes, each with the end that is read and the end that is written; the one at place
  `i` leads from stage `i` to stage `i + 1`. -/
  pipes : List (Fd × Fd)
  /-- The file for the output of the last stage. -/
  target : Option Fd
  deriving DecidableEq, Repr, Inhabited

namespace Plumbing

/-- What replaces the standard input of a stage. -/
def inputOf (plumbing : Plumbing) : (stage : Nat) → Option Fd
  | 0 => none
  | before + 1 => plumbing.pipes[before]?.map (·.1)

/-- What replaces the standard output of a stage. -/
def outputOf (plumbing : Plumbing) (stage : Nat) : Option Fd :=
  match plumbing.pipes[stage]? with
  | some ends => some ends.2
  | none => plumbing.target

/-- The numbers of all the files, in the order in which they are given up. -/
def descriptors (plumbing : Plumbing) : List Fd :=
  (plumbing.pipes.flatMap fun ends => [ends.1, ends.2]) ++ plumbing.target.toList

/-- Gives up open files. -/
def closeAll : List Fd → Prog Unit
  | [] => pure ()
  | fd :: rest => do
      let _ ← Prog.call (.close fd)
      closeAll rest

/-- Gives up everything. -/
def release (plumbing : Plumbing) : Prog Unit := closeAll plumbing.descriptors

/-- Adds so many pipes, or gives everything up when one of them cannot be made. -/
def lay : (count : Nat) → Plumbing → Prog (Except Errno Plumbing)
  | 0, plumbing => pure (.ok plumbing)
  | count + 1, plumbing => do
      match ← Prog.call .pipe with
      | .ok ends => lay count { plumbing with pipes := plumbing.pipes ++ [ends] }
      | .error errno =>
          plumbing.release
          return .error errno

end Plumbing

/-- Lets a standard stream be replaced. -/
def wire (source : Option Fd) (stream : Fd) : Prog (Except Errno Unit) :=
  match source with
  | some fd => if fd = stream then pure (.ok ()) else Prog.call (.duplicate fd stream)
  | none => pure (.ok ())

/-- Both standard streams of a stage are replaced where they have to be. -/
def wireStage (plumbing : Plumbing) (stage : Nat) : Prog (Except Errno Unit) := do
  match ← wire (plumbing.inputOf stage) Fd.stdin with
  | .error errno => return .error errno
  | .ok () => wire (plumbing.outputOf stage) Fd.stdout

/-- The process of a stage: it replaces its standard streams, gives up everything else that was
opened for the pipeline, and becomes the program. -/
def runStage {α : Type} (plumbing : Plumbing) (stage : Nat) (arguments : List Bytes) :
    Prog α := do
  let wired ← wireStage plumbing stage
  -- whoever reads a pipe finds its end only when nobody holds the other side any more
  plumbing.release
  match wired with
  | .error _ =>
      Prog.complain (Text.bytesOf "Error: cannot set up pipeline\n")
      Prog.exit setupCode
  | .ok () =>
      let _ ← Prog.execByName (arguments.headD []) arguments
      Prog.complain (Text.bytesOf "Error: command not found\n")
      Prog.exit notFoundCode

/-- The exit code that an ending stands for. A signal without a name stands for none. -/
def Ending.code? : Ending → Except Errno Int
  | .exited code => .ok code
  | .killed signal =>
      if signal ≤ lastNamedSignal then .ok (signalBase + signal) else .error .invalid

/-- The exit code of a child, once it has ended. -/
def awaitCode (child : Pid) : Prog (Except Errno Int) := do
  match ← Prog.waitFor child with
  | .ok (_, .ended ending) => return ending.code?
  | .ok (_, .stopped _) => return .error .invalid
  | .ok (_, .continued) => return .error .invalid
  | .error errno => return .error errno

/-- The exit codes of children, waiting for one after the other. -/
def awaitAll : List Pid → Prog (Except ExecFailure (List Int))
  | [] => pure (.ok [])
  | child :: rest => do
      match ← awaitCode child with
      | .error errno => return .error (.wait errno)
      | .ok code =>
          match ← awaitAll rest with
          | .error failure => return .error failure
          | .ok codes => return .ok (code :: codes)

/-- Waits for children whose exit codes do not matter. -/
def reap : List Pid → Prog Unit
  | [] => pure ()
  | child :: rest => do
      let _ ← awaitCode child
      reap rest

/-- Starts a process for each stage, and gives back their numbers. When one cannot be started,
those that were started are waited for. -/
def start (plumbing : Plumbing) :
    (stage : Nat) → List (List Bytes) → (children : List Pid) →
      Prog (Except ExecFailure (List Pid))
  | _, [], children => pure (.ok children)
  | stage, arguments :: rest, children => do
      match ← Prog.call .fork with
      | .ok (.parent child) => start plumbing (stage + 1) rest (children ++ [child])
      | .ok .child => runStage plumbing stage arguments
      | .error errno =>
          -- the stages that were started end when nobody writes to them
          plumbing.release
          reap children
          return .error (.fork errno)

/-- The arguments of a stage as the program receives them. -/
def Stage.argumentBytes (stage : Stage) : Except NulWord (List Bytes) :=
  stage.arguments.mapM cleanBytes

/-- Opens the file for the output of a pipeline, if it names one. -/
def openTarget : Option Target → Prog (Except ExecFailure (Option Fd))
  | none => pure (.ok none)
  | some target => do
      match ← target.openFile with
      | .ok fd => return .ok (some fd)
      | .error cause => return .error (.target target.path cause)

/-- Runs a pipeline to its end and reports one exit code for each stage. The command is the text
that the report repeats. -/
def execute (pipeline : Pipeline) (command : String) : Prog (Except ExecFailure Report) :=
  match pipeline.stages.mapM Stage.argumentBytes with
  | .error word => pure (.error (.nul word))
  | .ok programs => do
      match ← openTarget pipeline.target with
      | .error failure => return .error failure
      | .ok target =>
          match ← Plumbing.lay (programs.length - 1) ⟨[], target⟩ with
          | .error errno => return .error (.pipe errno)
          | .ok plumbing =>
              -- every process that is started has what is held back, too, and would write it again
              let _ ← Prog.call .flush
              match ← start plumbing 0 programs [] with
              | .error failure => return .error failure
              | .ok children =>
                  plumbing.release
                  match ← awaitAll children with
                  | .error failure => return .error failure
                  | .ok codes => return .ok ⟨command, codes⟩

end LineShell
