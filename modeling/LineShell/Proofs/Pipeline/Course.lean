import LineShell.Shell.Execute
import LineShell.System.Process
import Mathlib.Tactic.Common

/-!
# The course of a pipeline

What the shell has still to do at each point of the way through a pipeline, and what the process
of a stage has. Each is a program that begins with a known request and goes on with the next one.

* **the shell** — `opening`, `laying`, `flushing`, `forking`, `releasing`, `waiting`, in this
  order, and then whatever comes `next`;
* **a stage** — `runStage`, `dropping`, `searching`;
* **`execute_bind`** — running a pipeline is going all the way.
-/

namespace LineShell.Course

open Prog

variable {α β : Type}

/-! ## The shell -/

section Shell

variable (command : String) (next : Except ExecFailure Report → Prog α)

/-- To wait for the children that are left, when the codes of those before them are known. -/
def waiting (codes : List Int) (left : List Pid) : Prog α :=
  (awaitAll left).bind fun
    | .error failure => next (.error failure)
    | .ok more => next (.ok ⟨command, codes ++ more⟩)

/-- To give up what is left of the plumbing, and to wait for the children. -/
def releasing (children : List Pid) (left : List Fd) : Prog α :=
  (Plumbing.closeAll left).bind fun _ => waiting command next [] children

/-- To start the stages that are left, and to give up the plumbing. -/
def forking (plumbing : Plumbing) (stage : Nat) (left : List (List Bytes)) (children : List Pid) :
    Prog α :=
  (start plumbing stage left children).bind fun
    | .error failure => next (.error failure)
    | .ok children => releasing command next children plumbing.descriptors

/-- To write what is held back, and to start the stages. -/
def flushing (programs : List (List Bytes)) (plumbing : Plumbing) : Prog α :=
  (call .flush).bind fun _ => forking command next plumbing 0 programs []

/-- To make so many pipes more, and to go on from there. -/
def laying (programs : List (List Bytes)) (count : Nat) (plumbing : Plumbing) : Prog α :=
  (Plumbing.lay count plumbing).bind fun
    | .error errno => next (.error (.pipe errno))
    | .ok plumbing => flushing command next programs plumbing

/-- To open the file for the output, and to go on from there. -/
def opening (programs : List (List Bytes)) (target : Option Target) : Prog α :=
  (openTarget target).bind fun
    | .error failure => next (.error failure)
    | .ok target => laying command next programs (programs.length - 1) ⟨[], target⟩

/-- Running a pipeline is going all the way, unless an argument holds a NUL. -/
theorem execute_bind (pipeline : Pipeline) : (execute pipeline command).bind next =
    match pipeline.stages.mapM Stage.argumentBytes with
    | .error word => next (.error (.nul word))
    | .ok programs => opening command next programs pipeline.target := by
  unfold execute
  cases pipeline.stages.mapM Stage.argumentBytes with
  | error word => rfl
  | ok programs =>
      show ((openTarget pipeline.target).bind _).bind next = _
      rw [Prog.bind_assoc]
      unfold opening
      congr 1
      funext opened
      cases opened with
      | error failure => rfl
      | ok target =>
          show ((Plumbing.lay (programs.length - 1) ⟨[], target⟩).bind _).bind next = _
          rw [Prog.bind_assoc]
          unfold laying
          congr 1
          funext laid
          cases laid with
          | error errno => rfl
          | ok plumbing =>
              show ((call .flush).bind _).bind next = _
              rw [Prog.bind_assoc]
              unfold flushing
              congr 1
              funext flushed
              show ((start plumbing 0 programs []).bind _).bind next = _
              rw [Prog.bind_assoc]
              unfold forking
              congr 1
              funext started
              cases started with
              | error failure => rfl
              | ok children =>
                  show ((Plumbing.closeAll plumbing.descriptors).bind _).bind next = _
                  rw [Prog.bind_assoc]
                  unfold releasing
                  congr 1
                  funext released
                  show ((awaitAll children).bind _).bind next = _
                  rw [Prog.bind_assoc]
                  unfold waiting
                  congr 1
                  funext awaited
                  cases awaited <;> rfl

/-- An interrupted attempt to open a file is made again. -/
def interrupted : Except Errno Fd → Bool
  | .error errno => errno == .interrupted
  | .ok _ => false

/-- To go on with the opened file, or to give up. -/
def opened (programs : List (List Bytes)) (failure : Errno → ExecFailure) :
    Except Errno Fd → Prog α
  | .ok fd => laying command next programs (programs.length - 1) ⟨[], some fd⟩
  | .error errno => next (.error (failure errno))

/-- The name of the target is opened, unless it holds a NUL. -/
theorem opening_some (programs : List (List Bytes)) (target : Target) :
    opening command next programs (some target) =
      match cleanBytes target.path with
      | .error _ => next (.error (.target target.path .nul))
      | .ok path => .ask (.openPath path target.mode.access true) interrupted
          (opened command next programs fun errno => .target target.path (.system errno)) := by
  show ((target.openFile).bind _).bind _ = _
  rw [Prog.bind_assoc]
  unfold Target.openFile
  cases cleanBytes target.path with
  | error word => rfl
  | ok path =>
      show Prog.ask _ _ _ = Prog.ask _ _ _
      congr 1
      · funext reply
        cases reply <;> rfl
      · funext reply
        cases reply <;> rfl

theorem laying_succ (programs : List (List Bytes)) (count : Nat) (plumbing : Plumbing) :
    laying command next programs (count + 1) plumbing = .ask .pipe (fun _ => false) fun
      | .ok ends =>
          laying command next programs count { plumbing with pipes := plumbing.pipes ++ [ends] }
      | .error errno => plumbing.release.bind fun _ => next (.error (.pipe errno)) := by
  show Prog.ask _ _ _ = _
  congr 1
  funext answer
  cases answer with
  | ok ends => rfl
  | error errno =>
      show (plumbing.release.bind _).bind _ = _
      rw [Prog.bind_assoc]
      rfl

theorem waiting_nil (codes : List Int) :
    waiting command next codes [] = next (.ok ⟨command, codes⟩) := by
  show next (.ok ⟨command, codes ++ []⟩) = _
  rw [List.append_nil]

/-- The shell waits for a child until it has ended. It goes on with the others if the ending
stands for a code. -/
theorem waiting_cons (codes : List Int) (child : Pid) (left : List Pid) :
    waiting command next codes (child :: left) =
      (waitFor child).bind fun
        | .ok (_, .ended ending) =>
            match ending.code? with
            | .ok code => waiting command next (codes ++ [code]) left
            | .error errno => next (.error (.wait errno))
        | .ok (_, .stopped _) => next (.error (.wait .invalid))
        | .ok (_, .continued) => next (.error (.wait .invalid))
        | .error errno => next (.error (.wait errno)) := by
  unfold waiting
  show ((awaitCode child).bind _).bind _ = _
  rw [Prog.bind_assoc]
  show ((waitFor child).bind _).bind _ = _
  rw [Prog.bind_assoc]
  congr 1
  funext answer
  rcases answer with errno | ⟨pid, ending | signal | _⟩
  · rfl
  · show Prog.bind (.pure ending.code?) _ = _
    cases hcode : ending.code? with
    | error errno =>
        simp only [hcode]
        rfl
    | ok code =>
        simp only [hcode]
        show ((awaitAll left).bind _).bind _ = _
        rw [Prog.bind_assoc]
        show _ = (awaitAll left).bind _
        congr 1
        funext awaited
        cases awaited with
        | error failure => rfl
        | ok codes' =>
            show next (.ok ⟨command, codes ++ code :: codes'⟩) =
              next (.ok ⟨command, codes ++ [code] ++ codes'⟩)
            rw [List.append_assoc, List.singleton_append]
  · rfl
  · rfl

/-- Whatever it is told, the shell waits again, goes on with the next child, or gives up. -/
theorem waiting_proceeds (codes : List Int) (child : Pid) (left : List Pid)
    (reply : Except Errno (Pid × ChildNews)) {again : Except Errno (Pid × ChildNews) → Bool}
    {rest : Except Errno (Pid × ChildNews) → Prog α}
    (h : waiting command next codes (child :: left) = .ask (.wait (some child)) again rest) :
    Process.proceed (.wait (some child)) again rest reply =
        waiting command next codes (child :: left) ∨
      (∃ pid ending code, reply = .ok (pid, .ended ending) ∧ ending.code? = .ok code ∧
        Process.proceed (.wait (some child)) again rest reply =
          waiting command next (codes ++ [code]) left) ∨
      ∃ errno, Process.proceed (.wait (some child)) again rest reply =
        next (.error (.wait errno)) := by
  have hask := h
  rw [waiting_cons] at hask
  change Prog.ask _ _ _ = Prog.ask _ _ _ at hask
  cases hask
  unfold Process.proceed
  rcases reply with errno | ⟨pid, ending | signal | _⟩
  · by_cases hagain : (errno == Errno.interrupted) = true
    · exact .inl ((if_pos hagain).trans h.symm)
    · exact .inr (.inr ⟨errno, if_neg hagain⟩)
  · refine .inr ?_
    cases hcode : ending.code? with
    | error errno =>
        refine .inr ⟨errno, (if_neg Bool.false_ne_true).trans ?_⟩
        show (match ending.code? with | .ok code => _ | .error errno => _) = _
        rw [hcode]
    | ok code =>
        refine .inl ⟨pid, ending, code, rfl, hcode, (if_neg Bool.false_ne_true).trans ?_⟩
        show (match ending.code? with | .ok code => _ | .error errno => _) = _
        rw [hcode]
  · exact .inl ((if_pos rfl).trans h.symm)
  · exact .inl ((if_pos rfl).trans h.symm)

end Shell

/-! ## A stage -/

/-- To become the program, or to say that there is none. -/
def searching (arguments : List Bytes) : Prog α :=
  (execByName (arguments.headD []) arguments).bind fun _ =>
    (complain (Text.bytesOf "Error: command not found\n")).bind fun _ => exit notFoundCode

/-- What is to be done when the standard streams have been replaced, or could not be. -/
def settled (arguments : List Bytes) : Except Errno Unit → Prog α
  | .error _ =>
      (complain (Text.bytesOf "Error: cannot set up pipeline\n")).bind fun _ => exit setupCode
  | .ok () => searching arguments

/-- To give up what is left of the plumbing, and to go on from there. -/
def dropping (arguments : List Bytes) (wired : Except Errno Unit) (left : List Fd) : Prog α :=
  (Plumbing.closeAll left).bind fun _ => settled arguments wired

/-- To replace the standard output and to go on from there, unless the standard input could not be
replaced. -/
def inputWired (plumbing : Plumbing) (stage : Nat) (arguments : List Bytes) :
    Except Errno Unit → Prog α
  | .error errno => dropping arguments (.error errno) plumbing.descriptors
  | .ok () => (wire (plumbing.outputOf stage) Fd.stdout).bind fun wired =>
      dropping arguments wired plumbing.descriptors

theorem runStage_eq_wire (plumbing : Plumbing) (stage : Nat) (arguments : List Bytes) :
    runStage (α := α) plumbing stage arguments =
      (wire (plumbing.inputOf stage) Fd.stdin).bind (inputWired plumbing stage arguments) := by
  show ((wire (plumbing.inputOf stage) Fd.stdin).bind _).bind _ = _
  rw [Prog.bind_assoc]
  congr 1
  funext wired
  cases wired <;> rfl

theorem runStage_eq (plumbing : Plumbing) (stage : Nat) (arguments : List Bytes) :
    runStage (α := α) plumbing stage arguments =
      (wireStage plumbing stage).bind fun wired =>
        dropping arguments wired plumbing.descriptors := by
  show (wireStage plumbing stage).bind _ = _
  unfold dropping
  congr 1

/-- Nothing comes after an exit. -/
theorem exit_bind (code : Int) (rest : α → Prog β) : (exit code).bind rest = exit code := by
  show Prog.ask _ _ _ = Prog.ask _ _ _
  congr 1
  funext answer
  exact answer.elim

/-- Nothing comes after the process of a stage. -/
theorem runStage_bind (plumbing : Plumbing) (stage : Nat) (arguments : List Bytes)
    (rest : α → Prog β) :
    (runStage plumbing stage arguments).bind rest = runStage plumbing stage arguments := by
  rw [runStage_eq, runStage_eq, Prog.bind_assoc]
  congr 1
  funext wired
  unfold dropping
  rw [Prog.bind_assoc]
  congr 1
  funext released
  cases wired with
  | error errno =>
      show ((complain _).bind _).bind rest = (complain _).bind _
      rw [Prog.bind_assoc]
      congr 1
      funext complained
      exact exit_bind _ _
  | ok done =>
      show ((execByName _ _).bind _).bind rest = (execByName _ _).bind _
      rw [Prog.bind_assoc]
      congr 1
      funext failed
      rw [Prog.bind_assoc]
      congr 1
      funext complained
      exact exit_bind _ _

section Forking

variable (command : String) (next : Except ExecFailure Report → Prog α)

/-- The shell forks for the next stage and goes on with the others; the new process is that of
the stage. -/
theorem forking_cons (plumbing : Plumbing) (stage : Nat) (arguments : List Bytes)
    (left : List (List Bytes)) (children : List Pid) :
    forking command next plumbing stage (arguments :: left) children =
      .ask .fork (fun _ => false) fun
        | .ok (.parent child) =>
            forking command next plumbing (stage + 1) left (children ++ [child])
        | .ok .child => runStage plumbing stage arguments
        | .error errno =>
            plumbing.release.bind fun _ => (reap children).bind fun _ =>
              next (.error (.fork errno)) := by
  show Prog.ask _ _ _ = _
  congr 1
  funext answer
  rcases answer with errno | child | _
  · show (plumbing.release.bind _).bind _ = _
    rw [Prog.bind_assoc]
    congr 1
    funext released
    show ((reap children).bind _).bind _ = _
    rw [Prog.bind_assoc]
    rfl
  · rfl
  · exact runStage_bind _ _ _ _

end Forking

end LineShell.Course
