import LineShell.Proofs.Line.Agreement
import LineShell.Proofs.Line.Scan
import LineShell.Proofs.Pipeline.Promise
import LineShell.Shell.Interpreter

/-!
# The course of a line

What the shell has still to do while it runs a line of programs.

* **`running`, `probed`, `finishing`** — the points on the way before and behind those of the
  pipeline;
* **`runLine_eq`** — running a line that spells a pipeline is going all this way;
* **`Forsaken`** — the shell has left the way, and will not say that the line has been run.
-/

namespace LineShell.Course

open Prog

/-- What a line comes to, and what lasts from it. -/
abbrev Answer := Except ExecFailure Verdict × Environment

section Line

variable (environment : Environment) (text : String) (pipeline : Pipeline)

/-- To refuse the line. -/
def refusing (message : String) : Prog Answer :=
  (Shell.reject message).bind fun verdict => .pure (.ok verdict, environment)

/-- To report what the pipeline has come to. -/
def finishing : Except ExecFailure Report → Prog Answer
  | .ok report => (Shell.complete report).bind fun verdict => .pure (.ok verdict, environment)
  | .error failure =>
      if failure.fatal then .pure (.error failure, environment)
      else match failure with
        | .target .. => refusing environment LineFault.cannotOpenFile.message
        | _ => refusing environment failure.message

/-- To write what is held back, and to run the pipeline. -/
def running : Prog Answer :=
  .ask .flush (fun _ => false) fun _ => (execute pipeline text).bind (finishing environment)

/-- To give up the file that could be opened, and to go on, or to refuse the line. -/
def probed : Except Errno Fd → Prog Answer
  | .ok fd => .ask (.close fd) (fun _ => false) fun _ => running environment text pipeline
  | .error _ => refusing environment LineFault.cannotOpenFile.message

/-- To see whether the file for the output can be opened, and to go on. -/
def probing : Prog Answer :=
  match pipeline.target with
  | none => running environment text pipeline
  | some target =>
      match cleanBytes target.path with
      | .error _ => refusing environment LineFault.cannotOpenFile.message
      | .ok path => .ask (.openPath path target.mode.access true) interrupted
          (probed environment text pipeline)

end Line

/-- The target of a pipeline is the redirection at the end of the line. -/
theorem target_of_ofTokens {limit : Nat} {tokens : List Token} {pipeline : Pipeline}
    (h : Pipeline.ofTokens limit tokens = .ok pipeline) :
    pipeline.target = Structure.target? tokens := by
  obtain ⟨rest, hdetach, -, -⟩ := Pipeline.parts_of_ofTokens h
  rw [(Pipeline.detach_eq_ok hdetach).1, ← Pipeline.target?_eq]

/-- A line that spells a pipeline is not blank. -/
theorem isEmpty_of_ofTokens {limit : Nat} {text : String} {pipeline : Pipeline}
    (h : Pipeline.ofTokens limit (Token.ofLine text) = .ok pipeline) : text.isEmpty = false := by
  cases hempty : text.isEmpty with
  | false => rfl
  | true =>
      have hcheck := (Pipeline.check_of_ofTokens h).1
      rw [String.isEmpty_iff.mp hempty, Token.ofLine, show "".toList = [] from rfl, Token.scan_nil]
        at hcheck
      exact absurd hcheck (by decide)

/-- To run the command of the shell that a pipeline asks for, or the pipeline. -/
def serving (shell : Shell) (environment : Environment) (text : String) (pipeline : Pipeline) :
    Prog Answer :=
  match pipeline.simple?.bind shell.commands.find? with
  | some command => (Shell.runCommand command environment text).bind fun answer =>
      .pure (.ok answer.1, answer.2)
  | none => (Shell.runPipeline pipeline text).bind fun verdict => .pure (verdict, environment)

/-- Where no command of the shell is asked for, the pipeline is run. -/
theorem serving_eq {shell : Shell} {pipeline : Pipeline}
    (h : pipeline.simple?.bind shell.commands.find? = none) (environment : Environment)
    (text : String) :
    serving shell environment text pipeline = running environment text pipeline := by
  unfold serving
  rw [h]
  show Prog.ask _ _ _ = Prog.ask _ _ _
  congr 1
  funext flushed
  show ((execute pipeline text).bind _).bind _ = (execute pipeline text).bind _
  rw [Prog.bind_assoc]
  congr 1
  funext outcome
  cases outcome with
  | ok report => rfl
  | error failure => cases failure <;> rfl

/-- Running a line that spells a pipeline of programs is going all the way. -/
theorem runLine_eq {shell : Shell} {environment : Environment} {line : String} {pipeline : Pipeline}
    (hparsed : Pipeline.ofTokens shell.config.maxArguments
      (Token.ofLine (Text.trimString line)) = .ok pipeline)
    (hprograms : pipeline.simple?.bind shell.commands.find? = none) :
    shell.runLine environment line = probing environment (Text.trimString line) pipeline := by
  have hcheck := (Pipeline.check_of_ofTokens hparsed).1
  unfold Shell.runLine Shell.readLine inspect
  dsimp only
  rw [isEmpty_of_ofTokens hparsed, hcheck, ← target_of_ofTokens hparsed, hparsed]
  unfold probing
  cases pipeline.target with
  | none =>
      show serving shell environment _ pipeline = _
      exact serving_eq hprograms environment _
  | some target =>
      show (((target.openFile).bind _).bind _).bind _ = _
      rw [Prog.bind_assoc, Prog.bind_assoc]
      unfold Target.openFile
      dsimp only
      cases cleanBytes target.path with
      | error word => rfl
      | ok path =>
          show Prog.ask _ _ _ = Prog.ask _ _ _
          congr 1
          · funext reply
            cases reply <;> rfl
          · funext reply
            cases reply with
            | error errno => rfl
            | ok fd =>
                show Prog.ask _ _ _ = Prog.ask _ _ _
                congr 1
                funext closed
                show serving shell environment _ pipeline = _
                exact serving_eq hprograms environment _

/-! ## Off the way -/

/-- The shell gives up numbers and writes, whatever it is answered, and ends without saying that
the line has been run. -/
inductive Forsaken : Prog Answer → Prop
  | finished {outcome : Except ExecFailure Verdict} {environment : Environment} :
      (∀ report, outcome ≠ .ok (.completed report)) → Forsaken (.pure (outcome, environment))
  | close {fd again next} : (∀ answer, Forsaken (next answer)) →
      Forsaken (.ask (.close fd) again next)
  | write {fd bytes again next} : (∀ answer, Forsaken (next answer)) →
      Forsaken (.ask (.write fd bytes) again next)

theorem forsaken_refusing (environment : Environment) (message : String) :
    Forsaken (refusing environment message) :=
  .write fun _ => .finished fun report h => absurd h (by simp)

/-- Whatever the pipeline has failed for, it has not been run. -/
theorem forsaken_finishing (environment : Environment) (failure : ExecFailure) :
    Forsaken (finishing environment (.error failure)) := by
  cases failure with
  | pipe | fork | wait => exact .finished fun report h => absurd h (by simp)
  | target | nul => exact forsaken_refusing environment _

theorem forsaken_closeAll {rest : Unit → Prog Answer} (h : ∀ done, Forsaken (rest done))
    (left : List Fd) : Forsaken ((Plumbing.closeAll left).bind rest) := by
  induction left with
  | nil => exact h ()
  | cons fd left ih => exact .close fun _ => ih

end LineShell.Course
