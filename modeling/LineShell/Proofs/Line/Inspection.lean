import LineShell.Proofs.System.Worlds
import LineShell.Shell.Interpreter

/-!
# What the inspection of a line comes to

The checks of the structure need nothing of the system; only a line that passes them has its file
opened and given up again.

* **`ends_preflight_iff`** — what the trial with the file comes to;
* **`ends_inspect_iff`** — what the whole inspection comes to;
* **`ends_readLine_iff`** — what reading a line comes to: the inspection's fault, or what the
  parser makes of the line.
-/

namespace LineShell

open Prog Structure

variable {σ : Type} {world : World σ} {before after : σ}

/-- The trial with a file ends in a fault if the file cannot be opened, and gives it up again if
it can. -/
theorem ends_preflight_iff {target : Target} {result : Except LineFault Unit} :
    Ends world target.preflight before result after ↔
      (∃ failure, Ends world target.openFile before (.error failure) after ∧
        result = .error .cannotOpenFile) ∨
      (∃ fd middle answer, Ends world target.openFile before (.ok fd) middle ∧
        world middle (.close fd) answer after ∧ result = .ok ()) := by
  rw [show target.preflight = target.openFile.bind _ from rfl, ends_bind_iff]
  constructor
  · rintro ⟨opened, middle, hopen, hrest⟩
    cases opened with
    | error failure =>
        obtain ⟨rfl, rfl⟩ := ends_pure_iff.mp hrest
        exact .inl ⟨failure, hopen, rfl⟩
    | ok fd =>
        obtain ⟨answer, last, hclose, hend⟩ := ends_bind_iff.mp hrest
        obtain ⟨rfl, rfl⟩ := ends_pure_iff.mp hend
        exact .inr ⟨fd, middle, answer, hopen, ends_call_iff.mp hclose, rfl⟩
  · rintro (⟨failure, hopen, rfl⟩ | ⟨fd, middle, answer, hopen, hclose, rfl⟩)
    · exact ⟨.error failure, after, hopen, .pure⟩
    · exact ⟨.ok fd, middle, hopen, (ends_call_iff.mpr hclose).bind .pure⟩

/-- The inspection of a line ends as the checks of its structure do, and with the trial of its
file if they find nothing. -/
theorem ends_inspect_iff {tokens : List Token} {result : Except LineFault Unit} :
    Ends world (inspect tokens) before result after ↔
      (∃ fault, check tokens = .error fault ∧ result = .error fault ∧ after = before) ∨
      check tokens = .ok () ∧
        (target? tokens = none ∧ result = .ok () ∧ after = before ∨
          ∃ target, target? tokens = some target ∧
            Ends world target.preflight before result after) := by
  unfold inspect
  cases hcheck : check tokens with
  | error fault => exact ends_pure_iff.trans (by simp)
  | ok done =>
      cases htarget : target? tokens with
      | none => exact ends_pure_iff.trans (by simp)
      | some target => simp

/-- Reading a line ends with the fault that the inspection finds, or with what the parser makes
of the line. -/
theorem ends_readLine_iff {config : Config} {tokens : List Token}
    {result : Except LineFault Pipeline} :
    Ends world (Shell.readLine config tokens) before result after ↔
      (∃ fault, Ends world (inspect tokens) before (.error fault) after ∧
        result = .error fault) ∨
      Ends world (inspect tokens) before (.ok ()) after ∧
        result = Pipeline.ofTokens config.maxArguments tokens := by
  rw [show Shell.readLine config tokens = (inspect tokens).bind _ from rfl, ends_bind_iff]
  constructor
  · rintro ⟨inspected, middle, hinspect, hrest⟩
    cases inspected with
    | error fault =>
        obtain ⟨rfl, rfl⟩ := ends_pure_iff.mp hrest
        exact .inl ⟨fault, hinspect, rfl⟩
    | ok done =>
        obtain ⟨rfl, rfl⟩ := ends_pure_iff.mp hrest
        exact .inr ⟨hinspect, rfl⟩
  · rintro (⟨fault, hinspect, rfl⟩ | ⟨hinspect, rfl⟩)
    · exact ⟨.error fault, after, hinspect, .pure⟩
    · exact ⟨.ok (), after, hinspect, .pure⟩

end LineShell
