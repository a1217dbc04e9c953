import LineShell.Proofs.Pipeline.Promise
import LineShell.Proofs.System.Children

/-!
# What a shell will come to

A shell that is on its way through a pipeline may be bound to end with one kind of value, whatever
it is answered.

* **`Comes`** — whatever it is answered, a shell that does not find itself on the side of a child
  ends with a value of the kind;
* **`comes_step`** — each step of the shell keeps that;
* **the course of a pipeline** — it comes to what its end comes to (`comes_laying` and the like).
-/

namespace LineShell

/-- The request is one of a shell on its way through a pipeline. -/
def Call.isShell : Call → Bool
  | .pipe | .flush | .close _ | .wait _ | .write .. => true
  | _ => false

namespace Prog

variable {α : Type} {good : α → Prop}

/-- Whatever it is answered, a shell that does not find itself on the side of a child ends with a
value of one kind. -/
inductive Comes (good : α → Prop) : Prog α → Prop
  | pure {value} : good value → Comes good (.pure value)
  | fork {again next} : (∀ reply, reply ≠ .ok .child → Comes good (next reply)) →
      Comes good (.ask .fork again next)
  | ask {call again next} : call.isShell = true → (∀ answer, Comes good (next answer)) →
      Comes good (.ask call again next)

theorem Comes.proceed {call : Call} {again : call.Result → Bool} {next : call.Result → Prog α}
    (hcall : call.isShell = true) (hnext : ∀ answer, Comes good (next answer))
    (answer : call.Result) : Comes good (Process.proceed call again next answer) :=
  System.holds_proceed (.ask hcall hnext) hnext answer

end Prog

namespace System

open Prog

variable {α : Type} {good : α → Prop} {launch : Launcher} {s s' : System α} {pid : Pid}
  {p : Process α}

/-- A shell that is bound to end with a value of one kind stays so. -/
theorem comes_step (hnumbered : ∀ q ∈ s.processes, q.pid < s.nextPid)
    (hp : s.process? pid = some p) (hactive : p.active = true) (h : Comes good p.program)
    (hstep : step launch s pid = some s') :
    ∀ q ∈ s'.processes, q.pid = pid → Comes good q.program := by
  obtain ⟨hmem, hpid⟩ := mem_of_process? hp
  intro q hq hsame
  generalize hprogram : p.program = program at h
  cases h with
  | pure => exact absurd (hstep.symm.trans (step_pure hp hactive hprogram)) (by simp)
  | @fork again next hnext =>
      cases hstep.symm.trans (step_fork hp hactive hprogram)
      rcases List.mem_append.mp hq with hq | hq
      · rw [eq_of_own hp hq hsame rfl]
        show Comes good (if again _ = true then Prog.ask .fork again next else next _)
        split
        · exact .fork hnext
        · exact hnext _ (by simp)
      · -- the child has the next number, and the shell an earlier one
        rw [List.mem_singleton.mp hq] at hsame
        exact absurd (hnumbered p hmem) (by
          rw [hpid, ← hsame]
          exact Nat.lt_irrefl _)
  | @ask call again next hcall hnext =>
      have hproceed : ∀ answer, Comes good (Process.proceed call again next answer) :=
        Comes.proceed hcall hnext
      cases call with
      | pipe | close fd | wait child =>
          obtain ⟨reply, heq⟩ := program_of_answered hp hactive hstep hq hsame rfl hprogram
          exact heq ▸ hproceed reply
      | flush =>
          rcases program_of_flush hp hactive hstep hq hsame hprogram with heq | ⟨reply, heq⟩
          · rw [heq, hprogram]
            exact .ask hcall hnext
          · exact heq ▸ hproceed reply
      | write fd bytes =>
          obtain ⟨reply, heq⟩ := program_of_write hp hactive hstep hq hsame hprogram
          exact heq ▸ holds_writeOn (fun _ => .ask rfl hnext) hnext reply
      | _ => exact absurd hcall Bool.false_ne_true

end System

namespace Course

open Prog

variable {α : Type} {good : α → Prop}

theorem comes_closeAll {rest : Unit → Prog α} (h : ∀ done, Comes good (rest done))
    (left : List Fd) : Comes good ((Plumbing.closeAll left).bind rest) := by
  induction left with
  | nil => exact h ()
  | cons fd left ih => exact .ask rfl fun _ => ih

theorem comes_reap {rest : Unit → Prog α} (h : ∀ done, Comes good (rest done))
    (children : List Pid) : Comes good ((reap children).bind rest) := by
  induction children with
  | nil => exact h ()
  | cons child left ih =>
      show Comes good (((awaitCode child).bind _).bind rest)
      rw [Prog.bind_assoc]
      refine .ask rfl fun news => ?_
      rcases news with errno | ⟨pid, ending | signal | _⟩ <;> exact ih

section Shell

variable {command : String} {next : Except ExecFailure Report → Prog α}
  (hreport : ∀ report, Comes good (next (.ok report)))
  (hfatal : ∀ failure, failure.fatal = true → Comes good (next (.error failure)))

include hreport hfatal

theorem comes_waiting (codes : List Int) (left : List Pid) :
    Comes good (waiting command next codes left) := by
  induction left generalizing codes with
  | nil =>
      rw [waiting_nil]
      exact hreport _
  | cons child left ih =>
      rw [waiting_cons]
      refine .ask rfl fun news => ?_
      rcases news with errno | ⟨pid, ending | signal | _⟩
      · exact hfatal _ rfl
      · dsimp only [Prog.bind]
        cases ending.code? with
        | ok code => exact ih _
        | error errno => exact hfatal _ rfl
      · exact hfatal _ rfl
      · exact hfatal _ rfl

theorem comes_forking (plumbing : Plumbing) (stage : Nat) (left : List (List Bytes))
    (children : List Pid) : Comes good (forking command next plumbing stage left children) := by
  induction left generalizing stage children with
  | nil => exact comes_closeAll (fun _ => comes_waiting hreport hfatal _ _) _
  | cons arguments left ih =>
      rw [forking_cons]
      refine .fork fun reply hreply => ?_
      rcases reply with errno | child | _
      · exact comes_closeAll (fun _ => comes_reap (fun _ => hfatal _ rfl) _) _
      · exact ih _ _
      · exact absurd rfl hreply

theorem comes_laying (programs : List (List Bytes)) (count : Nat) (plumbing : Plumbing) :
    Comes good (laying command next programs count plumbing) := by
  induction count generalizing plumbing with
  | zero => exact .ask rfl fun _ => comes_forking hreport hfatal _ _ _ _
  | succ count ih =>
      rw [laying_succ]
      refine .ask rfl fun laid => ?_
      cases laid with
      | ok ends => exact ih _
      | error errno => exact comes_closeAll (fun _ => hfatal _ rfl) _

end Shell

end Course

end LineShell
