import LineShell.Proofs.Pipeline.Plumbing
import LineShell.Proofs.System.Effects

/-!
# What a program will do

Two things that can be said of a program whatever it is answered.

* **`WillClose`** — it gives up a number before it waits, becomes another program or ends;
* **`Asks`** — it asks for nothing but some kinds of requests;
* **the course of a pipeline** — the shell and the process of a stage will give up every number of
  the plumbing that they have not given up yet.
-/

namespace LineShell

namespace Prog

variable {α β : Type} {fd : Fd}

/-- Whatever the answers are, the program asks for nothing else. -/
inductive Asks (allowed : Call → Prop) : Prog α → Prop
  | pure {value} : Asks allowed (.pure value)
  | ask {call again next} : allowed call → (∀ answer, Asks allowed (next answer)) →
      Asks allowed (.ask call again next)

theorem Asks.bind {allowed : Call → Prop} {program : Prog α} {rest : α → Prog β}
    (h : Asks allowed program) (hrest : ∀ value, Asks allowed (rest value)) :
    Asks allowed (program.bind rest) := by
  induction h with
  | pure => exact hrest _
  | ask hcall _ ih => exact .ask hcall ih

theorem Asks.mono {allowed wider : Call → Prop} {program : Prog α} (h : Asks allowed program)
    (hwider : ∀ call, allowed call → wider call) : Asks wider program := by
  induction h with
  | pure => exact .pure
  | ask hcall _ ih => exact .ask (hwider _ hcall) ih

theorem Asks.of_request? {allowed : Call → Prop} {program : Prog α} {call : Call}
    (h : Asks allowed program) (hcall : program.request? = some call) : allowed call := by
  cases h with
  | pure => exact absurd hcall (by simp [request?])
  | ask hallowed _ =>
      cases hcall
      exact hallowed

theorem Asks.inv {allowed : Call → Prop} {call : Call} {again : call.Result → Bool}
    {next : call.Result → Prog α} (h : Asks allowed (.ask call again next)) :
    allowed call ∧ ∀ answer, Asks allowed (next answer) := by
  cases h with
  | ask hcall hnext => exact ⟨hcall, hnext⟩

theorem Asks.proceed {allowed : Call → Prop} {call : Call} {again : call.Result → Bool}
    {next : call.Result → Prog α} (h : Asks allowed (.ask call again next))
    (answer : call.Result) : Asks allowed (Process.proceed call again next answer) :=
  System.holds_proceed h h.inv.2 answer

end Prog

namespace System

open Prog

variable {α : Type} {launch : Launcher} {s s' : System α} {pid : Pid} {p : Process α}

/-- A process that asks for nothing but some kinds of requests goes on so, unless it becomes
another program. The rest of what is written or read has to be allowed too, and nothing allowed
makes a process, ends one or opens once more what is open. -/
theorem asks_step {allowed : Call → Prop}
    (hplain : ∀ call, allowed call → call.isPlain = true ∧ ∀ target number, call ≠ .kill target number)
    (hwrite : ∀ fd bytes left, allowed (.write fd bytes) → allowed (.write fd left))
    (hread : ∀ fd sofar more, allowed (.readAll fd sofar) → allowed (.readAll fd more))
    (hp : s.process? pid = some p) (hactive : p.active = true) (h : Asks allowed p.program)
    (hstep : step launch s pid = some s') :
    (successor? launch s pid).isSome = true ∨
      ∀ q ∈ s'.processes, q.pid = pid → q.ending = none → Asks allowed q.program := by
  cases step_cases hp hactive hstep with
  | unrolled hprogram =>
      rw [hprogram] at h
      cases h
  | forked hprogram =>
      rw [hprogram] at h
      exact absurd (hplain _ h.inv.1).1 Bool.false_ne_true
  | signalled hprogram =>
      rw [hprogram] at h
      exact absurd rfl ((hplain _ h.inv.1).2 _ _)
  | became hprogram hbecome =>
      refine .inl ?_
      unfold successor?
      simp [hp, hprogram, hbecome, Except.toOption]
  | answered hprogram _ hanswer =>
      rw [hprogram] at h
      have hpid := (answer_effect (hplain _ h.inv.1).1 hanswer).pid
      refine .inr fun q hq hsame _ => ?_
      rw [eq_of_own hp hq hsame hpid]
      exact h.proceed _
  | refused hprogram | idle hprogram | dropped hprogram =>
      rw [hprogram] at h
      refine .inr fun q hq hsame _ => ?_
      rw [eq_of_own hp hq hsame rfl]
      exact h.proceed _
  | exited =>
      refine .inr fun q hq hsame halive => ?_
      rw [eq_of_own hp hq hsame rfl] at halive
      exact absurd halive (by simp [Process.finish])
  | read hprogram =>
      rw [hprogram] at h
      obtain ⟨hcall, hnext⟩ := h.inv
      refine .inr fun q hq hsame _ => ?_
      rw [eq_of_own hp hq hsame rfl]
      exact holds_readOn (fun more => .ask (hread _ _ more hcall) hnext) hnext _
  | wrote hprogram =>
      rw [hprogram] at h
      obtain ⟨hcall, hnext⟩ := h.inv
      refine .inr fun q hq hsame _ => ?_
      rw [eq_of_own hp hq hsame rfl]
      exact holds_writeOn (fun left => .ask (hwrite _ _ left hcall) hnext) hnext _
  | flushed =>
      refine .inr fun q hq hsame _ => ?_
      rw [eq_of_own hp hq hsame rfl]
      exact h

end System

namespace Course

open Prog

variable {α : Type} {fd : Fd}

/-! ## Giving up numbers -/

variable (command : String) (next : Except ExecFailure Report → Prog α)

theorem asks_closeAll {allowed : Call → Prop} (h : ∀ fd, allowed (.close fd)) (left : List Fd) :
    Asks allowed (Plumbing.closeAll left) := by
  induction left with
  | nil => exact .pure
  | cons fd left ih => exact .ask (h fd) fun _ => ih

/-! ## Looking for a program -/

/-- What a process asks that looks for its program. -/
def IsLooking : Call → Prop
  | .bindings | .exec .. => True
  | _ => False

/-- What a process asks that will become nothing else. -/
def IsGivingUp : Call → Prop
  | .close _ | .write .. | .exit _ => True
  | _ => False

/-- What the process of a stage asks when it has given up the plumbing. -/
def IsSearch (call : Call) : Prop := IsLooking call ∨ IsGivingUp call

section Looking

variable {allowed : Call → Prop} {arguments : List Bytes}
  (hplain : ∀ path bindings, allowed (.exec path arguments bindings))
  (hscript : ∀ file bindings,
    allowed (.exec Search.scriptShell (Search.scriptShell :: file :: arguments.tail) bindings))

include hplain hscript

theorem asks_attempt (bindings : Variables) (denied : Bool) (last : Errno) (paths : List Bytes) :
    Asks allowed (Search.attempt arguments bindings denied last paths) := by
  induction paths generalizing denied last with
  | nil => exact .pure
  | cons path paths ih =>
      have hrest : ∀ errno, Asks allowed (if Search.goesOn errno then
          Search.attempt arguments bindings (denied || errno == .accessDenied) errno paths
          else .pure errno) := by
        intro errno
        split
        · exact ih _ _
        · exact .pure
      refine .ask (hplain path bindings) fun errno => ?_
      by_cases hformat : (errno == .notExecutable) = true
      · show Asks allowed (if errno == .notExecutable then _ else _)
        rw [if_pos hformat]
        exact .ask (hscript path bindings) hrest
      · show Asks allowed (if errno == .notExecutable then _ else _)
        rw [if_neg hformat]
        exact hrest errno

/-- A process that looks for its program asks to become a file with the words that it was given or,
where the file is no program, the shell for scripts with the file and the words behind the name. -/
theorem asks_looking (hbindings : allowed .bindings) (name : Bytes) :
    Asks allowed (execByName name arguments) := by
  refine .ask hbindings fun bindings => ?_
  show Asks allowed (execByNameWith bindings name arguments)
  unfold execByNameWith
  split
  · exact .pure
  · exact asks_attempt hplain hscript _ _ _ _

end Looking

theorem asks_execByName (name : Bytes) (arguments : List Bytes) :
    Asks IsLooking (execByName name arguments) :=
  asks_looking (fun _ _ => trivial) (fun _ _ => trivial) trivial name

/-- To say something and to exit is to give up. -/
theorem asks_complaining (text : Bytes) (code : Int) :
    Asks IsGivingUp ((complain text).bind fun _ => exit (α := α) code) :=
  .ask trivial fun _ => .ask trivial fun answer => answer.elim

theorem asks_settled (arguments : List Bytes) (wired : Except Errno Unit) :
    Asks IsSearch (settled (α := α) arguments wired) := by
  cases wired with
  | error errno => exact (asks_complaining _ _).mono fun _ h => .inr h
  | ok done =>
      exact ((asks_execByName _ _).mono fun _ h => .inl h).bind fun _ =>
        (asks_complaining _ _).mono fun _ h => .inr h

end Course

end LineShell
