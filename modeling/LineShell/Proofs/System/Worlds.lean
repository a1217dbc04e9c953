import LineShell.System.Program
import Mathlib.Tactic.Common

/-!
# What programs come to in a world

A world is any way in which requests may be answered: nothing is assumed of it, so what holds in
every world holds however the system behaves.

* **`Prog.Ends`** — a program, begun in one state of a world, may end with a value in another;
* **composition** — two programs in a row end as the first and then the second one does
  (`ends_bind_iff`), a single request ends with its answer (`ends_call_iff`).
-/

namespace LineShell

/-- How requests are answered: in a state, a request may get an answer that leaves another
state. -/
abbrev World (σ : Type) := σ → (call : Call) → call.Result → σ → Prop

namespace Prog

variable {σ : Type} {world : World σ}

/-- `Ends world program before value after`: begun in the state `before`, the program may end
with a value in the state `after`. -/
inductive Ends (world : World σ) : {α : Type} → Prog α → σ → α → σ → Prop
  | pure {α} {value : α} {s} : Ends world (.pure value) s value s
  | repeated {α} {call : Call} {again : call.Result → Bool} {next : call.Result → Prog α}
      {answer s s' value s''} : world s call answer s' → again answer = true →
      Ends world (.ask call again next) s' value s'' →
      Ends world (.ask call again next) s value s''
  | answered {α} {call : Call} {again : call.Result → Bool} {next : call.Result → Prog α}
      {answer s s' value s''} : world s call answer s' → again answer = false →
      Ends world (next answer) s' value s'' → Ends world (.ask call again next) s value s''
  | unrolled {τ β α} {body : τ → Prog (τ ⊕ β)} {state : τ} {next : β → Prog α} {s value s'} :
      Ends world (unroll body state next) s value s' →
      Ends world (.loop body state next) s value s'

/-- A program that has ended changes nothing any more. -/
theorem ends_pure_iff {α : Type} {value other : α} {s s' : σ} :
    Ends world (.pure value) s other s' ↔ other = value ∧ s' = s := by
  constructor
  · intro h
    cases h
    exact ⟨rfl, rfl⟩
  · rintro ⟨rfl, rfl⟩
    exact .pure

/-- One round of a loop, and then another program, is one round of the longer loop. -/
theorem unroll_bind {τ β γ α : Type} (body : τ → Prog (τ ⊕ β)) (state : τ) (next : β → Prog γ)
    (rest : γ → Prog α) :
    (unroll body state next).bind rest = unroll body state fun value => (next value).bind rest := by
  unfold unroll
  rw [bind_assoc]
  congr 1
  funext result
  cases result <;> rfl

/-- The first of two programs in a row comes to a value, and the second one goes on from there. -/
theorem Ends.bind {α β : Type} {program : Prog α} {rest : α → Prog β} {s s' s'' : σ} {a : α}
    {b : β} (h : Ends world program s a s') (hrest : Ends world (rest a) s' b s'') :
    Ends world (program.bind rest) s b s'' := by
  induction h with
  | pure => exact hrest
  | repeated hw hagain _ ih => exact .repeated hw hagain (ih hrest)
  | answered hw hagain _ ih => exact .answered hw hagain (ih hrest)
  | unrolled _ ih =>
      refine .unrolled ?_
      rw [← unroll_bind]
      exact ih hrest

/-- Where two programs in a row end, the first one has come to some value. -/
theorem Ends.of_bind {γ : Type} {combined : Prog γ} {s s' : σ} {c : γ}
    (h : Ends world combined s c s') :
    ∀ {α : Type} (program : Prog α) (rest : α → Prog γ), combined = program.bind rest →
      ∃ a middle, Ends world program s a middle ∧ Ends world (rest a) middle c s' := by
  -- The run is followed step by step; the first program is over, or it takes the step.
  induction h with
  | pure =>
      intro α program rest heq
      cases program with
      | pure value =>
          refine ⟨value, _, .pure, ?_⟩
          rw [show rest value = .pure _ from heq.symm]
          exact .pure
      | ask call again next => exact absurd heq (by simp [Prog.bind])
      | loop body state next => exact absurd heq (by simp [Prog.bind])
  | repeated hw hagain h ih =>
      intro α program rest heq
      cases program with
      | pure value =>
          refine ⟨value, _, .pure, ?_⟩
          rw [show rest value = .ask _ _ _ from heq.symm]
          exact .repeated hw hagain h
      | ask call again next =>
          simp only [Prog.bind] at heq
          cases heq
          obtain ⟨a, middle, h1, h2⟩ := ih (.ask _ _ next) rest (by rw [Prog.bind])
          exact ⟨a, middle, .repeated hw hagain h1, h2⟩
      | loop body state next => exact absurd heq (by simp [Prog.bind])
  | answered hw hagain h ih =>
      intro α program rest heq
      cases program with
      | pure value =>
          refine ⟨value, _, .pure, ?_⟩
          rw [show rest value = .ask _ _ _ from heq.symm]
          exact .answered hw hagain h
      | ask call again next =>
          simp only [Prog.bind] at heq
          cases heq
          obtain ⟨a, middle, h1, h2⟩ := ih (next _) rest rfl
          exact ⟨a, middle, .answered hw hagain h1, h2⟩
      | loop body state next => exact absurd heq (by simp [Prog.bind])
  | unrolled h ih =>
      intro α program rest heq
      cases program with
      | pure value =>
          refine ⟨value, _, .pure, ?_⟩
          rw [show rest value = .loop _ _ _ from heq.symm]
          exact .unrolled h
      | ask call again next => exact absurd heq (by simp [Prog.bind])
      | loop body state next =>
          simp only [Prog.bind] at heq
          cases heq
          obtain ⟨a, middle, h1, h2⟩ := ih (unroll _ _ next) rest (unroll_bind _ _ next rest).symm
          exact ⟨a, middle, .unrolled h1, h2⟩

/-- Two programs in a row end as the first one does and then the second. -/
theorem ends_bind_iff {α β : Type} {program : Prog α} {rest : α → Prog β} {s s' : σ} {b : β} :
    Ends world (program.bind rest) s b s' ↔
      ∃ a middle, Ends world program s a middle ∧ Ends world (rest a) middle b s' := by
  constructor
  · intro h
    exact h.of_bind program rest rfl
  · rintro ⟨a, middle, h1, h2⟩
    exact h1.bind h2

/-- A loop ends as the rounds do into which it can be unrolled. -/
theorem ends_loop_iff {τ β α : Type} {body : τ → Prog (τ ⊕ β)} {state : τ} {next : β → Prog α}
    {s s' : σ} {value : α} : Ends world (.loop body state next) s value s' ↔
      Ends world (unroll body state next) s value s' := by
  constructor
  · intro h
    cases h with
    | unrolled h => exact h
  · exact .unrolled

/-- A single request ends with its answer. -/
theorem ends_call_iff {request : Call} {answer : request.Result} {s s' : σ} :
    Ends world (call request) s answer s' ↔ world s request answer s' := by
  constructor
  · intro h
    unfold call at h
    cases h with
    | repeated _ hagain _ => exact absurd hagain (by simp)
    | answered hw _ h =>
        obtain ⟨rfl, rfl⟩ := ends_pure_iff.mp h
        exact hw
  · intro h
    exact .answered h rfl .pure

end Prog

end LineShell
