import LineShell.Proofs.System.Worlds
import LineShell.System.Process

/-!
# Ways of programs in a world

A program that is not done yet has come some way, and may ask something next. Here it is said what
programs ask on their ways, however long these are, and whether they come to an end or not.

* **`Leads`** — how far a program may have come in a world, and in which state the world is then;
* **`Safe`** — on no way does a program ask what it must not in the state that the world is in, and
  where it ends its value and the state are as they have to be. Safe programs in a row are safe
  (`Safe.bind`), and so is a loop whose rounds are safe (`safe_iterate`);
* **`Confined`** — a program that asks for nothing but some kinds of requests. It keeps what these
  keep (`Confined.safe`).
-/

namespace LineShell.Prog

variable {σ : Type} {world : World σ} {may : σ → Call → Prop} {α β τ : Type}

/-! ## Ways -/

/-- How far a program may have come that was begun in a state of a world, and the state that the
world is in then. -/
inductive Leads (world : World σ) (program : Prog α) (s : σ) : Prog α → σ → Prop
  | start : Leads world program s program s
  | asked {call : Call} {again next} {answer : call.Result} {s' s'' : σ} :
      Leads world program s (.ask call again next) s' → world s' call answer s'' →
      Leads world program s (Process.proceed call again next answer) s''
  | unrolled {τ β : Type} {body : τ → Prog (τ ⊕ β)} {state : τ} {next : β → Prog α} {s' : σ} :
      Leads world program s (.loop body state next) s' →
      Leads world program s (unroll body state next) s'

/-- On ways of no more steps than so many, a program asks only what it may ask in the state that the
world is in; and where it ends, its value and the state are as they have to be. -/
def SafeFor (world : World σ) (may : σ → Call → Prop) {α : Type} :
    Nat → Prog α → σ → (α → σ → Prop) → Prop
  | 0, _, _, _ => True
  | _ + 1, .pure value, s, good => good value s
  | steps + 1, .ask call again next, s, good => may s call ∧ ∀ answer s', world s call answer s' →
      SafeFor world may steps (Process.proceed call again next answer) s' good
  | steps + 1, .loop body state next, s, good =>
      SafeFor world may steps (unroll body state next) s good

/-- On no way does a program ask what it may not ask in the state that the world is in; and where it
ends, its value and the state are as they have to be. -/
def Safe (world : World σ) (may : σ → Call → Prop) (program : Prog α) (s : σ)
    (good : α → σ → Prop) : Prop := ∀ steps, SafeFor world may steps program s good

variable {program : Prog α} {s : σ} {good : α → σ → Prop} {better : β → σ → Prop}

theorem safe_pure {value : α} (h : good value s) : Safe world may (.pure value) s good := by
  intro steps
  cases steps with
  | zero => trivial
  | succ steps => exact h

theorem safe_ask {call : Call} {again : call.Result → Bool} {next : call.Result → Prog α}
    (hmay : may s call) (hnext : ∀ answer s', world s call answer s' →
      Safe world may (Process.proceed call again next answer) s' good) :
    Safe world may (.ask call again next) s good := by
  intro steps
  cases steps with
  | zero => trivial
  | succ steps => exact ⟨hmay, fun answer s' hw => hnext answer s' hw steps⟩

/-- A request that is made again may change what holds, but not that it may be made. -/
theorem safe_askUntil {call : Call} {again : call.Result → Bool} {next : call.Result → Prog α}
    {holds : σ → Prop} (hmay : ∀ s, holds s → may s call)
    (hagain : ∀ s answer s', holds s → world s call answer s' → again answer = true → holds s')
    (hnext : ∀ s answer s', holds s → world s call answer s' → again answer = false →
      Safe world may (next answer) s' good) (hs : holds s) :
    Safe world may (.ask call again next) s good := by
  intro steps
  induction steps generalizing s with
  | zero => trivial
  | succ steps ih =>
      refine ⟨hmay s hs, fun answer s' hw => ?_⟩
      unfold Process.proceed
      split
      next htrue => exact ih (hagain s answer s' hs hw htrue)
      next hfalse => exact hnext s answer s' hs hw (by simpa using hfalse) steps

/-- A single request. -/
theorem safe_call {request : Call} {good : request.Result → σ → Prop} (hmay : may s request)
    (h : ∀ answer s', world s request answer s' → good answer s') :
    Safe world may (call request) s good :=
  safe_ask hmay fun answer s' hw => safe_pure (h answer s' hw)

theorem SafeFor.imp {worse : α → σ → Prop} (hgood : ∀ value s', good value s' → worse value s')
    {steps : Nat} (h : SafeFor world may steps program s good) :
    SafeFor world may steps program s worse := by
  induction steps generalizing program s with
  | zero => trivial
  | succ steps ih =>
      cases program with
      | pure value => exact hgood _ _ h
      | ask call again next => exact ⟨h.1, fun answer s' hw => ih (h.2 answer s' hw)⟩
      | loop body state next => exact ih h

theorem Safe.imp {worse : α → σ → Prop} (h : Safe world may program s good)
    (hgood : ∀ value s', good value s' → worse value s') : Safe world may program s worse :=
  fun steps => (h steps).imp hgood

theorem proceed_bind {call : Call} (again : call.Result → Bool) (next : call.Result → Prog α)
    (rest : α → Prog β) (answer : call.Result) :
    (Process.proceed call again next answer).bind rest =
      Process.proceed call again (fun answer => (next answer).bind rest) answer := by
  unfold Process.proceed
  split <;> rfl

/-- The second of two programs in a row has fewer steps left than the whole. -/
theorem safeFor_bind {rest : α → Prog β} {steps : Nat}
    (h : SafeFor world may steps program s good)
    (hrest : ∀ left, left ≤ steps → ∀ value s', good value s' →
      SafeFor world may left (rest value) s' better) :
    SafeFor world may steps (program.bind rest) s better := by
  induction steps generalizing program s with
  | zero => trivial
  | succ steps ih =>
      have hfewer : ∀ left, left ≤ steps → ∀ value s', good value s' →
          SafeFor world may left (rest value) s' better :=
        fun left hleft => hrest left (Nat.le_succ_of_le hleft)
      cases program with
      | pure value => exact hrest _ (Nat.le_refl _) value s h
      | ask call again next =>
          refine ⟨h.1, fun answer s' hw => ?_⟩
          rw [← proceed_bind]
          exact ih (h.2 answer s' hw) hfewer
      | loop body state next =>
          show SafeFor world may steps (unroll body state fun value => (next value).bind rest) s better
          rw [← unroll_bind]
          exact ih h hfewer

/-- Two safe programs in a row are safe. -/
theorem Safe.bind {rest : α → Prog β} (h : Safe world may program s good)
    (hrest : ∀ value s', good value s' → Safe world may (rest value) s' better) :
    Safe world may (program.bind rest) s better :=
  fun steps => safeFor_bind (h steps) fun left _ value s' hgood => hrest value s' hgood left

/-- A loop is safe if something holds before each round and a round that ends keeps it. -/
theorem safe_iterate {body : τ → Prog (τ ⊕ β)} {before : τ → σ → Prop}
    (hbody : ∀ state s, before state s → Safe world may (body state) s fun
      | .inl later, s' => before later s'
      | .inr value, s' => better value s') {state : τ} (h : before state s) :
    Safe world may (iterate body state) s better := by
  intro steps
  induction steps using Nat.strongRecOn generalizing state s with
  | ind steps ih =>
      cases steps with
      | zero => trivial
      | succ steps =>
          refine safeFor_bind (hbody state s h steps) fun left hleft result s' hresult => ?_
          cases result with
          | inl later => exact ih left (Nat.lt_succ_of_le hleft) hresult
          | inr value =>
              have hends : better value s' := hresult
              exact safe_pure hends left

/-- What it asks next is what it may ask. -/
theorem Safe.asks {call : Call} {again : call.Result → Bool} {next : call.Result → Prog α}
    (h : Safe world may (.ask call again next) s good) : may s call := (h 1).1

/-- Whatever the answers are, the program asks for nothing else. It may repeat parts of itself. -/
inductive Confined (allowed : Call → Prop) : {α : Type} → Prog α → Prop
  | pure {α : Type} {value : α} : Confined allowed (.pure value)
  | ask {α : Type} {call : Call} {again} {next : call.Result → Prog α} : allowed call →
      (∀ answer, Confined allowed (next answer)) → Confined allowed (.ask call again next)
  | loop {τ β α : Type} {body : τ → Prog (τ ⊕ β)} {state : τ} {next : β → Prog α} :
      (∀ state, Confined allowed (body state)) → (∀ value, Confined allowed (next value)) →
      Confined allowed (.loop body state next)

variable {allowed : Call → Prop}

theorem Confined.bind {rest : α → Prog β} (h : Confined allowed program)
    (hrest : ∀ value, Confined allowed (rest value)) : Confined allowed (program.bind rest) := by
  induction h with
  | pure => exact hrest _
  | ask hcall _ ih => exact .ask hcall fun answer => ih answer hrest
  | loop hbody _ _ ih => exact .loop hbody fun value => ih value hrest

/-- A program that is confined to some requests keeps what these keep, and is safe if each of them
may be made wherever that holds. -/
theorem Confined.safe (h : Confined allowed program) {holds : σ → Prop}
    (hmay : ∀ s call, holds s → allowed call → may s call)
    (hkeep : ∀ s call answer s', holds s → allowed call → world s call answer s' → holds s')
    (hs : holds s) : Safe world may program s fun _ s' => holds s' := by
  induction h generalizing s with
  | pure => exact safe_pure hs
  | ask hcall _ ih =>
      exact safe_askUntil (fun s hs => hmay s _ hs hcall)
        (fun s answer s' hs hw _ => hkeep s _ answer s' hs hcall hw)
        (fun s answer s' hs hw _ => ih answer (hkeep s _ answer s' hs hcall hw)) hs
  | @loop _ _ _ body state next _ _ ihbody ihnext =>
      have hrounds : Safe world may (iterate body state) s fun _ s' => holds s' :=
        safe_iterate (fun state s hs => (ihbody state hs).imp fun result s' hs' => by
          cases result <;> exact hs') hs
      exact hrounds.bind fun value _ hs' => ihnext value hs'

end LineShell.Prog
