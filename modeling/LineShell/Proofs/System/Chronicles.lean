import LineShell.Proofs.System.Worlds

/-!
# What a program asks on its way

A chronicle is the sequence of requests that a program makes and of the answers that it gets,
whatever answers these are: what holds of every chronicle holds however the system behaves.

* **`Prog.Yields`** — a program may come to a value by way of a chronicle;
* **`yields_bind_iff`** — the chronicle of two programs in a row is that of the first one followed
  by that of the second;
* **`Prog.Avoids`** — a program makes no request of a kind on any way to its end.
-/

namespace LineShell

/-- A request and the answer to it. -/
structure Exchange where
  /-- The request. -/
  call : Call
  /-- The answer. -/
  answer : call.Result

/-- The world that gives any answer and takes down every exchange. -/
def chronicle : World (List Exchange) := fun before call answer after =>
  after = before ++ [⟨call, answer⟩]

namespace Prog

variable {α β : Type}

/-- `Yields program trace value`: by way of these exchanges the program comes to the value. -/
def Yields (program : Prog α) (trace : List Exchange) (value : α) : Prop :=
  Ends chronicle program [] value trace

/-- What has been taken down before makes no difference. -/
theorem yields_of_ends {program : Prog α} {before after : List Exchange} {value : α}
    (h : Ends chronicle program before value after) :
    ∃ trace, after = before ++ trace ∧
      ∀ other, Ends chronicle program other value (other ++ trace) := by
  induction h with
  | pure => exact ⟨[], by simp, fun other => by simpa using .pure⟩
  | @repeated _ call _ _ answer _ _ _ _ hw hagain _ ih =>
      obtain ⟨trace, rfl, hany⟩ := ih
      refine ⟨⟨call, answer⟩ :: trace, ?_, fun other => .repeated rfl hagain ?_⟩
      · rw [hw, List.append_assoc, List.singleton_append]
      · have hon := hany (other ++ [⟨call, answer⟩])
        rwa [← List.append_cons] at hon
  | @answered _ call _ _ answer _ _ _ _ hw hagain _ ih =>
      obtain ⟨trace, rfl, hany⟩ := ih
      refine ⟨⟨call, answer⟩ :: trace, ?_, fun other => .answered rfl hagain ?_⟩
      · rw [hw, List.append_assoc, List.singleton_append]
      · have hon := hany (other ++ [⟨call, answer⟩])
        rwa [← List.append_cons] at hon
  | unrolled _ ih =>
      obtain ⟨trace, rfl, hany⟩ := ih
      exact ⟨trace, rfl, fun other => .unrolled (hany other)⟩

/-- Every end that some world allows has a chronicle. -/
theorem Ends.exists_yields {σ : Type} {world : World σ} {program : Prog α} {s s' : σ} {value : α}
    (h : Ends world program s value s') : ∃ trace, Yields program trace value := by
  suffices hany : ∃ trace, ∀ before, Ends chronicle program before value (before ++ trace) from
    hany.imp fun trace hends => hends []
  induction h with
  | pure => exact ⟨[], fun before => by simpa using .pure⟩
  | @repeated _ call _ _ answer _ _ _ _ _ hagain _ ih =>
      obtain ⟨trace, hany⟩ := ih
      refine ⟨⟨call, answer⟩ :: trace, fun before => .repeated rfl hagain ?_⟩
      have hon := hany (before ++ [⟨call, answer⟩])
      rwa [← List.append_cons] at hon
  | @answered _ call _ _ answer _ _ _ _ _ hagain _ ih =>
      obtain ⟨trace, hany⟩ := ih
      refine ⟨⟨call, answer⟩ :: trace, fun before => .answered rfl hagain ?_⟩
      have hon := hany (before ++ [⟨call, answer⟩])
      rwa [← List.append_cons] at hon
  | unrolled _ ih =>
      obtain ⟨trace, hany⟩ := ih
      exact ⟨trace, fun before => .unrolled (hany before)⟩

theorem yields_pure_iff {value other : α} {trace : List Exchange} :
    Yields (.pure value) trace other ↔ other = value ∧ trace = [] :=
  ends_pure_iff

/-- A request is answered; then it is made again, or the program goes on. -/
theorem Yields.of_ask {call : Call} {again : call.Result → Bool} {next : call.Result → Prog α}
    {trace : List Exchange} {value : α} (h : Yields (.ask call again next) trace value) :
    ∃ answer rest, trace = ⟨call, answer⟩ :: rest ∧
      (again answer = true ∧ Yields (.ask call again next) rest value ∨
        again answer = false ∧ Yields (next answer) rest value) := by
  unfold Yields at h
  cases h with
  | repeated hw hagain hends =>
      obtain ⟨rest, rfl, hany⟩ := yields_of_ends hends
      rw [show _ = [] ++ [_] from hw]
      exact ⟨_, rest, rfl, .inl ⟨hagain, hany []⟩⟩
  | answered hw hagain hends =>
      obtain ⟨rest, rfl, hany⟩ := yields_of_ends hends
      rw [show _ = [] ++ [_] from hw]
      exact ⟨_, rest, rfl, .inr ⟨hagain, hany []⟩⟩

/-- A single request has a single exchange. -/
theorem yields_call_iff {request : Call} {trace : List Exchange} {answer : request.Result} :
    Yields (call request) trace answer ↔ trace = [⟨request, answer⟩] :=
  ends_call_iff

/-- The exchanges of two programs in a row are those of the first and then those of the second. -/
theorem yields_bind_iff {program : Prog α} {rest : α → Prog β} {trace : List Exchange} {b : β} :
    Yields (program.bind rest) trace b ↔
      ∃ a first second, trace = first ++ second ∧ Yields program first a ∧
        Yields (rest a) second b := by
  unfold Yields
  rw [ends_bind_iff]
  constructor
  · rintro ⟨a, first, hfirst, hrest⟩
    obtain ⟨second, rfl, hany⟩ := yields_of_ends hrest
    exact ⟨a, first, second, rfl, hfirst, hany []⟩
  · rintro ⟨a, first, second, rfl, hfirst, hrest⟩
    obtain ⟨trace, htrace, hany⟩ := yields_of_ends hrest
    rw [List.nil_append] at htrace
    subst htrace
    exact ⟨a, first, hfirst, hany first⟩

/-! ## What is not asked -/

/-- On no way to its end does the program make a request of the kind. -/
def Avoids (kind : Call → Prop) (program : Prog α) : Prop :=
  ∀ trace value, Yields program trace value → ∀ exchange ∈ trace, ¬kind exchange.call

variable {kind : Call → Prop}

theorem avoids_pure (value : α) : Avoids kind (.pure value) := by
  intro trace other h exchange hmem
  rw [(yields_pure_iff.mp h).2] at hmem
  cases hmem

theorem avoids_ask {call : Call} {again : call.Result → Bool} {next : call.Result → Prog α}
    (h : ¬kind call) (hnext : ∀ answer, Avoids kind (next answer)) :
    Avoids kind (.ask call again next) := by
  intro trace
  -- the request may be repeated, so the induction is on the exchanges and not on the program
  induction trace with
  | nil => simp
  | cons exchange trace ih =>
      intro value hyields
      obtain ⟨answer, rest, heq, hrest⟩ := hyields.of_ask
      obtain ⟨rfl, rfl⟩ := List.cons.inj heq
      rw [List.forall_mem_cons]
      refine ⟨h, ?_⟩
      rcases hrest with ⟨-, hagain⟩ | ⟨-, hon⟩
      · exact ih value hagain
      · exact hnext answer _ value hon

theorem avoids_call {request : Call} (h : ¬kind request) : Avoids kind (call request) :=
  avoids_ask h avoids_pure

theorem Avoids.bind {program : Prog α} {rest : α → Prog β} (h : Avoids kind program)
    (hrest : ∀ a, Avoids kind (rest a)) : Avoids kind (program.bind rest) := by
  intro trace value hyields exchange hmem
  obtain ⟨a, first, second, rfl, hfirst, hsecond⟩ := yields_bind_iff.mp hyields
  rcases List.mem_append.mp hmem with hmem | hmem
  · exact h first a hfirst exchange hmem
  · exact hrest a second value hsecond exchange hmem

/-- A process that has ended does not go on. -/
theorem not_yields_exit {code : Int} {trace : List Exchange} {value : α} :
    ¬Yields (exit code) trace value := by
  intro h
  obtain ⟨answer, -⟩ := Yields.of_ask h
  exact answer.elim

/-! ## Playing a chronicle back -/

/-- The value that a program without loops comes to if it makes exactly these requests and gets
these answers. -/
def replay : List Exchange → Prog α → Option α
  | [], .pure value => some value
  | exchange :: rest, .ask call again next =>
      if h : exchange.call = call then
        let answer : call.Result := h ▸ exchange.answer
        if again answer then replay rest (.ask call again next) else replay rest (next answer)
      else none
  | _, _ => none

theorem yields_of_replay {program : Prog α} {trace : List Exchange} {value : α}
    (h : replay trace program = some value) : Yields program trace value := by
  -- the chronicle grows behind what has been exchanged before
  suffices hany : ∀ before, Ends chronicle program before value (before ++ trace) from hany []
  induction trace generalizing program with
  | nil =>
      cases program with
      | pure other =>
          cases Option.some.inj h
          intro before
          simpa using .pure
      | ask call again next => cases h
      | loop body state next => cases h
  | cons exchange trace ih =>
      cases program with
      | pure other => cases h
      | loop body state next => cases h
      | ask call again next =>
          obtain ⟨request, answer⟩ := exchange
          rw [replay] at h
          split at h
          case isFalse => cases h
          case isTrue heq =>
            dsimp only at heq
            subst heq
            intro before
            rw [List.append_cons]
            dsimp only at h
            split at h
            case isTrue hagain => exact .repeated rfl hagain (ih h _)
            case isFalse hagain => exact .answered rfl (Bool.not_eq_true _ ▸ hagain) (ih h _)

end Prog

end LineShell
