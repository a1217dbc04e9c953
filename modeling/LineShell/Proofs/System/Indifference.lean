import LineShell.Proofs.System.Worlds

/-!
# Worlds that do not mind what is displayed

* **`Indifferent`** — a world in which standard output can be written and nothing else depends on
  what was written to it;
* **`Indifferent.ends`** — in states that differ in that alone a program comes to the same ends;
* **`Quiet`** — a program that can only end well, and does not change such a world as far as can
  be told. Quiet programs in a row are quiet (`Quiet.bind`).
-/

namespace LineShell.Prog

variable {σ : Type} {world : World σ} {alike : σ → σ → Prop} {α β : Type}

/-- Standard output can be written, and nothing else in the world depends on what was written to
it: states that differ in that alone are alike, and requests are answered alike in them. -/
structure Indifferent (world : World σ) (alike : σ → σ → Prop) : Prop where
  /-- To be alike is an equivalence. -/
  equivalence : Equivalence alike
  /-- Whatever may be answered in one of two states that are alike may be answered in the other. -/
  answers : ∀ {s t s' : σ} {call : Call} {answer : call.Result}, alike s t →
    world s call answer s' → ∃ t', world t call answer t' ∧ alike s' t'
  /-- What is held back for standard output makes no difference. -/
  put : ∀ s bytes, (∃ s', world s (.put bytes) () s') ∧
    ∀ s', world s (.put bytes) () s' → alike s s'
  /-- It can be written out, and that makes no difference either. -/
  flush : ∀ s, (∃ s', world s .flush (.ok ()) s') ∧
    ∀ answer s', world s .flush answer s' → answer = .ok () ∧ alike s s'

/-- A program that can only end well, and does not change the world as far as can be told. -/
def Quiet (world : World σ) (alike : σ → σ → Prop) (program : Prog α) (good : α → Prop) : Prop :=
  ∀ s, (∃ value s', Ends world program s value s') ∧
    ∀ value s', Ends world program s value s' → good value ∧ alike s s'

/-- States that are alike let a program come to the same ends. -/
theorem Indifferent.ends (hworld : Indifferent world alike) {program : Prog α} {s s' : σ}
    {value : α} (h : Ends world program s value s') :
    ∀ {t : σ}, alike s t → ∃ t', Ends world program t value t' ∧ alike s' t' := by
  induction h with
  | pure => exact fun halike => ⟨_, .pure, halike⟩
  | repeated hw hagain _ ih =>
      intro t halike
      obtain ⟨middle, hw', hmiddle⟩ := hworld.answers halike hw
      obtain ⟨t', hends, hlast⟩ := ih hmiddle
      exact ⟨t', .repeated hw' hagain hends, hlast⟩
  | answered hw hagain _ ih =>
      intro t halike
      obtain ⟨middle, hw', hmiddle⟩ := hworld.answers halike hw
      obtain ⟨t', hends, hlast⟩ := ih hmiddle
      exact ⟨t', .answered hw' hagain hends, hlast⟩
  | unrolled _ ih =>
      intro t halike
      obtain ⟨t', hends, hlast⟩ := ih halike
      exact ⟨t', .unrolled hends, hlast⟩

theorem quiet_pure (hworld : Indifferent world alike) {value : α} {good : α → Prop}
    (h : good value) : Quiet world alike (.pure value) good := by
  refine fun s => ⟨⟨value, s, .pure⟩, fun other s' hends => ?_⟩
  obtain ⟨rfl, rfl⟩ := ends_pure_iff.mp hends
  exact ⟨h, hworld.equivalence.refl _⟩

theorem Quiet.imp {program : Prog α} {good better : α → Prop} (h : Quiet world alike program good)
    (himp : ∀ value, good value → better value) : Quiet world alike program better :=
  fun s => ⟨(h s).1, fun value s' hends => ⟨himp _ ((h s).2 value s' hends).1,
    ((h s).2 value s' hends).2⟩⟩

/-- Two quiet programs in a row are quiet. -/
theorem Quiet.bind (hworld : Indifferent world alike) {program : Prog α} {rest : α → Prog β}
    {good : α → Prop} {better : β → Prop} (h : Quiet world alike program good)
    (hrest : ∀ value, good value → Quiet world alike (rest value) better) :
    Quiet world alike (program.bind rest) better := by
  intro s
  obtain ⟨⟨value, middle, hends⟩, hgood⟩ := h s
  obtain ⟨⟨other, s', hother⟩, -⟩ := hrest value (hgood _ _ hends).1 middle
  refine ⟨⟨other, s', hends.bind hother⟩, fun last s'' hlast => ?_⟩
  obtain ⟨value, middle, hfirst, hsecond⟩ := ends_bind_iff.mp hlast
  obtain ⟨hvalue, hmiddle⟩ := hgood _ _ hfirst
  obtain ⟨hbetter, hafter⟩ := (hrest value hvalue middle).2 _ _ hsecond
  exact ⟨hbetter, hworld.equivalence.trans hmiddle hafter⟩

theorem quiet_put (hworld : Indifferent world alike) (bytes : Bytes) :
    Quiet world alike (call (.put bytes)) (· = ()) := by
  intro s
  obtain ⟨⟨s', hw⟩, halike⟩ := hworld.put s bytes
  exact ⟨⟨(), s', ends_call_iff.mpr hw⟩, fun _ s'' h => ⟨rfl, halike s'' (ends_call_iff.mp h)⟩⟩

theorem quiet_flush (hworld : Indifferent world alike) :
    Quiet world alike (call .flush) (· = .ok ()) := by
  intro s
  obtain ⟨⟨s', hw⟩, halike⟩ := hworld.flush s
  exact ⟨⟨.ok (), s', ends_call_iff.mpr hw⟩,
    fun answer s'' h => halike answer s'' (ends_call_iff.mp h)⟩

theorem quiet_loop {τ : Type} {body : τ → Prog (τ ⊕ β)} {state : τ} {next : β → Prog α}
    {good : α → Prop} (h : Quiet world alike (unroll body state next) good) :
    Quiet world alike (.loop body state next) good := by
  intro s
  simp only [ends_loop_iff]
  exact h s

end LineShell.Prog
