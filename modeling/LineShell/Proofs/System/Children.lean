import LineShell.Proofs.System.Effects

/-!
# Processes and their children

Who there is after a step, whatever the process that makes it asks.

* **`Heir`** — what a step leaves of a process: its number, its parent, its ending if it has ended,
  and its program if it does not make the step itself;
* **`news?`** — the end of a child that a process is told of in its next step;
* **`step_census`** — nobody is new but the child of a process that forks, and nobody is gone but
  the child whose end its parent is told.
-/

namespace LineShell.System

variable {α : Type} {launch : Launcher} {s s' after : System α} {pid mover : Pid}
  {p q old mid answered changed : Process α}

/-! ## Heirs -/

/-- What a step of a process leaves of another process, or of itself. Only a process that asks for
it exits. -/
structure Heir (mover : Pid) (old q : Process α) : Prop where
  pid : q.pid = old.pid
  parent : q.parent = old.parent
  program : old.pid ≠ mover → q.program = old.program
  ended : ∀ ending, old.ending = some ending → q.ending = some ending
  exits : old.ending = none → ∀ code, q.ending = some (.exited code) → old.pid = mover ∧
    ∃ asked, old.program.request? = some (.exit asked) ∧ code = (asked % 256).toNat

theorem heir_of_ending (hpid : q.pid = p.pid) (hparent : q.parent = p.parent)
    (hprogram : p.pid ≠ mover → q.program = p.program) (hending : q.ending = p.ending) :
    Heir mover p q :=
  ⟨hpid, hparent, hprogram, fun _ h => hending.trans h, fun hnone _ hsome => by
    rw [hending, hnone] at hsome
    cases hsome⟩

theorem Heir.refl : Heir mover p p := heir_of_ending rfl rfl (fun _ => rfl) rfl

/-- A process that makes a step and does not end in it. -/
theorem heir_of_own (hpid : q.pid = p.pid) (hparent : q.parent = p.parent)
    (hending : q.ending = p.ending) : Heir p.pid p q :=
  heir_of_ending hpid hparent (fun hne => absurd rfl hne) hending

theorem Heir.reprogram (h : Heir mover old mid) (hpid : old.pid = mover) {program : Prog α} :
    Heir mover old { mid with program := program } :=
  ⟨h.pid, h.parent, fun hne => absurd hpid hne, h.ended, h.exits⟩

/-- Processes have become others, one by one. -/
def Heirs (mover : Pid) (olds news : List (Process α)) : Prop :=
  ∃ f : Process α → Process α, (∀ old ∈ olds, Heir mover old (f old)) ∧ news = olds.map f

theorem Heirs.refl {processes : List (Process α)} : Heirs mover processes processes :=
  ⟨id, fun _ _ => .refl, (List.map_id processes).symm⟩

theorem Heirs.map_pid {olds news : List (Process α)} (h : Heirs mover olds news) :
    news.map Process.pid = olds.map Process.pid := by
  obtain ⟨f, hf, rfl⟩ := h
  rw [List.map_map]
  exact List.map_congr_left fun old hold => (hf old hold).pid

theorem Heirs.of_mem {olds news : List (Process α)} (h : Heirs mover olds news) (hq : q ∈ news) :
    ∃ old ∈ olds, Heir mover old q := by
  obtain ⟨f, hf, rfl⟩ := h
  obtain ⟨old, hold, rfl⟩ := List.mem_map.mp hq
  exact ⟨old, hold, hf old hold⟩

theorem Heirs.exists_heir {olds news : List (Process α)} (h : Heirs mover olds news)
    (hold : old ∈ olds) : ∃ q ∈ news, Heir mover old q := by
  obtain ⟨f, hf, rfl⟩ := h
  exact ⟨f old, List.mem_map_of_mem hold, hf old hold⟩

/-- One process has changed. -/
theorem heirs_setProcess
    (h : ∀ old ∈ after.processes, old.pid = changed.pid → Heir mover old changed) :
    Heirs mover after.processes (after.setProcess changed).processes := by
  refine ⟨fun old => if old.pid == changed.pid then changed else old, fun old hold => ?_, rfl⟩
  dsimp only
  split
  · rename_i hpid
    exact h old hold (beq_iff_eq.mp hpid)
  · exact .refl

theorem Heirs.reprogram (h : Heirs mover s.processes after.processes) (hdistinct : after.Distinct)
    (hq : after.process? mover = some q) {program : Prog α} :
    Heirs mover s.processes (after.setProcess { q with program := program }).processes := by
  obtain ⟨f, hf, hafter⟩ := h
  have hpid := (mem_of_process? hq).2
  refine ⟨fun old => if (f old).pid == q.pid then { q with program := program } else f old,
    fun old hold => ?_, ?_⟩
  · dsimp only
    split
    · rename_i hsame
      have hsame := beq_iff_eq.mp hsame
      have hmem : f old ∈ after.processes := hafter ▸ List.mem_map_of_mem hold
      obtain rfl := hdistinct.eq_of_pid hmem (mem_of_process? hq).1 hsame.symm
      exact (hf old hold).reprogram ((hf old hold).pid.symm.trans (hsame.trans hpid))
    · exact hf old hold
  · unfold setProcess
    rw [hafter, List.map_map]
    rfl

/-! ## Ends of children -/

/-- The end of a child that the answer to a request tells of. -/
def news? (s : System α) (pid : Pid) (call : Call) : Option (Pid × Ending) :=
  (awaited? call).bind fun child =>
    match s.waitFor pid child with
    | some (.ok (pid, .ended ending), _) => some (pid, ending)
    | _ => none

/-- What is told of the end of a child is told to one who waits for it. -/
theorem waitFor_of_news? {call : Call} {child : Pid} {ending : Ending}
    (h : news? s pid call = some (child, ending)) : ∃ awaited after, awaited? call = some awaited ∧
      s.waitFor pid awaited = some (.ok (child, .ended ending), after) := by
  unfold news? at h
  obtain ⟨awaited, hcall, h⟩ := Option.bind_eq_some_iff.mp h
  split at h
  · rename_i told later after hwait
    cases h
    exact ⟨awaited, after, hcall, hwait⟩
  · cases h

theorem news?_of_error {call : Call} {child : Option Pid} {errno : Errno}
    (hcall : awaited? call = some child) (h : s.waitFor pid child = some (.error errno, after)) :
    news? s pid call = none := by
  unfold news?
  rw [hcall, Option.bind_some, h]

theorem news?_of_ended {call : Call} {child : Option Pid} {gone : Pid} {ending : Ending}
    (hcall : awaited? call = some child)
    (h : s.waitFor pid child = some (.ok (gone, .ended ending), after)) :
    news? s pid call = some (gone, ending) := by
  unfold news?
  rw [hcall, Option.bind_some, h]

/-! ## Answers -/

/-- What an answer leaves of who there is: the asking process is who it was, and nobody is gone but
the child whose end it is told. -/
structure Settled (s : System α) (p : Process α) (call : Call) (after : System α)
    (answered : Process α) : Prop where
  pid : answered.pid = p.pid
  parent : answered.parent = p.parent
  ending : answered.ending = p.ending
  nextPid : after.nextPid = s.nextPid
  stay : news? s p.pid call = none → after.processes = s.processes
  gone : ∀ child ending, news? s p.pid call = some (child, ending) →
    after.processes = (s.forget child).processes ∧
      ∃ q ∈ s.processes, q.pid = child ∧ q.parent = p.pid ∧ q.ending = some ending

theorem Settled.subset {call : Call} (h : Settled s p call after answered) :
    ∀ q ∈ after.processes, q ∈ s.processes := by
  intro q hq
  cases hnews : news? s p.pid call with
  | none => exact h.stay hnews ▸ hq
  | some told =>
      rw [(h.gone _ _ hnews).1] at hq
      exact (mem_forget.mp hq).1

theorem settled_of_self {call : Call} (hcall : awaited? call = none)
    (hprocesses : after.processes = s.processes) (hnext : after.nextPid = s.nextPid)
    (hpid : answered.pid = p.pid) (hparent : answered.parent = p.parent)
    (hending : answered.ending = p.ending) : Settled s p call after answered := by
  have hnone : news? s p.pid call = none := by
    unfold news?
    rw [hcall]
    rfl
  refine ⟨hpid, hparent, hending, hnext, fun _ => hprocesses, fun child ending hsome => ?_⟩
  rw [hnone] at hsome
  cases hsome

theorem settled_of_waitFor {call : Call} {child : Option Pid}
    {reply : Except Errno (Pid × ChildNews)} (hcall : awaited? call = some child)
    (h : s.waitFor p.pid child = some (reply, after)) : Settled s p call after p := by
  rcases waitFor_cases h with ⟨errno, rfl, rfl⟩ | ⟨gone, hgone, ending, hparent, hending, -, rfl, rfl⟩
  · refine ⟨rfl, rfl, rfl, rfl, fun _ => rfl, fun other ending hsome => ?_⟩
    cases (news?_of_error hcall h).symm.trans hsome
  · have hnews := news?_of_ended hcall h
    refine ⟨rfl, rfl, rfl, rfl, fun hnone => ?_, fun other told hsome => ?_⟩
    · cases hnews.symm.trans hnone
    · cases hnews.symm.trans hsome
      exact ⟨rfl, gone, hgone, rfl, hparent, hending⟩

theorem settled_of_idle {call : Call} {child : Option Pid} (hcall : awaited? call = some child)
    (h : s.waitFor p.pid child = none) : Settled s p call s p := by
  have hnone : news? s p.pid call = none := by
    unfold news?
    rw [hcall, Option.bind_some, h]
  refine ⟨rfl, rfl, rfl, rfl, fun _ => rfl, fun child ending hsome => ?_⟩
  rw [hnone] at hsome
  cases hsome

theorem answer_settled {call : Call} {reply : call.Result}
    (h : s.answer p call = some (reply, answered, after)) : Settled s p call after answered := by
  cases answer_cases h with
  | still hcall | shared hcall | rearranged hcall | adjusted hcall =>
      exact settled_of_self hcall rfl rfl rfl rfl rfl
  | closed | placed | resized | moved => exact settled_of_self rfl rfl rfl rfl rfl rfl
  | opened hopened => cases hopened <;> exact settled_of_self rfl rfl rfl rfl rfl rfl
  | piped hmade =>
      obtain ⟨-, rfl, rfl⟩ := openPipe_ok hmade
      exact settled_of_self rfl rfl rfl rfl rfl rfl
  | told hcall hwait => exact settled_of_waitFor hcall hwait
  | waiting hcall hwait => exact settled_of_idle hcall hwait
  | read hread =>
      have hquiet := quiet_readSome hread
      exact settled_of_self rfl hquiet.processes hquiet.nextPid rfl rfl rfl

/-! ## Steps -/

/-- Who there is after a step of a process. -/
inductive Census (s : System α) (p : Process α) (after : System α) : Prop
  | same : p.program.request? ≠ some .fork → p.program.request?.bind (news? s p.pid) = none →
      Heirs p.pid s.processes after.processes → after.nextPid = s.nextPid → Census s p after
  | born {child : Process α} {processes : List (Process α)} : p.program.request? = some .fork →
      Heirs p.pid s.processes processes → after.processes = processes ++ [child] →
      child.pid = s.nextPid → child.parent = p.pid → child.ending = none →
      after.nextPid = s.nextPid + 1 → Census s p after
  | buried {gone : Process α} {ending : Ending} : p.program.request? ≠ some .fork →
      p.program.request?.bind (news? s p.pid) = some (gone.pid, ending) → gone ∈ s.processes →
      gone.parent = p.pid → gone.ending = some ending →
      Heirs p.pid (s.forget gone.pid).processes after.processes → after.nextPid = s.nextPid →
      Census s p after

theorem heirs_of_process? (hdistinct : s.Distinct) (hp : s.process? pid = some p)
    (hheir : Heir mover p changed) : Heirs mover s.processes (s.setProcess changed).processes := by
  refine heirs_setProcess fun old hold hsame => ?_
  obtain rfl := hdistinct.eq_of_pid (mem_of_process? hp).1 hold (hsame.trans hheir.pid)
  exact hheir

/-- A process that a signal ends is killed, and does not exit. -/
theorem Struck.heir (h : Struck p q) (halive : p.ending = none) : Heir mover p q := by
  cases h with
  | noted | halted => exact heir_of_ending rfl rfl (fun _ => rfl) rfl
  | killed number =>
      refine ⟨rfl, rfl, fun _ => rfl, fun ending hended => ?_, fun _ code hexited => ?_⟩
      · cases halive.symm.trans hended
      · cases hexited

/-- A signal leaves all processes there, and lets none of them exit. -/
theorem heirs_signal (hdistinct : s.Distinct) (mover target : Pid) (number : Signal) :
    (s.signal target number).2.nextPid = s.nextPid ∧
      Heirs mover s.processes (s.signal target number).2.processes := by
  rcases signal_cases s target number with heq | ⟨p, changed, hp, halive, hstruck, heq⟩
  · rw [heq]
    exact ⟨rfl, .refl⟩
  · rw [heq]
    exact ⟨rfl, heirs_of_process? hdistinct hp (hstruck.heir halive)⟩

theorem become_parent {path : Bytes} {arguments : List Bytes} {bindings : Variables}
    (h : s.become launch p path arguments bindings = .ok changed) : changed.parent = p.parent := by
  unfold become at h
  split at h
  · cases h
  · split at h
    · cases h
    · cases h
      rfl

/-- A step that changes nothing but its process. -/
theorem census_of_quiet {call : Call} (hdistinct : s.Distinct) (hp : s.process? pid = some p)
    (hcall : p.program.request? = some call) (hfork : call ≠ .fork) (hwait : awaited? call = none)
    (hprocesses : after.processes = s.processes) (hnext : after.nextPid = s.nextPid)
    (hheir : Heir p.pid p changed) : Census s p (after.setProcess changed) := by
  refine .same ?_ ?_ ?_ hnext
  · rw [hcall]
    exact fun heq => hfork (Option.some.inj heq)
  · rw [hcall, Option.bind_some]
    unfold news?
    rw [hwait]
    rfl
  · have hheirs := heirs_of_process? hdistinct hp hheir
    unfold setProcess at hheirs ⊢
    rw [hprocesses]
    exact hheirs

/-- A step that answers a request. -/
theorem census_of_answer {call : Call} (hdistinct : s.Distinct) (hp : p ∈ s.processes)
    (hcall : p.program.request? = some call) (hfork : call ≠ .fork)
    (hsettled : Settled s p call after answered) {program : Prog α} :
    Census s p (after.setProcess { answered with program := program }) := by
  have hnot : p.program.request? ≠ some .fork := by
    rw [hcall]
    exact fun heq => hfork (Option.some.inj heq)
  have hheirs : Heirs p.pid after.processes
      (after.setProcess { answered with program := program }).processes := by
    refine heirs_setProcess fun old hold hsame => ?_
    obtain rfl := hdistinct.eq_of_pid hp (hsettled.subset old hold) (hsame.trans hsettled.pid)
    exact heir_of_own hsettled.pid hsettled.parent hsettled.ending
  cases hnews : news? s p.pid call with
  | none =>
      refine .same hnot (by rw [hcall]; exact hnews) ?_ hsettled.nextPid
      rw [← hsettled.stay hnews]
      exact hheirs
  | some told =>
      obtain ⟨hprocesses, gone, hgone, hsame, hparent, hending⟩ := hsettled.gone _ _ hnews
      refine .buried hnot (by rw [hcall, hsame]; exact hnews) hgone hparent hending ?_
        hsettled.nextPid
      rw [hsame, ← hprocesses]
      exact hheirs

/-- Nobody is new after a step but the child of a process that forks, and nobody is gone but the
child whose end its parent is told. -/
theorem step_census (hdistinct : s.Distinct) (hp : s.process? pid = some p)
    (hactive : p.active = true) (h : step launch s pid = some s') : Census s p s' := by
  obtain ⟨hmem, hpid⟩ := mem_of_process? hp
  have halive := ending_of_active hactive
  have hrequest : ∀ {call : Call} {again : call.Result → Bool} {next : call.Result → Prog α},
      p.program = .ask call again next → p.program.request? = some call :=
    fun hprogram => by rw [hprogram]; rfl
  cases step_cases hp hactive h with
  | unrolled hprogram =>
      have hnone : p.program.request? = none := by rw [hprogram]; rfl
      refine .same (by simp [hnone]) (by rw [hnone]; rfl) ?_ rfl
      exact heirs_of_process? hdistinct hp (heir_of_own rfl rfl rfl)
  | @answered call _ _ _ _ _ hprogram hspecial hanswer =>
      have hfork : call ≠ .fork := by
        rintro rfl
        cases hspecial
      exact census_of_answer hdistinct hmem (hrequest hprogram) hfork (answer_settled hanswer)
  | forked hprogram =>
      refine .born (hrequest hprogram) ?_ rfl rfl rfl halive rfl
      exact heirs_of_process? hdistinct hp (heir_of_own rfl rfl rfl)
  | became hprogram hbecome =>
      obtain ⟨hsame, hending, -⟩ := become_ok hbecome
      have hparent := become_parent hbecome
      exact census_of_quiet hdistinct hp (hrequest hprogram) (by simp) rfl rfl rfl
        (heir_of_own hsame hparent hending)
  | refused hprogram =>
      exact census_of_quiet hdistinct hp (hrequest hprogram) (by simp) rfl rfl rfl
        (heir_of_own rfl rfl rfl)
  | idle hprogram =>
      exact census_of_quiet hdistinct hp (hrequest hprogram) (by simp) rfl rfl rfl
        (heir_of_own rfl rfl rfl)
  | @exited code _ _ hprogram =>
      refine census_of_quiet hdistinct hp (hrequest hprogram) (by simp) rfl rfl rfl
        ⟨rfl, rfl, fun hne => absurd rfl hne, fun ending hended => ?_, fun _ exited hexited => ?_⟩
      · cases halive.symm.trans hended
      · cases hexited
        exact ⟨rfl, code, hrequest hprogram, rfl⟩
  | read hprogram hread =>
      have hquiet := quiet_readSome hread
      exact census_of_quiet hdistinct hp (hrequest hprogram) (by simp) rfl hquiet.processes
        hquiet.nextPid (heir_of_own rfl rfl rfl)
  | wrote hprogram hwrite =>
      have hquiet := quiet_writeSome hwrite
      exact census_of_quiet hdistinct hp (hrequest hprogram) (by simp) rfl hquiet.processes
        hquiet.nextPid (heir_of_own rfl rfl rfl)
  | dropped hprogram _ hwrite | flushed hprogram _ hwrite =>
      have hquiet := quiet_writeSome hwrite
      exact census_of_quiet hdistinct hp (hrequest hprogram) (by simp) rfl hquiet.processes
        hquiet.nextPid (heir_of_own rfl rfl rfl)
  | @signalled target number _ _ own hprogram hown =>
      obtain ⟨hnext, hheirs⟩ := heirs_signal hdistinct p.pid target number
      -- it may be the process itself that is killed
      refine .same (by rw [hrequest hprogram]; simp) (by rw [hrequest hprogram]; rfl)
        (hheirs.reprogram ?_ hown) hnext
      unfold Distinct
      rw [hheirs.map_pid]
      exact hdistinct

/-! ## Passages -/

/-- Who there is after a move, as seen from those who were there and from those who are. One process
may have forked, and been told of the end of a child. -/
structure Passage (mover : Pid) (forks : Bool) (news : Option (Pid × Ending)) (s s' : System α) :
    Prop where
  next : s.nextPid ≤ s'.nextPid
  numbered : ∀ q ∈ s'.processes, q.pid < s'.nextPid
  distinct : s'.Distinct
  origins : ∀ q ∈ s'.processes, (∃ old ∈ s.processes, Heir mover old q) ∨
    forks = true ∧ q.pid = s.nextPid ∧ q.parent = mover ∧ q.ending = none
  stays : ∀ old ∈ s.processes, (∃ q ∈ s'.processes, Heir mover old q) ∨
    ∃ ending, news = some (old.pid, ending)
  born : forks = true → ∃ q ∈ s'.processes, q.pid = s.nextPid ∧ q.parent = mover ∧ q.ending = none
  gone : ∀ child ending, news = some (child, ending) → (∀ q ∈ s'.processes, q.pid ≠ child) ∧
    ∃ old ∈ s.processes, old.pid = child ∧ old.parent = mover ∧ old.ending = some ending

theorem passage_of_heirs (hdistinct : s.Distinct) (hnumbered : ∀ q ∈ s.processes, q.pid < s.nextPid)
    (h : Heirs mover s.processes s'.processes) (hnext : s'.nextPid = s.nextPid) :
    Passage mover false none s s' where
  next := Nat.le_of_eq hnext.symm
  numbered := by
    intro q hq
    obtain ⟨old, hold, hheir⟩ := h.of_mem hq
    rw [hheir.pid, hnext]
    exact hnumbered old hold
  distinct := by
    unfold Distinct
    rw [h.map_pid]
    exact hdistinct
  origins := fun q hq => .inl (h.of_mem hq)
  stays := fun old hold => .inl (h.exists_heir hold)
  born := fun hfork => absurd hfork Bool.false_ne_true
  gone := fun _ _ hnews => by cases hnews

/-- A step of a process is a passage, in which it forks if it asks for that. -/
theorem step_passage (hdistinct : s.Distinct) (hnumbered : ∀ q ∈ s.processes, q.pid < s.nextPid)
    (hp : s.process? pid = some p) (hactive : p.active = true)
    (h : step launch s pid = some s') : Passage pid (p.program.request? == some .fork)
      (p.program.request?.bind (news? s pid)) s s' := by
  obtain ⟨hmem, rfl⟩ := mem_of_process? hp
  have hkeeps := step_keeps hdistinct hnumbered h
  cases step_census hdistinct hp hactive h with
  | same hfork hnews hheirs hnext =>
      rw [beq_false_of_ne hfork, hnews]
      exact passage_of_heirs hdistinct hnumbered hheirs hnext
  | @born child processes hfork hheirs hprocesses hpid hparent hending hnext =>
      rw [beq_iff_eq.mpr hfork, hfork]
      have hchild : child ∈ s'.processes := by
        rw [hprocesses]
        exact List.mem_append_right _ List.mem_cons_self
      refine ⟨hkeeps.next, hkeeps.numbered, hkeeps.distinct, fun q hq => ?_, fun old hold => .inl ?_,
        fun _ => ⟨child, hchild, hpid, hparent, hending⟩, fun _ _ hnews => by cases hnews⟩
      · rw [hprocesses] at hq
        rcases List.mem_append.mp hq with hq | hq
        · exact .inl (hheirs.of_mem hq)
        · rw [List.mem_singleton.mp hq]
          exact .inr ⟨rfl, hpid, hparent, hending⟩
      · obtain ⟨q, hq, hheir⟩ := hheirs.exists_heir hold
        refine ⟨q, ?_, hheir⟩
        rw [hprocesses]
        exact List.mem_append_left _ hq
  | @buried gone ending hfork hnews hgone hparent hending hheirs hnext =>
      rw [beq_false_of_ne hfork, hnews]
      -- all have their heirs but the one that is forgotten, and it had ended
      refine ⟨hkeeps.next, hkeeps.numbered, hkeeps.distinct, fun q hq => .inl ?_, fun old hold => ?_,
        fun hfalse => absurd hfalse Bool.false_ne_true, ?_⟩
      · obtain ⟨old, hold, hheir⟩ := hheirs.of_mem hq
        exact ⟨old, (mem_forget.mp hold).1, hheir⟩
      · by_cases hsame : old.pid = gone.pid
        · exact .inr ⟨ending, by rw [hsame]⟩
        · exact .inl (hheirs.exists_heir (mem_forget.mpr ⟨hold, hsame⟩))
      · intro child told hsome
        cases hsome
        refine ⟨fun q hq hsame => ?_, gone, hgone, rfl, hparent, hending⟩
        obtain ⟨old, hold, hheir⟩ := hheirs.of_mem hq
        exact (mem_forget.mp hold).2 (hheir.pid.symm.trans hsame)

end LineShell.System
