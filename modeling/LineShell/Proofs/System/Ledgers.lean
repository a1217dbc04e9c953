import LineShell.Proofs.System.Allotments
import LineShell.Proofs.System.Children

/-!
# What one process does while all others move

One process is watched on a machine on which time passes, signals come from outside and every
process makes steps, in any order. A ledger is kept of what the process has taken and given up.

* **`Undisturbed`** — what the others leave of a process (`step_undisturbed`, `signal_undisturbed`);
* **`Ledger`** — the numbers, pipes, files and children of the watched process;
* **`Course`** — the states that are reached, with the ledger of the way there;
* **`Course.keeps`** — what holds of the process in all of them.
-/

namespace LineShell.System

variable {α : Type} {launch : Launcher} {s s' after : System α} {pid watched : Pid}
  {p q old mid changed : Process α}

/-! ## What the others leave of a process -/

/-- The process is as it was but for the signals that have come, unless it has ended. -/
structure Undisturbed (old q : Process α) : Prop where
  pid : q.pid = old.pid
  program : q.program = old.program
  limit : q.limit = old.limit
  directory : q.directory = old.directory
  bindings : q.bindings = old.bindings
  mask : q.mask = old.mask
  underway : q.ending = none →
    old.ending = none ∧ q.table = old.table ∧ q.pending = old.pending

theorem Undisturbed.refl : Undisturbed p p := ⟨rfl, rfl, rfl, rfl, rfl, rfl, fun h => ⟨h, rfl, rfl⟩⟩

/-- What has been left undisturbed had the same number before. -/
theorem Undisturbed.process? (h : Undisturbed p q) (hdistinct : s.Distinct) (hp : p ∈ s.processes)
    (hpid : q.pid = pid) : s.process? pid = some p :=
  hdistinct.process?_of_pid hp (h.pid.symm.trans hpid)

theorem Struck.undisturbed (h : Struck p q) : Undisturbed p q := by
  cases h with
  | noted | halted => exact ⟨rfl, rfl, rfl, rfl, rfl, rfl, fun h => ⟨h, rfl, rfl⟩⟩
  | killed => exact ⟨rfl, rfl, rfl, rfl, rfl, rfl, fun h => by cases h⟩

theorem signal_undisturbed {target : Pid} {number : Signal}
    (hq : q ∈ (s.signal target number).2.processes) : ∃ old ∈ s.processes, Undisturbed old q := by
  rcases signal_cases s target number with heq | ⟨p, changed, hp, -, hstruck, heq⟩
  · rw [heq] at hq
    exact ⟨q, hq, .refl⟩
  · rw [heq] at hq
    rcases mem_setProcess.mp hq with ⟨rfl, -⟩ | ⟨hq, -⟩
    · exact ⟨p, (mem_of_process? hp).1, hstruck.undisturbed⟩
    · exact ⟨q, hq, .refl⟩

/-- A step leaves every other process undisturbed, and adds one under the next number at most. -/
theorem step_undisturbed (hstep : step launch s pid = some s') (hq : q ∈ s'.processes)
    (hne : q.pid ≠ pid) : q.pid = s.nextPid ∨ ∃ old ∈ s.processes, Undisturbed old q := by
  obtain ⟨p, hp, hactive⟩ := process?_of_step hstep
  obtain ⟨hmem, rfl⟩ := mem_of_process? hp
  -- only the process that moves is replaced
  have hset : ∀ {after : System α} {changed : Process α}, q ∈ (after.setProcess changed).processes →
      changed.pid = p.pid → (∀ q ∈ after.processes, q ∈ s.processes) →
      ∃ old ∈ s.processes, Undisturbed old q := by
    intro after changed hq hchanged hsubset
    rcases mem_setProcess.mp hq with ⟨rfl, -⟩ | ⟨hq, -⟩
    · exact absurd hchanged hne
    · exact ⟨q, hsubset q hq, .refl⟩
  have hquiet : ∀ {after : System α}, Quiet s after → ∀ q ∈ after.processes, q ∈ s.processes :=
    fun h q hq => h.processes ▸ hq
  cases step_cases hp hactive hstep with
  | unrolled | refused | exited | idle => exact .inr (hset hq rfl fun _ h => h)
  | answered _ _ hanswer =>
      have hsettled := answer_settled hanswer
      exact .inr (hset hq hsettled.pid hsettled.subset)
  | forked =>
      rcases List.mem_append.mp hq with hq | hq
      · exact .inr (hset hq rfl fun _ h => h)
      · exact .inl (congrArg Process.pid (List.mem_singleton.mp hq))
  | became _ hbecome =>
      have hsame := (become_ok hbecome).1
      exact .inr (hset hq hsame fun _ h => h)
  | read _ hread => exact .inr (hset hq rfl (hquiet (quiet_readSome hread)))
  | wrote _ hwrite | dropped _ _ hwrite | flushed _ _ hwrite =>
      exact .inr (hset hq rfl (hquiet (quiet_writeSome hwrite)))
  | signalled _ hown =>
      rcases mem_setProcess.mp hq with ⟨rfl, -⟩ | ⟨hq, -⟩
      · exact absurd (mem_of_process? hown).2 hne
      · exact .inr (signal_undisturbed hq)

/-- No pipe is ever gone. -/
theorem pipes_le_of_step (hdistinct : s.Distinct) (hstep : step launch s pid = some s') :
    s.pipes.length ≤ s'.pipes.length := by
  obtain ⟨p, hp, hactive⟩ := process?_of_step hstep
  rcases plain_cases p.program with hplain | ⟨again, next, hprogram⟩ |
    ⟨path, access, closeOnExec, again, next, hprogram⟩
  · exact (step_effect_of_plain hdistinct hp hplain hstep).pipes
  · cases hstep.symm.trans (step_fork hp hactive hprogram)
    exact Nat.le_refl _
  · obtain ⟨reply, answered, after, hopened, rfl⟩ := step_openPath hp hactive hstep hprogram
    cases hopened with
    | refused | opened => exact Nat.le_refl _

/-! ## Ledgers -/

/-- What a process has taken and given up, and what came of it. -/
structure Ledger where
  /-- The entries of its table that were not there before. -/
  taken : Table := []
  /-- The numbers that it has given up. -/
  closed : List Fd := []
  /-- The pipes that it has made. -/
  pipes : List PipeId := []
  /-- The paths that it has opened, and what they were opened as. -/
  opened : List (Bytes × Handle) := []
  /-- The processes that it has made. -/
  children : List Pid := []
  /-- How many steps it has made. -/
  rounds : Nat := 0

/-- The number that a request gives up. -/
def closing? : Call → Option Fd
  | .close fd => some fd
  | _ => none

/-- The path that a request opens. -/
def opening? : Call → Option Bytes
  | .openPath path _ _ => some path
  | _ => none

/-- The ledger after a step of the process. -/
def Ledger.note (ledger : Ledger) (s s' : System α) (p q : Process α) : Ledger where
  taken := ledger.taken ++ Table.gained p.table q.table
  closed := ledger.closed ++ (p.program.request?.bind closing?).toList
  pipes := ledger.pipes ++ List.range' s.pipes.length (s'.pipes.length - s.pipes.length)
  opened := ledger.opened ++ (p.program.request?.bind opening?).toList.flatMap fun path =>
    (Table.gained p.table q.table).map fun entry => (path, entry.2.handle)
  children := ledger.children ++ List.range' s.nextPid (s'.nextPid - s.nextPid)
  rounds := ledger.rounds + 1

section Notes

variable {ledger : Ledger}

/-- A step that opens nothing and makes nothing. -/
theorem Ledger.note_still {call : Call} (hrequest : p.program.request? = some call)
    (hgained : Table.gained p.table q.table = []) (hpipes : s'.pipes.length = s.pipes.length)
    (hnext : s'.nextPid = s.nextPid) : ledger.note s s' p q = { ledger with
      closed := ledger.closed ++ (closing? call).toList
      rounds := ledger.rounds + 1 } := by
  unfold Ledger.note
  rw [hrequest, hgained, hpipes, hnext, Nat.sub_self, Nat.sub_self]
  cases opening? call <;> simp

/-- A step that leaves all open files makes nothing, too. -/
theorem Ledger.note_kept {call : Call} (hrequest : p.program.request? = some call)
    (htable : q.table = p.table) (hpipes : s'.pipes.length = s.pipes.length)
    (hnext : s'.nextPid = s.nextPid) : ledger.note s s' p q = { ledger with
      closed := ledger.closed ++ (closing? call).toList
      rounds := ledger.rounds + 1 } :=
  Ledger.note_still hrequest (by rw [htable, Table.gained_self]) hpipes hnext

/-- A step that opens a path. -/
theorem Ledger.note_opened {path : Bytes} {access : Access} {closeOnExec : Bool} {fd : Fd}
    {descriptor : Descriptor}
    (hrequest : p.program.request? = some (.openPath path access closeOnExec))
    (hfree : p.table.get? fd = none) (htable : q.table = p.table.set fd descriptor)
    (hpipes : s'.pipes.length = s.pipes.length) (hnext : s'.nextPid = s.nextPid) :
    ledger.note s s' p q = { ledger with
      taken := ledger.taken ++ [(fd, descriptor)]
      opened := ledger.opened ++ [(path, descriptor.handle)]
      rounds := ledger.rounds + 1 } := by
  unfold Ledger.note
  rw [hrequest, htable, Table.gained_set hfree, hpipes, hnext, Nat.sub_self, Nat.sub_self]
  simp [closing?, opening?]

/-- A step that makes a pipe. -/
theorem Ledger.note_piped (hrequest : p.program.request? = some .pipe)
    (hpipes : s'.pipes.length = s.pipes.length + 1) (hnext : s'.nextPid = s.nextPid) :
    ledger.note s s' p q = { ledger with
      taken := ledger.taken ++ Table.gained p.table q.table
      pipes := ledger.pipes ++ [s.pipes.length]
      rounds := ledger.rounds + 1 } := by
  unfold Ledger.note
  rw [hrequest, hpipes, hnext, Nat.sub_self, Nat.add_sub_cancel_left]
  simp [closing?, opening?]

theorem Ledger.note_children (hnext : s'.nextPid = s.nextPid + 1) :
    (ledger.note s s' p q).children = ledger.children ++ [s.nextPid] := by
  show ledger.children ++ List.range' s.nextPid (s'.nextPid - s.nextPid) = _
  rw [hnext, Nat.add_sub_cancel_left]
  rfl

/-- A step that makes a process. -/
theorem Ledger.note_forked (hrequest : p.program.request? = some .fork)
    (htable : q.table = p.table) (hpipes : s'.pipes.length = s.pipes.length)
    (hnext : s'.nextPid = s.nextPid + 1) : ledger.note s s' p q = { ledger with
      children := ledger.children ++ [s.nextPid]
      rounds := ledger.rounds + 1 } := by
  unfold Ledger.note
  rw [hrequest, htable, Table.gained_self, hpipes, hnext, Nat.sub_self, Nat.add_sub_cancel_left]
  simp [closing?, opening?]

end Notes

/-- The states that are reached from a first one, with the ledger of the watched process and the
other processes that have become programs on the way there. -/
inductive Course (launch : Launcher) (watched : Pid) (start : System α) :
    Ledger → List Pid → System α → Prop
  | start : Course launch watched start {} [] start
  | tick {ledger became s} (time : Nat) : Course launch watched start ledger became s →
      Course launch watched start ledger became (s.setClock time)
  | signal {ledger became s} (target : Pid) (number : Signal) :
      Course launch watched start ledger became s →
      Course launch watched start ledger became (s.signal target number).2
  | other {ledger became s s' pid} : Course launch watched start ledger became s →
      pid ≠ watched → step launch s pid = some s' →
      Course launch watched start ledger
        (if (successor? launch s pid).isSome then pid :: became else became) s'
  | own {ledger became s s' p q} : Course launch watched start ledger became s →
      s.process? watched = some p → step launch s watched = some s' →
      s'.process? watched = some q →
      Course launch watched start (ledger.note s s' p q) became s'

/-- Processes have different numbers below the next one. -/
structure Orderly (s : System α) : Prop where
  distinct : s.Distinct
  numbered : ∀ p ∈ s.processes, p.pid < s.nextPid

theorem Sound.orderly (h : s.Sound) : s.Orderly := ⟨h.distinct, h.numbered⟩

theorem Orderly.step (h : s.Orderly) (hstep : System.step launch s pid = some s') : s'.Orderly :=
  have hkeeps := step_keeps h.distinct h.numbered hstep
  ⟨hkeeps.distinct, hkeeps.numbered⟩

theorem Orderly.signal (h : s.Orderly) (target : Pid) (number : Signal) :
    (s.signal target number).2.Orderly := by
  obtain ⟨hnext, -, hpids, -⟩ := signal_effect s target number
  refine ⟨?_, fun q hq => ?_⟩
  · unfold Distinct
    rw [hpids]
    exact h.distinct
  · obtain ⟨old, hold, hundisturbed⟩ := signal_undisturbed hq
    rw [hundisturbed.pid, hnext]
    exact h.numbered old hold

theorem Orderly.setProcess (h : s.Orderly) : (s.setProcess changed).Orderly := by
  refine ⟨h.distinct.setProcess, fun q hq => ?_⟩
  rcases mem_setProcess.mp hq with ⟨rfl, old, hold, hpid⟩ | ⟨hq, -⟩
  · exact hpid ▸ h.numbered old hold
  · exact h.numbered q hq

/-- A signal from outside leaves every process undisturbed. -/
theorem Orderly.undisturbed_signal (h : s.Orderly) {target : Pid} {number : Signal}
    (hq : (s.signal target number).2.process? pid = some q) :
    ∃ old, s.process? pid = some old ∧ Undisturbed old q := by
  obtain ⟨hmem, hpid⟩ := mem_of_process? hq
  obtain ⟨old, hold, hundisturbed⟩ := signal_undisturbed hmem
  exact ⟨old, hundisturbed.process? h.distinct hold hpid, hundisturbed⟩

/-- A process that was there before another one has moved is undisturbed. -/
theorem Orderly.undisturbed_step (h : s.Orderly) {mover : Pid}
    (hstep : System.step launch s mover = some s') (hne : pid ≠ mover) (hbelow : pid < s.nextPid)
    (hq : s'.process? pid = some q) : ∃ old, s.process? pid = some old ∧ Undisturbed old q := by
  obtain ⟨hmem, hpid⟩ := mem_of_process? hq
  rcases step_undisturbed hstep hmem (hpid.trans_ne hne) with hfresh | ⟨old, hold, hundisturbed⟩
  · exact absurd (hpid.symm.trans hfresh) (Nat.ne_of_lt hbelow)
  · exact ⟨old, hundisturbed.process? h.distinct hold hpid, hundisturbed⟩

/-- A process that is there can be replaced. -/
theorem Orderly.process?_setProcess (h : s.Orderly) (hp : s.process? pid = some p)
    (hpid : changed.pid = pid) : (s.setProcess changed).process? pid = some changed := by
  obtain ⟨hmem, hsame⟩ := mem_of_process? hp
  exact h.setProcess.distinct.process?_of_pid
    (mem_setProcess_self hmem (hpid.trans hsame.symm)) hpid

theorem Course.orderly {start : System α} {ledger : Ledger} {became : List Pid}
    (hstart : start.Orderly) (h : Course launch watched start ledger became s) : s.Orderly := by
  induction h with
  | start => exact hstart
  | tick time _ ih => exact ⟨ih.distinct, ih.numbered⟩
  | signal target number _ ih => exact ih.signal target number
  | other _ _ hstep ih => exact ih.step hstep
  | own _ _ hstep _ ih => exact ih.step hstep

/-- Numbers of processes and pipes are not given again. -/
theorem Course.grows {start : System α} {ledger : Ledger} {became : List Pid}
    (hstart : start.Orderly) (h : Course launch watched start ledger became s) :
    start.nextPid ≤ s.nextPid ∧ start.pipes.length ≤ s.pipes.length := by
  induction h with
  | start => exact ⟨Nat.le_refl _, Nat.le_refl _⟩
  | tick time _ ih => exact ih
  | signal target number _ ih =>
      obtain ⟨hnext, hpipes, -, -⟩ := signal_effect _ target number
      rw [hnext, hpipes]
      exact ih
  | other hcourse _ hstep ih =>
      have horderly := hcourse.orderly hstart
      have hkeeps := step_keeps horderly.distinct horderly.numbered hstep
      exact ⟨Nat.le_trans ih.1 hkeeps.next,
        Nat.le_trans ih.2 (pipes_le_of_step horderly.distinct hstep)⟩
  | own hcourse _ hstep _ ih =>
      have horderly := hcourse.orderly hstart
      have hkeeps := step_keeps horderly.distinct horderly.numbered hstep
      exact ⟨Nat.le_trans ih.1 hkeeps.next,
        Nat.le_trans ih.2 (pipes_le_of_step horderly.distinct hstep)⟩

/-- The pipes of the watched process were not there before. -/
theorem Course.pipes_ge {start : System α} {ledger : Ledger} {became : List Pid}
    (hstart : start.Orderly) (h : Course launch watched start ledger became s) :
    ∀ pipe ∈ ledger.pipes, start.pipes.length ≤ pipe := by
  induction h with
  | start => exact fun pipe hpipe => absurd hpipe List.not_mem_nil
  | tick _ _ ih => exact ih
  | signal _ _ _ ih => exact ih
  | other _ _ _ ih => exact ih
  | own hcourse _ _ _ ih =>
      intro pipe hpipe
      rcases List.mem_append.mp hpipe with hpipe | hpipe
      · exact ih pipe hpipe
      · exact Nat.le_trans (hcourse.grows hstart).2 (List.mem_range'_1.mp hpipe).1

/-- What the others leave to the watched process, and what it keeps in its own steps, it has all the
way for as long as it has not ended. -/
theorem Course.keeps {start : System α} {first : Process α} (hstart : start.Orderly)
    (hfirst : start.process? watched = some first) (holds : Ledger → Process α → Prop)
    (hbegins : holds {} first)
    (hleft : ∀ {ledger p q}, holds ledger p → Undisturbed p q → q.ending = none → holds ledger q)
    (hown : ∀ {ledger became s s' p q}, Course launch watched start ledger became s →
      s.process? watched = some p → p.active = true → holds ledger p →
      System.step launch s watched = some s' → s'.process? watched = some q →
      holds (ledger.note s s' p q) q)
    {ledger : Ledger} {became : List Pid} (h : Course launch watched start ledger became s) :
    ∀ {q}, s.process? watched = some q → q.ending = none → holds ledger q := by
  obtain ⟨hmember, hpid⟩ := mem_of_process? hfirst
  have hbelow : watched < start.nextPid := hpid ▸ hstart.numbered first hmember
  induction h with
  | start =>
      intro q hq _
      cases hfirst.symm.trans hq
      exact hbegins
  | tick time _ ih => exact ih
  | signal target number hcourse ih =>
      intro q hq halive
      obtain ⟨old, hold, hundisturbed⟩ := (hcourse.orderly hstart).undisturbed_signal hq
      exact hleft (ih hold (hundisturbed.underway halive).1) hundisturbed halive
  | other hcourse hne hstep ih =>
      intro q hq halive
      obtain ⟨old, hold, hundisturbed⟩ := (hcourse.orderly hstart).undisturbed_step hstep hne.symm
        (Nat.lt_of_lt_of_le hbelow (hcourse.grows hstart).1) hq
      exact hleft (ih hold (hundisturbed.underway halive).1) hundisturbed halive
  | own hcourse hp hstep hq ih =>
      intro q' hq' _
      cases hq.symm.trans hq'
      obtain ⟨p, hfound, hactive⟩ := process?_of_step hstep
      cases hp.symm.trans hfound
      exact hown hcourse hp hactive (ih hp (ending_of_active hactive)) hstep hq

end LineShell.System
