import LineShell.Proofs.System.Outcomes
import LineShell.Proofs.System.Tables

/-!
# What a step can change

Whatever a program asks, a step of its process leaves most of the machine alone.

* **`Quiet`** — reading and writing change neither the processes nor how many pipes there are;
* **`answer_effect`** — an answer leaves the open files of the asking process leading to what they
  led to before, or to a pipe that it has just made;
* **`step_effect`** — nor does any other step, unless it forks or opens a path, and the other
  processes are as they were, have ended or are forgotten.
-/

namespace LineShell

/-- What the program asks next. -/
def Prog.request? {α : Type} : Prog α → Option Call
  | .ask call _ _ => some call
  | _ => none

/-- The request neither makes a process nor opens once more what the process has open. -/
def Call.isPlain : Call → Bool
  | .fork => false
  | .openPath path _ _ => (System.ownFile? path).isNone
  | _ => true

namespace System

variable {α : Type} {launch : Launcher} {s s' after : System α} {p q answered : Process α}

/-- Only a process that asks to become a program can become one. -/
theorem successor?_eq_none {pid : Pid} (hp : s.process? pid = some p)
    (h : ∀ path arguments bindings, p.program.request? ≠ some (.exec path arguments bindings)) :
    successor? launch s pid = none := by
  unfold successor?
  simp only [hp]
  cases hprogram : p.program with
  | ask call again next =>
      cases call <;> first
        | rfl
        | exact absurd (by rw [hprogram]; rfl) (h _ _ _)
  | _ => rfl

theorem successor?_eq_none_of_ask {pid : Pid} (hp : s.process? pid = some p) {call : Call}
    {again : call.Result → Bool} {next : call.Result → Prog α}
    (hprogram : p.program = .ask call again next)
    (hcall : ∀ path arguments bindings, call ≠ .exec path arguments bindings) :
    successor? launch s pid = none := by
  refine successor?_eq_none hp fun path arguments bindings hrequest => ?_
  rw [hprogram] at hrequest
  exact hcall path arguments bindings (Option.some.inj hrequest)

/-- The processes and the number of pipes and of positions are as before. -/
structure Quiet (s after : System α) : Prop where
  processes : after.processes = s.processes
  nextPid : after.nextPid = s.nextPid
  pipes : after.pipes.length = s.pipes.length
  cells : after.cells.length = s.cells.length

theorem Quiet.refl : Quiet s s := ⟨rfl, rfl, rfl, rfl⟩

theorem quiet_setQueue {pipe : PipeId} {bytes : Bytes} : Quiet s (s.setQueue pipe bytes) :=
  ⟨rfl, rfl, List.length_set, rfl⟩

theorem quiet_setPosition {handle : Handle} {position : Nat} :
    Quiet s (s.setPosition handle position) := ⟨rfl, rfl, rfl, List.length_set⟩

theorem quiet_readSome {table : Table} {fd : Fd} {count : Nat} {reply : Except Errno Bytes}
    (h : s.readSome table fd count = some (reply, after)) : Quiet s after := by
  cases readSome_cases h with
  | still => exact .refl
  | queued => exact quiet_setQueue
  | typed => exact ⟨rfl, rfl, rfl, rfl⟩
  | stored => exact quiet_setPosition

theorem quiet_writeSome {table : Table} {fd : Fd} {bytes : Bytes} {reply : Except Errno Bytes}
    (h : s.writeSome table fd bytes = some (reply, after)) : Quiet s after := by
  cases writeSome_outcome h with
  | refused | nothing | swallowed => exact .refl
  | queued => exact quiet_setQueue
  | stored => exact ⟨rfl, rfl, rfl, List.length_set⟩

/-! ## Answers -/

/-- Every open file leads to what some open file led to before, to a pipe that is new, or to a
node. -/
def Within (s : System α) (before after : Table) : Prop :=
  ∀ entry ∈ after, (∃ old ∈ before, old.2.handle.endpoint = entry.2.handle.endpoint) ∨
    (∃ pipe, s.pipes.length ≤ pipe ∧
      (entry.2.handle.endpoint = .pipeReader pipe ∨ entry.2.handle.endpoint = .pipeWriter pipe)) ∨
    ∃ id, entry.2.handle.endpoint = .node id

theorem Within.refl {table : Table} : Within s table table :=
  fun entry hentry => .inl ⟨entry, hentry, rfl⟩

theorem Within.of_subset {before after : Table} (h : ∀ entry ∈ after, entry ∈ before) :
    Within s before after := fun entry hentry => .inl ⟨entry, h entry hentry, rfl⟩

theorem within_set_of_get? {table : Table} {fd source : Fd} {descriptor : Descriptor}
    (h : table.get? source = some descriptor) {closeOnExec : Bool} :
    Within s table (table.set fd ⟨descriptor.handle, closeOnExec⟩) := by
  intro entry hentry
  rcases Table.mem_set hentry with rfl | hentry
  · exact .inl ⟨_, Table.mem_of_get? h, rfl⟩
  · exact .inl ⟨entry, hentry, rfl⟩

/-- Processes are as before, or one of them is forgotten. -/
def Forgets (s after : System α) : Prop :=
  after.processes = s.processes ∨
    ∃ gone, after.processes = s.processes.filter fun process => process.pid != gone

theorem waitFor_effect {parent : Pid} {child : Option Pid}
    {reply : Except Errno (Pid × ChildNews)} (h : s.waitFor parent child = some (reply, after)) :
    after.nextPid = s.nextPid ∧ after.pipes = s.pipes ∧ Forgets s after := by
  rcases waitFor_cases h with ⟨errno, -, rfl⟩ | ⟨gone, -, ending, -, -, -, -, rfl⟩
  · exact ⟨rfl, rfl, .inl rfl⟩
  · exact ⟨rfl, rfl, .inr ⟨gone.pid, rfl⟩⟩

/-- A process that waits for a child is told when it has ended, and the child is forgotten. -/
theorem waitFor_child {parent child : Pid} {reply : Except Errno (Pid × ChildNews)}
    (h : s.waitFor parent (some child) = some (reply, after)) :
    (∃ errno, reply = .error errno ∧ after = s) ∨
      (∃ p ∈ s.processes, p.pid = child ∧ p.ending.isSome = true) ∧ after = s.forget child := by
  rcases waitFor_cases h with hnone | ⟨gone, hgone, ending, -, hending, hwanted, -, rfl⟩
  · exact .inl hnone
  · obtain rfl := hwanted child rfl
    exact .inr ⟨⟨gone, hgone, rfl, by rw [hending]; rfl⟩, rfl⟩

/-- What an answer leaves of the machine and of the asking process. -/
structure Effect (s : System α) (p : Process α) (after : System α) (answered : Process α) :
    Prop where
  nextPid : after.nextPid = s.nextPid
  pipes : s.pipes.length ≤ after.pipes.length
  processes : Forgets s after
  pid : answered.pid = p.pid
  ending : answered.ending = p.ending
  table : Within s p.table answered.table

/-- A request that touches neither the open files of the process nor the other processes. -/
theorem effect_of_quiet (h : Quiet s after) (hpid : answered.pid = p.pid)
    (hending : answered.ending = p.ending) (htable : answered.table = p.table) :
    Effect s p after answered where
  nextPid := h.nextPid
  pipes := Nat.le_of_eq h.pipes.symm
  processes := .inl h.processes
  pid := hpid
  ending := hending
  table := htable ▸ .refl

theorem effect_openPipe {ends : Fd × Fd} (h : s.openPipe p = (.ok ends, answered, after)) :
    Effect s p after answered := by
  obtain ⟨-, rfl, rfl⟩ := openPipe_ok h
  refine ⟨rfl, by simp, .inl rfl, rfl, rfl, fun entry hentry => ?_⟩
  rcases Table.mem_set hentry with rfl | hentry
  · exact .inr (.inl ⟨_, Nat.le_refl _, .inr rfl⟩)
  · rcases Table.mem_set hentry with rfl | hentry
    · exact .inr (.inl ⟨_, Nat.le_refl _, .inl rfl⟩)
    · exact .inl ⟨entry, hentry, rfl⟩

theorem OpenOutcome.effect {path : Bytes} {access : Access} {closeOnExec : Bool}
    {reply : Except Errno Fd} (h : OpenOutcome s p path access closeOnExec reply answered after)
    (hown : ownFile? path = none) : Effect s p after answered := by
  cases h with
  | refused => exact effect_of_quiet .refl rfl rfl rfl
  | opened _ hendpoint =>
      obtain ⟨id, -, rfl⟩ := endpointAt_of_ownFile? hown hendpoint
      refine ⟨rfl, Nat.le_refl _, .inl rfl, rfl, rfl, fun entry hentry => ?_⟩
      rcases Table.mem_set hentry with rfl | hentry
      · exact .inr (.inr ⟨id, rfl⟩)
      · exact .inl ⟨entry, hentry, rfl⟩

/-- An answer leaves the open files of the asking process leading to what they led to before, to
a pipe that it has just made, or to a node. -/
theorem answer_effect {call : Call} {reply : call.Result} (hplain : call.isPlain = true)
    (h : s.answer p call = some (reply, answered, after)) : Effect s p after answered := by
  have htable : ∀ {table : Table}, Within s p.table table →
      Effect s p s { p with table := table } :=
    fun hwithin => ⟨rfl, Nat.le_refl _, .inl rfl, rfl, rfl, hwithin⟩
  cases answer_cases h with
  | still | waiting => exact effect_of_quiet .refl rfl rfl rfl
  | opened hopened => exact hopened.effect (Option.isNone_iff_eq_none.mp hplain)
  | piped hmade => exact effect_openPipe hmade
  | closed => exact htable (.of_subset fun entry hentry => (Table.mem_erase.mp hentry).1)
  | shared _ hget => exact htable (within_set_of_get? hget)
  | told _ hwait =>
      obtain ⟨hnext, hpipes, hprocesses⟩ := waitFor_effect hwait
      exact ⟨hnext, Nat.le_of_eq (congrArg List.length hpipes).symm, hprocesses, rfl, rfl, .refl⟩
  | read hread => exact effect_of_quiet (quiet_readSome hread) rfl rfl rfl
  | placed => exact effect_of_quiet quiet_setPosition rfl rfl rfl
  | resized | rearranged | moved | adjusted =>
      exact effect_of_quiet ⟨rfl, rfl, rfl, rfl⟩ rfl rfl rfl

/-! ## Steps -/

/-- A process that makes no step goes on as before, unless it has been ended. -/
structure Kept (old q : Process α) : Prop where
  pid : q.pid = old.pid
  program : q.program = old.program
  rest : q.table = old.table ∧ q.ending = old.ending ∨ q.table = [] ∧ q.ending.isSome = true

theorem Kept.refl : Kept p p := ⟨rfl, rfl, .inl ⟨rfl, rfl⟩⟩

/-- A process that has not ended has kept its open files. -/
theorem Kept.of_alive {old : Process α} (h : Kept old q) (halive : q.ending = none) :
    q.table = old.table ∧ q.ending = old.ending := by
  rcases h.rest with hrest | ⟨-, hended⟩
  · exact hrest
  · rw [halive] at hended
    exact absurd hended (by simp)

theorem Kept.table_subset {old : Process α} (h : Kept old q) : ∀ entry ∈ q.table,
    entry ∈ old.table := by
  rcases h.rest with ⟨htable, -⟩ | ⟨htable, -⟩
  · exact fun entry hentry => htable ▸ hentry
  · rw [htable]
    exact fun entry hentry => absurd hentry List.not_mem_nil

/-- What becomes of the process that makes a step. -/
structure Moved (s : System α) (p q : Process α) : Prop where
  pid : q.pid = p.pid
  table : Within s p.table q.table
  ending : q.ending.isSome = true → q.table = []

theorem Effect.moved (h : Effect s p after answered) (hactive : p.active = true)
    {program : Prog α} : Moved s p { answered with program := program } := by
  refine ⟨h.pid, h.table, fun hended => ?_⟩
  rw [show answered.ending = p.ending from h.ending, ending_of_active hactive] at hended
  exact absurd hended (by simp)

theorem mem_of_forgets (h : Forgets s after) (hq : q ∈ after.processes) : q ∈ s.processes := by
  rcases h with h | ⟨gone, h⟩
  · exact h ▸ hq
  · rw [h] at hq
    exact (List.mem_filter.mp hq).1

theorem sublist_of_forgets (h : Forgets s after) :
    (after.processes.map Process.pid).Sublist (s.processes.map Process.pid) := by
  rcases h with h | ⟨gone, h⟩
  · exact h ▸ List.Sublist.refl _
  · rw [h]
    exact List.filter_sublist.map _

theorem Struck.kept (h : Struck p q) : Kept p q := by
  cases h with
  | noted | halted => exact ⟨rfl, rfl, .inl ⟨rfl, rfl⟩⟩
  | killed => exact ⟨rfl, rfl, .inr ⟨rfl, rfl⟩⟩

/-- A signal leaves every process as it was, or ends one. -/
theorem signal_effect (s : System α) (target : Pid) (number : Signal) :
    (s.signal target number).2.nextPid = s.nextPid ∧
      (s.signal target number).2.pipes = s.pipes ∧
      (s.signal target number).2.processes.map Process.pid = s.processes.map Process.pid ∧
      ∀ q ∈ (s.signal target number).2.processes, ∃ old ∈ s.processes, Kept old q := by
  rcases signal_cases s target number with heq | ⟨p, changed, hp, -, hstruck, heq⟩
  · rw [heq]
    exact ⟨rfl, rfl, rfl, fun q hq => ⟨q, hq, .refl⟩⟩
  · rw [heq]
    refine ⟨rfl, rfl, map_pid_setProcess, fun q hq => ?_⟩
    rcases mem_setProcess.mp hq with ⟨rfl, -⟩ | ⟨hq, -⟩
    · exact ⟨p, (mem_of_process? hp).1, hstruck.kept⟩
    · exact ⟨q, hq, .refl⟩

/-- What a step leaves of the machine, if its request is a plain one. -/
structure StepEffect (s : System α) (pid : Pid) (after : System α) : Prop where
  nextPid : after.nextPid = s.nextPid
  pipes : s.pipes.length ≤ after.pipes.length
  pids : (after.processes.map Process.pid).Sublist (s.processes.map Process.pid)
  processes : ∀ q ∈ after.processes, (q.pid ≠ pid ∧ ∃ old ∈ s.processes, Kept old q) ∨
    ∃ p ∈ s.processes, p.pid = pid ∧ Moved s p q

/-- The other processes have been kept. -/
theorem StepEffect.kept {pid : Pid} (h : StepEffect s pid after) (hq : q ∈ after.processes)
    (hne : q.pid ≠ pid) : ∃ old ∈ s.processes, Kept old q := by
  rcases h.processes q hq with ⟨-, hold⟩ | ⟨p, -, hpid, hmoved⟩
  · exact hold
  · exact absurd (hmoved.pid.trans hpid) hne

/-- A step whose answer concerns the asking process alone. -/
theorem stepEffect_setProcess {pid : Pid} (hp : s.process? pid = some p)
    (hnext : after.nextPid = s.nextPid) (hpipes : s.pipes.length ≤ after.pipes.length)
    (hforgets : Forgets s after) (hmoved : Moved s p q) :
    StepEffect s pid (after.setProcess q) := by
  obtain ⟨hmem, hpid⟩ := mem_of_process? hp
  refine ⟨hnext, hpipes, ?_, ?_⟩
  · rw [map_pid_setProcess]
    exact sublist_of_forgets hforgets
  · intro other hother
    rcases mem_setProcess.mp hother with ⟨rfl, -⟩ | ⟨hother, hne⟩
    · exact .inr ⟨p, hmem, hpid, hmoved⟩
    · refine .inl ⟨?_, other, mem_of_forgets hforgets hother, .refl⟩
      rw [hmoved.pid, hpid] at hne
      exact hne

theorem Moved.of_table {program : Prog α} (hactive : p.active = true) {pending : Bytes} :
    Moved s p { p with program := program, pending := pending } := by
  refine ⟨rfl, .refl, fun hended => ?_⟩
  rw [show p.ending = none from ending_of_active hactive] at hended
  exact absurd hended (by simp)

theorem Quiet.stepEffect {pid : Pid} (h : Quiet s after) (hp : s.process? pid = some p)
    (hmoved : Moved s p q) : StepEffect s pid (after.setProcess q) :=
  stepEffect_setProcess hp h.nextPid (Nat.le_of_eq h.pipes.symm) (.inl h.processes) hmoved

/-- A process that a signal has met or passed by is one that has made a step. -/
theorem Kept.moved (h : Kept p q) (hactive : p.active = true) : Moved s p q := by
  rcases h.rest with ⟨htable, hending⟩ | ⟨htable, -⟩
  · refine ⟨h.pid, htable ▸ .refl, fun hended => ?_⟩
    rw [hending, ending_of_active hactive] at hended
    exact absurd hended (by simp)
  · refine ⟨h.pid, ?_, fun _ => htable⟩
    rw [htable]
    exact fun entry hentry => absurd hentry List.not_mem_nil

/-- A process may send a signal to itself, and is ended or not like any other. -/
theorem stepEffect_signal {pid : Pid} (hdistinct : s.Distinct) (hp : s.process? pid = some p)
    (hactive : p.active = true) (target : Pid) (number : Signal) :
    StepEffect s pid (s.signal target number).2 := by
  obtain ⟨hnext, hpipes, hpids, hkept⟩ := signal_effect s target number
  obtain ⟨hmem, hpid⟩ := mem_of_process? hp
  refine ⟨hnext, Nat.le_of_eq (congrArg List.length hpipes).symm, hpids ▸ List.Sublist.refl _,
    fun q hq => ?_⟩
  obtain ⟨old, hold, hkeeps⟩ := hkept q hq
  by_cases hsame : q.pid = pid
  · obtain rfl := hdistinct.eq_of_process? hp hold (hkeeps.pid.symm.trans hsame)
    exact .inr ⟨old, hmem, hpid, hkeeps.moved hactive⟩
  · exact .inl ⟨hsame, old, hold, hkeeps⟩

/-- What the process goes on with makes no difference. -/
theorem StepEffect.setProgram {pid : Pid} (h : StepEffect s pid after)
    (hq : after.process? pid = some q) {program : Prog α} :
    StepEffect s pid (after.setProcess { q with program := program }) := by
  obtain ⟨hmem, hpid⟩ := mem_of_process? hq
  refine ⟨h.nextPid, h.pipes, map_pid_setProcess (s := after) ▸ h.pids, fun other hother => ?_⟩
  rcases mem_setProcess.mp hother with ⟨rfl, -⟩ | ⟨hother, -⟩
  · rcases h.processes q hmem with ⟨hne, -⟩ | ⟨p, hp, hsame, hmoved⟩
    · exact absurd hpid hne
    · exact .inr ⟨p, hp, hsame, hmoved.pid, hmoved.table, hmoved.ending⟩
  · exact h.processes other hother

/-- A step leaves the open files of its process leading to what they led to before, to a pipe that
it has just made, or to a node, and the other processes as they were, unless it ends one of them or
one of them is forgotten. -/
theorem step_effect {pid : Pid} (hdistinct : s.Distinct)
    (hplain : ∀ p, s.process? pid = some p → ∀ call, p.program.request? = some call →
      call.isPlain = true)
    (h : step launch s pid = some s') : StepEffect s pid s' := by
  obtain ⟨p, hp, hactive⟩ := process?_of_step h
  cases step_cases hp hactive h with
  | unrolled | refused | idle => exact Quiet.refl.stepEffect hp (.of_table hactive)
  | @answered call _ _ _ _ _ hprogram _ hanswer =>
      have heffect := answer_effect (hplain p hp call (by rw [hprogram]; rfl)) hanswer
      exact stepEffect_setProcess hp heffect.nextPid heffect.pipes heffect.processes
        (heffect.moved hactive)
  | forked hprogram => exact absurd (hplain p hp .fork (by rw [hprogram]; rfl)) Bool.false_ne_true
  | became _ hbecome =>
      obtain ⟨hpid, hending, htable⟩ := become_ok hbecome
      refine Quiet.refl.stepEffect hp ⟨hpid, ?_, fun hended => ?_⟩
      · rw [show _ = p.table.afterExec from htable]
        exact .of_subset fun entry hentry => (Table.mem_afterExec.mp hentry).1
      · rw [show _ = p.ending from hending, ending_of_active hactive] at hended
        exact absurd hended (by simp)
  | exited =>
      exact Quiet.refl.stepEffect hp
        ⟨rfl, fun entry hentry => absurd hentry List.not_mem_nil, fun _ => rfl⟩
  | read _ hread => exact (quiet_readSome hread).stepEffect hp (.of_table hactive)
  | wrote _ hwrite | dropped _ _ hwrite | flushed _ _ hwrite =>
      exact (quiet_writeSome hwrite).stepEffect hp (.of_table hactive)
  | @signalled target number _ _ own _ hown =>
      obtain ⟨-, rfl⟩ := mem_of_process? hp
      exact (stepEffect_signal hdistinct hp hactive target number).setProgram hown

theorem step_effect_of_ask {pid : Pid} (hdistinct : s.Distinct) (hp : s.process? pid = some p)
    {call : Call} {again : call.Result → Bool} {next : call.Result → Prog α}
    (hprogram : p.program = .ask call again next) (hplain : call.isPlain = true)
    (h : step launch s pid = some s') : StepEffect s pid s' := by
  refine step_effect hdistinct (fun other hother request hrequest => ?_) h
  cases hp.symm.trans hother
  rw [hprogram] at hrequest
  exact Option.some.inj hrequest ▸ hplain

/-- What every step leaves: numbers stay different and below the next one, and the other processes
go on as before unless they have been ended, or are new. -/
structure Keeps (s : System α) (pid : Pid) (after : System α) : Prop where
  next : s.nextPid ≤ after.nextPid
  distinct : after.Distinct
  numbered : ∀ q ∈ after.processes, q.pid < after.nextPid
  others : ∀ q ∈ after.processes, q.pid ≠ pid →
    s.nextPid ≤ q.pid ∨ ∃ old ∈ s.processes, Kept old q

theorem StepEffect.keeps {pid : Pid} (h : StepEffect s pid after) (hdistinct : s.Distinct)
    (hnumbered : ∀ p ∈ s.processes, p.pid < s.nextPid) : Keeps s pid after where
  next := Nat.le_of_eq h.nextPid.symm
  distinct := h.pids.nodup hdistinct
  numbered := by
    intro q hq
    rw [h.nextPid]
    obtain ⟨old, hold, heq⟩ := List.mem_map.mp (h.pids.subset (List.mem_map_of_mem hq))
    exact heq ▸ hnumbered old hold
  others := by
    intro q hq hne
    rcases h.processes q hq with ⟨-, hold⟩ | ⟨p, -, hpid, hmoved⟩
    · exact .inr hold
    · exact absurd (hmoved.pid.trans hpid) hne

theorem keeps_setProcess {pid : Pid} (hdistinct : s.Distinct)
    (hnumbered : ∀ p ∈ s.processes, p.pid < s.nextPid) (hprocesses : after.processes = s.processes)
    (hnext : after.nextPid = s.nextPid) (hq : q.pid = pid) : Keeps s pid (after.setProcess q) := by
  refine ⟨Nat.le_of_eq hnext.symm, ?_, fun other hother => ?_, fun other hother hne => ?_⟩
  · unfold Distinct
    rw [map_pid_setProcess, hprocesses]
    exact hdistinct
  · rw [setProcess_nextPid, hnext]
    rcases mem_setProcess.mp hother with ⟨rfl, old, hold, hpid⟩ | ⟨hother, -⟩
    · exact hpid ▸ hnumbered old (hprocesses ▸ hold)
    · exact hnumbered other (hprocesses ▸ hother)
  · rcases mem_setProcess.mp hother with ⟨rfl, -⟩ | ⟨hother, -⟩
    · exact absurd hq hne
    · exact .inr ⟨other, hprocesses ▸ hother, .refl⟩

/-- A process that is added under the next number is new. -/
theorem keeps_of_fork {pid : Pid} (hdistinct : s.Distinct)
    (hnumbered : ∀ p ∈ s.processes, p.pid < s.nextPid) (hq : q.pid = pid)
    (hanswered : answered.pid = s.nextPid) : Keeps s pid { s.setProcess q with
      processes := (s.setProcess q).processes ++ [answered]
      nextPid := s.nextPid + 1 } := by
  -- every process is the new one or bears a number that there was
  have hmem : ∀ {other}, other ∈ (s.setProcess q).processes ++ [answered] →
      other = answered ∨ (∃ old ∈ s.processes, old.pid = other.pid) ∧
        (other.pid ≠ pid → other ∈ s.processes) := by
    intro other hother
    rcases List.mem_append.mp hother with hother | hother
    · rcases mem_setProcess.mp hother with ⟨rfl, old, hold, hpid⟩ | ⟨hother, -⟩
      · exact .inr ⟨⟨old, hold, hpid⟩, fun hne => absurd hq hne⟩
      · exact .inr ⟨⟨other, hother, rfl⟩, fun _ => hother⟩
    · exact .inl (List.mem_singleton.mp hother)
  refine ⟨Nat.le_succ _, ?_, ?_, ?_⟩
  · show (((s.setProcess q).processes ++ [answered]).map Process.pid).Nodup
    rw [List.map_append, map_pid_setProcess, List.nodup_append]
    refine ⟨hdistinct, List.pairwise_singleton _ _, fun first hfirst second hsecond => ?_⟩
    obtain ⟨p, hp, rfl⟩ := List.mem_map.mp hfirst
    obtain rfl : second = answered.pid := List.mem_singleton.mp hsecond
    rw [hanswered]
    exact Nat.ne_of_lt (hnumbered p hp)
  · intro other hother
    rcases hmem hother with rfl | ⟨⟨old, hold, hpid⟩, -⟩
    · exact hanswered ▸ Nat.lt_succ_self _
    · exact hpid ▸ Nat.lt_succ_of_lt (hnumbered old hold)
  · intro other hother hne
    rcases hmem hother with rfl | ⟨-, hold⟩
    · exact .inl (Nat.le_of_eq hanswered.symm)
    · exact .inr ⟨other, hold hne, .refl⟩

/-- What is no plain request is for a process or for a path. -/
theorem plain_cases (program : Prog α) :
    (∀ call, program.request? = some call → call.isPlain = true) ∨
      (∃ again next, program = .ask .fork again next) ∨
      ∃ path access closeOnExec again next,
        program = .ask (.openPath path access closeOnExec) again next := by
  cases program with
  | pure | loop => exact .inl fun call hcall => absurd hcall (by simp [Prog.request?])
  | ask call again next =>
      cases call with
      | fork => exact .inr (.inl ⟨_, _, rfl⟩)
      | openPath => exact .inr (.inr ⟨_, _, _, _, _, rfl⟩)
      | _ =>
          refine .inl fun other hother => ?_
          cases hother
          rfl

theorem step_effect_of_plain {pid : Pid} (hdistinct : s.Distinct) (hp : s.process? pid = some p)
    (hplain : ∀ call, p.program.request? = some call → call.isPlain = true)
    (h : step launch s pid = some s') : StepEffect s pid s' := by
  refine step_effect hdistinct (fun other hother call hcall => ?_) h
  cases hp.symm.trans hother
  exact hplain call hcall

/-- Whatever a process asks, its step leaves the others as they were, unless it ends one of them or
one of them is forgotten. -/
theorem step_keeps {pid : Pid} (hdistinct : s.Distinct)
    (hnumbered : ∀ p ∈ s.processes, p.pid < s.nextPid) (h : step launch s pid = some s') :
    Keeps s pid s' := by
  obtain ⟨p, hp, hactive⟩ := process?_of_step h
  have hpid := (mem_of_process? hp).2
  rcases plain_cases p.program with hplain | ⟨again, next, hprogram⟩ |
    ⟨path, access, closeOnExec, again, next, hprogram⟩
  · exact (step_effect_of_plain hdistinct hp hplain h).keeps hdistinct hnumbered
  · cases h.symm.trans (step_fork hp hactive hprogram)
    exact keeps_of_fork hdistinct hnumbered hpid rfl
  · obtain ⟨reply, answered, after, hopened, rfl⟩ := step_openPath hp hactive h hprogram
    cases hopened with
    | refused | opened => exact keeps_setProcess hdistinct hnumbered rfl rfl hpid

end System

end LineShell
