import LineShell.Proofs.Line.Chunks
import LineShell.Proofs.Pipeline.Promise

/-!
# Who holds the ends of a pipe

A pipeline of any length is run, and the shell and the processes of the stages move in any order.

* **`Run`** — the states that are reached, and which processes have become their programs by then;
* **`ShellAt`, `StageAt`** — where the shell and the process of a stage are on their way, and what
  is in their tables there;
* **`Owned`** — the invariant, which every step keeps (`Owned.shell_step`, `Owned.stage_step`);
* **`pipe_ends_owned`** — whoever holds an end of a pipe that leads past it is about to give it up.
-/

namespace LineShell.Ownership

open LineShell.System LineShell.Course Prog

/-- What comes of a pipeline. -/
abbrev Outcome := Except ExecFailure Report

variable {launch : Launcher} {s s' after : System Outcome} {pid : Pid}
  {p q answered : Process Outcome}

/-! ## Runs -/

/-- The process asks to become a program, and the system lets it. -/
def becomes (launch : Launcher) (s : System Outcome) (pid : Pid) : Bool :=
  (successor? launch s pid).isSome

/-- The states that are reached from a first one, in which time passes, the shell makes steps and
the processes that it has started make steps, in any order. With them stand the processes that
have become other programs. Such a program may ask anything but to fork, and to open once more
what it has open. -/
inductive Run (launch : Launcher) (shell : Pid) (start : System Outcome) :
    List Pid → System Outcome → Prop
  | start : Run launch shell start [] start
  | tick {became s} (time : Nat) :
      Run launch shell start became s → Run launch shell start became (s.setClock time)
  | shell {became s s'} : Run launch shell start became s → step launch s shell = some s' →
      Run launch shell start became s'
  | stage {became s s' pid} : Run launch shell start became s → start.nextPid ≤ pid →
      (pid ∈ became → ∀ p, s.process? pid = some p → ∀ call, p.program.request? = some call →
        call.isPlain = true) →
      step launch s pid = some s' →
      Run launch shell start (if becomes launch s pid then pid :: became else became) s'

/-- Only a process that asks to become a program becomes one. -/
theorem becomes_eq_false (hp : s.process? pid = some p) {call : Call} {again : call.Result → Bool}
    {next : call.Result → Prog Outcome} (hprogram : p.program = .ask call again next)
    (hcall : ∀ path arguments bindings, call ≠ .exec path arguments bindings) :
    becomes launch s pid = false := by
  unfold becomes
  rw [successor?_eq_none_of_ask hp hprogram hcall]
  rfl

/-! ## Ends -/

/-- An end of one of so many pipes from `first` on. -/
def IsEnd (first count : Nat) (endpoint : Endpoint) : Prop :=
  ∃ pipe, first ≤ pipe ∧ pipe < first + count ∧
    (endpoint = .pipeReader pipe ∨ endpoint = .pipeWriter pipe)

/-- The ends that a stage works with: the one it writes to, and the one it reads from. -/
def Serves (first stage : Nat) (endpoint : Endpoint) : Prop :=
  endpoint = .pipeWriter (first + stage) ∨
    ∃ earlier, stage = earlier + 1 ∧ endpoint = .pipeReader (first + earlier)

/-- Of the pipes, a stage holds the ends that it works with, and others only under numbers that
are left to be given up. -/
def Covered (first count stage : Nat) (left : List Fd) (table : Table) : Prop :=
  ∀ entry ∈ table, IsEnd first count entry.2.handle.endpoint →
    entry.1 ∈ left ∨ Serves first stage entry.2.handle.endpoint

section Covered

variable {first count stage : Nat} {left : List Fd} {table : Table} {fd : Fd}

theorem Covered.erase (h : Covered first count stage (fd :: left) table) :
    Covered first count stage left (table.erase fd) := by
  intro entry hentry hend
  obtain ⟨hentry, hne⟩ := Table.mem_erase.mp hentry
  exact (h entry hentry hend).imp_left fun hin => (List.mem_cons.mp hin).resolve_left hne

theorem Covered.set (h : Covered first count stage left table) {descriptor : Descriptor}
    (hserves : IsEnd first count descriptor.handle.endpoint →
      Serves first stage descriptor.handle.endpoint) :
    Covered first count stage left (table.set fd descriptor) := by
  intro entry hentry hend
  rcases Table.mem_set hentry with rfl | hentry
  · exact .inr (hserves hend)
  · exact h entry hentry hend

/-- A program that makes pipes of its own does not get at those of the pipeline. -/
theorem Covered.within (h : Covered first count stage [] table)
    (hroom : first + count ≤ s.pipes.length) {later : Table} (hwithin : Within s table later) :
    Covered first count stage [] later := by
  intro entry hentry hend
  rcases hwithin entry hentry with ⟨old, hold, heq⟩ | ⟨pipe, hpipe, heq⟩ | ⟨id, heq⟩
  · exact .inr ((heq ▸ h old hold (heq ▸ hend)).resolve_left List.not_mem_nil)
  · obtain ⟨other, -, hlt, hother⟩ := hend
    have hsame : pipe = other := by
      rcases heq with heq | heq <;> rw [heq] at hother <;> simpa using hother
    omega
  · obtain ⟨other, -, -, hother⟩ := hend
    rw [heq] at hother
    exact absurd hother (by simp)

end Covered

/-! ## On the way -/

section Way

variable (before : Table) (first : PipeId) (origin : Pid) (programs : List (List Bytes))
  (command : String)

/-- How many pipes a pipeline needs. -/
def pipeCount (programs : List (List Bytes)) : Nat := programs.length - 1

/-- The pipes and the target stand under the numbers of the plumbing. -/
abbrev LaidOut (plumbing : Plumbing) (table : Table) : Prop :=
  Laid before first (fun handle => ¬IsEnd first (pipeCount programs) handle.endpoint) plumbing table

/-- Everything in a table was there before, or is left to be given up. -/
def Leaves (left : List Fd) (table : Table) : Prop :=
  ∀ entry ∈ table, entry ∈ before ∨ entry.1 ∈ left

/-- Where the shell is on its way through a pipeline, and what is in its table there. -/
inductive ShellAt (s : System Outcome) (plumbing : Plumbing) (p : Process Outcome) : Prop
  | opening {path : Bytes} {access : Access} {again : Except Errno Fd → Bool}
      {failure : Errno → ExecFailure} : (∀ fd, again (.ok fd) = false) →
      p.program = .ask (.openPath path access true) again
        (opened command .pure programs failure) →
      p.table = before → s.pipes.length = first → s.nextPid = origin → ShellAt s plumbing p
  | laying {count : Nat} : p.program = laying command .pure programs (count + 1) plumbing →
      LaidOut before first programs plumbing p.table →
      plumbing.pipes.length + (count + 1) = pipeCount programs →
      s.pipes.length = first + plumbing.pipes.length → s.nextPid = origin → ShellAt s plumbing p
  | abandoning {fd : Fd} {left : List Fd} {failure : ExecFailure} :
      p.program = ((Plumbing.closeAll (fd :: left)).bind fun _ => .pure (.error failure)) →
      Leaves before (fd :: left) p.table → s.nextPid = origin → ShellAt s plumbing p
  | flushing : p.program = flushing command .pure programs plumbing →
      LaidOut before first programs plumbing p.table →
      plumbing.pipes.length = pipeCount programs →
      first + pipeCount programs ≤ s.pipes.length → s.nextPid = origin → ShellAt s plumbing p
  | forking {stage : Nat} {arguments : List Bytes} {left : List (List Bytes)}
      {children : List Pid} :
      p.program = forking command .pure plumbing stage (arguments :: left) children →
      LaidOut before first programs plumbing p.table →
      plumbing.pipes.length = pipeCount programs →
      first + pipeCount programs ≤ s.pipes.length → s.nextPid = origin + stage →
      ShellAt s plumbing p
  | releasing {children : List Pid} {fd : Fd} {left : List Fd} :
      p.program = releasing command .pure children (fd :: left) →
      Leaves before (fd :: left) p.table → ShellAt s plumbing p
  | waiting {codes : List Int} {child : Pid} {left : List Pid} :
      p.program = waiting command .pure codes (child :: left) →
      Leaves before [] p.table → ShellAt s plumbing p
  | finished {outcome : Outcome} : p.program = .pure outcome → Leaves before [] p.table →
      ShellAt s plumbing p

/-- Where the process of a stage is on its way, and what is in its table there. -/
inductive StageAt (became : List Pid) (plumbing : Plumbing) (p : Process Outcome) : Prop
  | input {stage : Nat} {fd : Fd} {arguments : List Bytes} : p.pid = origin + stage →
      p.pid ∉ became → p.program = .ask (.duplicate fd Fd.stdin) (fun _ => false)
        (inputWired plumbing stage arguments) →
      Covered first (pipeCount programs) stage plumbing.descriptors p.table →
      (∀ fd' descriptor, fd' = fd ∨ plumbing.outputOf stage = some fd' →
        p.table.get? fd' = some descriptor →
        IsEnd first (pipeCount programs) descriptor.handle.endpoint →
        Serves first stage descriptor.handle.endpoint) → StageAt became plumbing p
  | output {stage : Nat} {fd : Fd} {arguments : List Bytes} : p.pid = origin + stage →
      p.pid ∉ became → p.program = .ask (.duplicate fd Fd.stdout) (fun _ => false) (fun wired =>
        dropping arguments wired plumbing.descriptors) →
      Covered first (pipeCount programs) stage plumbing.descriptors p.table →
      (∀ descriptor, p.table.get? fd = some descriptor →
        IsEnd first (pipeCount programs) descriptor.handle.endpoint →
        Serves first stage descriptor.handle.endpoint) → StageAt became plumbing p
  | dropping {stage : Nat} {fd : Fd} {left : List Fd} {arguments : List Bytes}
      {wired : Except Errno Unit} : p.pid = origin + stage → p.pid ∉ became →
      p.program = dropping arguments wired (fd :: left) →
      Covered first (pipeCount programs) stage (fd :: left) p.table → StageAt became plumbing p
  | searching {stage : Nat} : p.pid = origin + stage → p.pid ∉ became → Asks IsSearch p.program →
      Covered first (pipeCount programs) stage [] p.table → StageAt became plumbing p
  | free {stage : Nat} : p.pid = origin + stage → p.pid ∈ became →
      Covered first (pipeCount programs) stage [] p.table → StageAt became plumbing p

end Way

section Arriving

variable {before : Table} {first : PipeId} {origin : Pid} {programs : List (List Bytes)}
  {command : String} {plumbing : Plumbing} {became : List Pid}

theorem Leaves.erase {fd : Fd} {left : List Fd} {table : Table}
    (h : Leaves before (fd :: left) table) : Leaves before left (table.erase fd) := by
  intro entry hentry
  obtain ⟨hentry, hne⟩ := Table.mem_erase.mp hentry
  exact (h entry hentry).imp_right fun hin => (List.mem_cons.mp hin).resolve_left hne

/-! ## Arriving at a place on the way -/

theorem shellAt_waiting {codes : List Int} {left : List Pid}
    (hprogram : p.program = waiting command .pure codes left) (htable : Leaves before [] p.table) :
    ShellAt before first origin programs command s plumbing p := by
  cases left with
  | nil => exact .finished (hprogram.trans (waiting_nil _ _ _)) htable
  | cons child left => exact .waiting hprogram htable

theorem shellAt_releasing {children : List Pid} {left : List Fd}
    (hprogram : p.program = releasing command .pure children left)
    (htable : Leaves before left p.table) :
    ShellAt before first origin programs command s plumbing p := by
  cases left with
  | nil => exact shellAt_waiting hprogram htable
  | cons fd left => exact .releasing hprogram htable

theorem shellAt_abandoning {left : List Fd} {failure : ExecFailure}
    (hprogram : p.program = ((Plumbing.closeAll left).bind fun _ => .pure (.error failure)))
    (htable : Leaves before left p.table) (hnext : s.nextPid = origin) :
    ShellAt before first origin programs command s plumbing p := by
  cases left with
  | nil => exact .finished hprogram htable
  | cons fd left => exact .abandoning hprogram htable hnext

theorem shellAt_forking {stage : Nat} {left : List (List Bytes)} {children : List Pid}
    (hprogram : p.program = forking command .pure plumbing stage left children)
    (htable : LaidOut before first programs plumbing p.table)
    (hcount : plumbing.pipes.length = pipeCount programs)
    (hroom : first + pipeCount programs ≤ s.pipes.length) (hnext : s.nextPid = origin + stage) :
    ShellAt before first origin programs command s plumbing p := by
  cases left with
  | nil => exact shellAt_releasing hprogram htable.entries
  | cons arguments left => exact .forking hprogram htable hcount hroom hnext

theorem shellAt_laying {count : Nat}
    (hprogram : p.program = laying command .pure programs count plumbing)
    (htable : LaidOut before first programs plumbing p.table)
    (hcount : plumbing.pipes.length + count = pipeCount programs)
    (hpipes : s.pipes.length = first + plumbing.pipes.length) (hnext : s.nextPid = origin) :
    ShellAt before first origin programs command s plumbing p := by
  cases count with
  | zero =>
      refine .flushing hprogram htable hcount ?_ hnext
      rw [hpipes, ← hcount]
      exact Nat.le_refl _
  | succ count => exact .laying hprogram htable hcount hpipes hnext

theorem stageAt_dropping {stage : Nat} {left : List Fd} {arguments : List Bytes}
    {wired : Except Errno Unit} (hpid : p.pid = origin + stage) (hbecame : p.pid ∉ became)
    (hprogram : p.program = dropping arguments wired left)
    (htable : Covered first (pipeCount programs) stage left p.table) :
    StageAt first origin programs became plumbing p := by
  cases left with
  | nil => exact .searching hpid hbecame (hprogram ▸ asks_settled arguments wired) htable
  | cons fd left => exact .dropping hpid hbecame hprogram htable

theorem stageAt_output {stage : Nat} {arguments : List Bytes} (hpid : p.pid = origin + stage)
    (hbecame : p.pid ∉ became)
    (hprogram : p.program = ((wire (plumbing.outputOf stage) Fd.stdout).bind fun wired =>
      dropping arguments wired plumbing.descriptors))
    (htable : Covered first (pipeCount programs) stage plumbing.descriptors p.table)
    (hserves : ∀ fd descriptor, plumbing.outputOf stage = some fd →
      p.table.get? fd = some descriptor →
      IsEnd first (pipeCount programs) descriptor.handle.endpoint →
      Serves first stage descriptor.handle.endpoint) :
    StageAt first origin programs became plumbing p := by
  cases hsource : plumbing.outputOf stage with
  | none =>
      rw [hsource] at hprogram
      exact stageAt_dropping hpid hbecame hprogram htable
  | some fd =>
      rw [hsource] at hprogram
      by_cases hfd : fd = Fd.stdout
      · rw [show wire (some fd) Fd.stdout = .pure (.ok ()) from if_pos hfd] at hprogram
        exact stageAt_dropping hpid hbecame hprogram htable
      · rw [show wire (some fd) Fd.stdout = Prog.call (.duplicate fd Fd.stdout) from if_neg hfd]
          at hprogram
        exact .output hpid hbecame hprogram htable fun descriptor => hserves fd descriptor hsource

/-- The process of a stage begins with everything that the shell has laid out. -/
theorem stageAt_runStage {stage : Nat} {arguments : List Bytes} (hpid : p.pid = origin + stage)
    (hbecame : p.pid ∉ became) (hprogram : p.program = runStage plumbing stage arguments)
    (htable : LaidOut before first programs plumbing p.table)
    (hbefore : ∀ entry ∈ before, ¬IsEnd first (pipeCount programs) entry.2.handle.endpoint) :
    StageAt first origin programs became plumbing p := by
  have hcovered : Covered first (pipeCount programs) stage plumbing.descriptors p.table := by
    intro entry hentry hend
    exact .inl ((htable.entries entry hentry).resolve_left fun hin => hbefore entry hin hend)
  have houtput : ∀ fd descriptor, plumbing.outputOf stage = some fd →
      p.table.get? fd = some descriptor →
      IsEnd first (pipeCount programs) descriptor.handle.endpoint →
      Serves first stage descriptor.handle.endpoint := by
    intro fd descriptor hfd hget hend
    obtain ⟨-, found, hfound, ⟨-, hwriter, -⟩ | ⟨-, -, hsuits⟩⟩ := htable.output hfd
    · cases hfound.symm.trans hget
      exact .inl hwriter
    · cases hfound.symm.trans hget
      exact absurd hend hsuits
  have hinput : ∀ fd descriptor, plumbing.inputOf stage = some fd →
      p.table.get? fd = some descriptor → Serves first stage descriptor.handle.endpoint := by
    intro fd descriptor hfd hget
    obtain ⟨earlier, found, hstage, -, hfound, hreader, -⟩ := htable.input hfd
    cases hfound.symm.trans hget
    exact .inr ⟨earlier, hstage, hreader⟩
  rw [runStage_eq_wire] at hprogram
  cases hsource : plumbing.inputOf stage with
  | none =>
      rw [hsource] at hprogram
      exact stageAt_output hpid hbecame hprogram hcovered houtput
  | some fd =>
      rw [hsource] at hprogram
      by_cases hfd : fd = Fd.stdin
      · rw [show wire (some fd) Fd.stdin = .pure (.ok ()) from if_pos hfd] at hprogram
        exact stageAt_output hpid hbecame hprogram hcovered houtput
      · rw [show wire (some fd) Fd.stdin = Prog.call (.duplicate fd Fd.stdin) from if_neg hfd]
          at hprogram
        refine .input hpid hbecame hprogram hcovered ?_
        rintro fd' descriptor (rfl | hfd') hget hend
        · exact hinput fd' descriptor hsource hget
        · exact houtput fd' descriptor hfd' hget hend

/-- The standard input has been replaced, or the process gives up the plumbing. -/
theorem stageAt_inputWired {stage : Nat} {fd : Fd} {arguments : List Bytes}
    (hpid : p.pid = origin + stage) (hbecame : p.pid ∉ became)
    (htable : Covered first (pipeCount programs) stage plumbing.descriptors p.table)
    (hserves : ∀ fd' descriptor, fd' = fd ∨ plumbing.outputOf stage = some fd' →
      p.table.get? fd' = some descriptor →
      IsEnd first (pipeCount programs) descriptor.handle.endpoint →
      Serves first stage descriptor.handle.endpoint)
    (hq : q = { (duplicate p fd Fd.stdin).2 with
      program := inputWired plumbing stage arguments (duplicate p fd Fd.stdin).1 }) :
    StageAt first origin programs became plumbing q := by
  rcases duplicate_cases fd Fd.stdin (p := p) with ⟨errno, hdup⟩ |
    ⟨descriptor, hget, ⟨-, hdup⟩ | hdup⟩
  all_goals rw [hq, hdup]
  · exact stageAt_dropping hpid hbecame rfl htable
  · exact stageAt_output hpid hbecame rfl htable fun fd' other hfd' => hserves fd' other (.inr hfd')
  · have hnew := hserves fd descriptor (.inl rfl) hget
    refine stageAt_output hpid hbecame rfl (htable.set hnew) fun fd' other hfd' hother => ?_
    -- the standard output may be replaced by what the standard input has been replaced by
    rw [Table.get?_set] at hother
    split at hother
    · cases hother
      exact hnew
    · exact hserves fd' other (.inr hfd') hother

/-- Whether the standard output has been replaced or not, the plumbing is given up next. -/
theorem stageAt_outputWired {stage : Nat} {fd : Fd} {arguments : List Bytes}
    (hpid : p.pid = origin + stage) (hbecame : p.pid ∉ became)
    (htable : Covered first (pipeCount programs) stage plumbing.descriptors p.table)
    (hserves : ∀ descriptor, p.table.get? fd = some descriptor →
      IsEnd first (pipeCount programs) descriptor.handle.endpoint →
      Serves first stage descriptor.handle.endpoint)
    (hq : q = { (duplicate p fd Fd.stdout).2 with
      program := dropping arguments (duplicate p fd Fd.stdout).1 plumbing.descriptors }) :
    StageAt first origin programs became plumbing q := by
  rcases duplicate_cases fd Fd.stdout (p := p) with ⟨errno, hdup⟩ |
    ⟨descriptor, hget, ⟨-, hdup⟩ | hdup⟩
  all_goals rw [hq, hdup]
  · exact stageAt_dropping hpid hbecame rfl htable
  · exact stageAt_dropping hpid hbecame rfl htable
  · exact stageAt_dropping hpid hbecame rfl (htable.set (hserves descriptor hget))

/-- Of the machine, only the number of pipes and the next number matter. -/
theorem ShellAt.congr (h : ShellAt before first origin programs command s plumbing p)
    (hpipes : after.pipes.length = s.pipes.length) (hnext : after.nextPid = s.nextPid) :
    ShellAt before first origin programs command after plumbing p := by
  cases h with
  | opening hagain hprogram htable hlength horigin =>
      exact .opening hagain hprogram htable (hpipes.trans hlength) (hnext.trans horigin)
  | laying hprogram htable hcount hlength horigin =>
      exact .laying hprogram htable hcount (hpipes.trans hlength) (hnext.trans horigin)
  | abandoning hprogram htable horigin =>
      exact .abandoning hprogram htable (hnext.trans horigin)
  | flushing hprogram htable hcount hroom horigin =>
      exact .flushing hprogram htable hcount (hpipes ▸ hroom) (hnext.trans horigin)
  | forking hprogram htable hcount hroom horigin =>
      exact .forking hprogram htable hcount (hpipes ▸ hroom) (hnext.trans horigin)
  | releasing hprogram htable => exact .releasing hprogram htable
  | waiting hprogram htable => exact .waiting hprogram htable
  | finished hprogram htable => exact .finished hprogram htable

/-- Once a stage has been started, other processes may make pipes of their own. -/
theorem ShellAt.grow (h : ShellAt before first origin programs command s plumbing p)
    (hstarted : origin < s.nextPid) (hpipes : s.pipes.length ≤ after.pipes.length)
    (hnext : after.nextPid = s.nextPid) (hprogram : q.program = p.program)
    (htable : q.table = p.table) :
    ShellAt before first origin programs command after plumbing q := by
  cases h with
  | opening _ _ _ _ horigin => exact absurd hstarted (horigin ▸ Nat.lt_irrefl _)
  | laying _ _ _ _ horigin => exact absurd hstarted (horigin ▸ Nat.lt_irrefl _)
  | abandoning _ _ horigin => exact absurd hstarted (horigin ▸ Nat.lt_irrefl _)
  | flushing _ _ _ _ horigin => exact absurd hstarted (horigin ▸ Nat.lt_irrefl _)
  | forking hp ht hcount hroom horigin =>
      exact .forking (hprogram.trans hp) (htable ▸ ht) hcount (Nat.le_trans hroom hpipes)
        (hnext.trans horigin)
  | releasing hp ht => exact .releasing (hprogram.trans hp) (htable ▸ ht)
  | waiting hp ht => exact .waiting (hprogram.trans hp) (htable ▸ ht)
  | finished hp ht => exact .finished (hprogram.trans hp) (htable ▸ ht)

/-- Of the process of a stage, its number, its program and its table matter. -/
theorem StageAt.congr {later : List Pid} (h : StageAt first origin programs became plumbing p)
    (hpid : q.pid = p.pid) (hprogram : q.program = p.program) (htable : q.table = p.table)
    (hbecame : q.pid ∈ later ↔ p.pid ∈ became) :
    StageAt first origin programs later plumbing q := by
  cases h with
  | input hstage hnot hp ht hserves =>
      exact .input (hpid.trans hstage) (mt hbecame.mp hnot) (hprogram.trans hp) (htable ▸ ht)
        (htable ▸ hserves)
  | output hstage hnot hp ht hserves =>
      exact .output (hpid.trans hstage) (mt hbecame.mp hnot) (hprogram.trans hp) (htable ▸ ht)
        (htable ▸ hserves)
  | dropping hstage hnot hp ht =>
      exact .dropping (hpid.trans hstage) (mt hbecame.mp hnot) (hprogram.trans hp) (htable ▸ ht)
  | searching hstage hnot hp ht =>
      exact .searching (hpid.trans hstage) (mt hbecame.mp hnot) (hprogram ▸ hp) (htable ▸ ht)
  | free hstage hin ht => exact .free (hpid.trans hstage) (hbecame.mpr hin) (htable ▸ ht)

/-! ## What is still given up -/

end Arriving

/-! ## The invariant -/

/-- What holds in every state of a run. -/
structure Owned (before : Table) (first : PipeId) (origin shell : Pid)
    (programs : List (List Bytes)) (command : String) (became : List Pid) (s : System Outcome)
    (plumbing : Plumbing) : Prop where
  distinct : s.Distinct
  numbered : ∀ p ∈ s.processes, p.pid < s.nextPid
  known : ∀ pid ∈ became, pid < s.nextPid
  began : origin ≤ s.nextPid
  room : origin < s.nextPid → first + pipeCount programs ≤ s.pipes.length
  ended : ∀ p ∈ s.processes, p.ending.isSome = true → p.table = []
  bystander : ∀ p ∈ s.processes, p.pid ≠ shell → p.pid < origin → ∀ entry ∈ p.table,
    ¬IsEnd first (pipeCount programs) entry.2.handle.endpoint
  onShell : ∀ p ∈ s.processes, p.pid = shell → p.ending = none →
    ShellAt before first origin programs command s plumbing p
  onStage : ∀ p ∈ s.processes, origin ≤ p.pid → p.ending = none →
    StageAt first origin programs became plumbing p

section Invariant

variable {before : Table} {first : PipeId} {origin shell : Pid} {programs : List (List Bytes)}
  {command : String} {plumbing later : Plumbing} {became : List Pid}

/-- The shell has made a step on its way, and no process has been made. -/
theorem Owned.of_shell
    (h : Owned before first origin shell programs command became s plumbing)
    (hshell : shell < origin) (hforgets : Forgets s after) (hnext : after.nextPid = s.nextPid)
    (hpipes : s.pipes.length ≤ after.pipes.length) (hpid : q.pid = shell) (hending : q.ending = none)
    (hat : ShellAt before first origin programs command after later q)
    (hlater : later = plumbing ∨ s.nextPid = origin) :
    Owned before first origin shell programs command became (after.setProcess q) later := by
  have hmem : ∀ {p}, p ∈ (after.setProcess q).processes → p = q ∨ p ∈ s.processes ∧ p.pid ≠ shell := by
    intro p hp
    rcases mem_setProcess.mp hp with ⟨rfl, -⟩ | ⟨hp, hne⟩
    · exact .inl rfl
    · exact .inr ⟨mem_of_forgets hforgets hp, hpid ▸ hne⟩
  have hshellBelow : shell < s.nextPid := Nat.lt_of_lt_of_le hshell h.began
  refine ⟨?_, ?_, ?_, ?_, ?_, ?_, ?_, ?_, ?_⟩
  · unfold Distinct
    rw [map_pid_setProcess]
    exact (sublist_of_forgets hforgets).nodup h.distinct
  · intro p hp
    show p.pid < after.nextPid
    rw [hnext]
    rcases hmem hp with rfl | ⟨hp, -⟩
    · rw [hpid]
      exact hshellBelow
    · exact h.numbered p hp
  · intro pid hpid
    show pid < after.nextPid
    rw [hnext]
    exact h.known pid hpid
  · show origin ≤ after.nextPid
    rw [hnext]
    exact h.began
  · intro hlt
    exact Nat.le_trans (h.room (hnext ▸ hlt)) hpipes
  · intro p hp hended
    rcases hmem hp with rfl | ⟨hp, -⟩
    · rw [hending] at hended
      exact absurd hended (by simp)
    · exact h.ended p hp hended
  · intro p hp hne hlt
    rcases hmem hp with rfl | ⟨hp, -⟩
    · exact absurd hpid hne
    · exact h.bystander p hp hne hlt
  · intro p hp hsame halive
    rcases hmem hp with rfl | ⟨-, hne⟩
    · exact hat.congr rfl rfl
    · exact absurd hsame hne
  · intro p hp hge halive
    rcases hmem hp with rfl | ⟨hp, -⟩
    · rw [hpid] at hge
      exact absurd hshell (Nat.not_lt_of_le hge)
    · rcases hlater with rfl | hnone
      · exact h.onStage p hp hge halive
      · exact absurd (Nat.lt_of_le_of_lt hge (h.numbered p hp)) (by rw [hnone]; exact Nat.lt_irrefl _)

/-- The shell has made a step and started the process of a stage. -/
theorem Owned.of_fork
    (h : Owned before first origin shell programs command became s plumbing)
    (hshell : shell < origin) (hpid : q.pid = shell) (hending : q.ending = none)
    (hchild : answered.pid = s.nextPid) (hchildEnding : answered.ending = none)
    (hroom : first + pipeCount programs ≤ s.pipes.length)
    (hat : ShellAt before first origin programs command
      { s with nextPid := s.nextPid + 1 } plumbing q)
    (hstage : StageAt first origin programs became plumbing answered) :
    Owned before first origin shell programs command became
      { s.setProcess q with
        processes := (s.setProcess q).processes ++ [answered]
        nextPid := s.nextPid + 1 } plumbing := by
  have hmem : ∀ {p}, p ∈ (s.setProcess q).processes ++ [answered] →
      p = answered ∨ p = q ∨ p ∈ s.processes ∧ p.pid ≠ shell := by
    intro p hp
    rcases List.mem_append.mp hp with hp | hp
    · rcases mem_setProcess.mp hp with ⟨rfl, -⟩ | ⟨hp, hne⟩
      · exact .inr (.inl rfl)
      · exact .inr (.inr ⟨hp, hpid ▸ hne⟩)
    · exact .inl (List.mem_singleton.mp hp)
  have hkeeps := keeps_of_fork h.distinct h.numbered hpid hchild
  refine ⟨hkeeps.distinct, hkeeps.numbered, fun pid hin => Nat.lt_succ_of_lt (h.known pid hin),
    Nat.le_succ_of_le h.began, fun _ => hroom, ?_, ?_, ?_, ?_⟩
  · intro p hp hended
    rcases hmem hp with rfl | rfl | ⟨hp, -⟩
    · exact absurd (hchildEnding ▸ hended) (by simp)
    · exact absurd (hending ▸ hended) (by simp)
    · exact h.ended p hp hended
  · intro p hp hne hlt
    rcases hmem hp with rfl | rfl | ⟨hp, -⟩
    · exact absurd (Nat.lt_of_le_of_lt h.began (hchild ▸ hlt)) (Nat.lt_irrefl _)
    · exact absurd hpid hne
    · exact h.bystander p hp hne hlt
  · intro p hp hsame halive
    rcases hmem hp with rfl | rfl | ⟨-, hne⟩
    · have hbelow : shell < s.nextPid := Nat.lt_of_lt_of_le hshell h.began
      rw [← hchild, hsame] at hbelow
      exact absurd hbelow (Nat.lt_irrefl _)
    · exact hat.congr rfl rfl
    · exact absurd hsame hne
  · intro p hp hge halive
    rcases hmem hp with rfl | rfl | ⟨hp, -⟩
    · exact hstage
    · rw [hpid] at hge
      exact absurd hshell (Nat.not_lt_of_le hge)
    · exact h.onStage p hp hge halive

/-- What the shell opens is none of the ends of its pipeline. -/
theorem not_isEnd_of_endpointAt {path : Bytes} {access : Access} {endpoint : Endpoint}
    {files : Files} {count : Nat}
    (hbefore : ∀ entry ∈ p.table, ¬IsEnd first count entry.2.handle.endpoint)
    (h : s.endpointAt p path access = .ok (endpoint, files)) : ¬IsEnd first count endpoint := by
  rintro ⟨pipe, hge, hlt, hend⟩
  rcases endpointAt_ok h with ⟨id, rfl⟩ | rfl | ⟨entry, hentry, other, hother, hsame⟩
  · exact absurd hend (by simp)
  · exact absurd hend (by simp)
  · have hpipe : other = pipe := by
      rcases hsame with rfl | rfl <;> simpa using hend
    subst hpipe
    exact hbefore entry hentry ⟨other, hge, hlt, hother⟩

section ShellSteps

variable (h : Owned before first origin shell programs command became s plumbing)
  (hshell : shell < origin) (hp : s.process? shell = some p) (hactive : p.active = true)
  (hstep : step launch s shell = some s')

include h hshell hp hactive hstep

/-- The shell has opened the target, tries once more, or gives up. -/
theorem Owned.opening_step (hordered : before.Ordered)
    (hbefore : ∀ entry ∈ before, ¬IsEnd first (pipeCount programs) entry.2.handle.endpoint)
    {path : Bytes} {access : Access} {again : Except Errno Fd → Bool} {failure : Errno → ExecFailure}
    (hagain : ∀ fd, again (.ok fd) = false)
    (hprogram : p.program = .ask (.openPath path access true) again
      (opened command .pure programs failure))
    (htable : p.table = before) (hpipes : s.pipes.length = first) (hnext : s.nextPid = origin) :
    ∃ later, Owned before first origin shell programs command became s' later := by
  have hpid := (mem_of_process? hp).2
  have halive := ending_of_active hactive
  obtain ⟨reply, answered, after, hopened, rfl⟩ := step_openPath hp hactive hstep hprogram
  cases hopened with
  | @refused errno =>
      refine ⟨plumbing, h.of_shell hshell (.inl rfl) rfl (Nat.le_refl _) hpid halive ?_ (.inl rfl)⟩
      cases hretry : again (.error errno) with
      | true => exact .opening hagain (if_pos hretry) htable hpipes hnext
      | false =>
          exact .finished (if_neg (by simp [hretry])) fun entry hentry => .inl (htable ▸ hentry)
  | opened _ hendpoint =>
      refine ⟨⟨[], some p.table.free⟩, h.of_shell hshell (.inl rfl) rfl (Nat.le_refl _) hpid halive
        (shellAt_laying (if_neg (by simp [hagain])) ?_ (Nat.zero_add _) hpipes hnext) (.inr hnext)⟩
      rw [htable]
      exact .of_target hordered hordered.get?_free
        (not_isEnd_of_endpointAt (htable ▸ hbefore) hendpoint)

/-- The shell has made one more pipe, or has no room for it and gives up what it has made. -/
theorem Owned.laying_step {count : Nat}
    (hprogram : p.program = laying command .pure programs (count + 1) plumbing)
    (htable : LaidOut before first programs plumbing p.table)
    (hcount : plumbing.pipes.length + (count + 1) = pipeCount programs)
    (hpipes : s.pipes.length = first + plumbing.pipes.length) (hnext : s.nextPid = origin) :
    ∃ later, Owned before first origin shell programs command became s' later := by
  have hpid := (mem_of_process? hp).2
  have halive := ending_of_active hactive
  rw [laying_succ] at hprogram
  rw [step_answered hp hactive rfl hprogram] at hstep
  simp only [answer, Option.map_some, Option.some.injEq] at hstep
  subst hstep
  rcases hmade : s.openPipe p with ⟨errno | ends, answered, after⟩
  · obtain ⟨rfl, rfl⟩ := openPipe_error hmade
    exact ⟨plumbing, h.of_shell hshell (.inl rfl) rfl (Nat.le_refl _) hpid halive
      (shellAt_abandoning rfl htable.entries hnext) (.inl rfl)⟩
  · obtain ⟨hlaid, hlength, hprocesses, hnextPid, -, hanswered⟩ := htable.pipe hpipes hmade
    refine ⟨{ plumbing with pipes := plumbing.pipes ++ [ends] },
      h.of_shell hshell (.inl hprocesses) hnextPid ?_ ?_ ?_
        (shellAt_laying rfl hlaid ?_ ?_ (hnextPid.trans hnext)) (.inr hnext)⟩
    · rw [hlength, hpipes]
      exact Nat.le_succ _
    · rw [hanswered]
      exact hpid
    · rw [hanswered]
      exact halive
    · rw [List.length_append, List.length_singleton, ← hcount]
      omega
    · rw [hlength, List.length_append, List.length_singleton]

/-- The shell has written what it held back, or a part of it, before it starts the stages. -/
theorem Owned.flushing_step
    (hprogram : p.program = .ask .flush (fun _ => false) fun _ =>
      forking command .pure plumbing 0 programs [])
    (htable : LaidOut before first programs plumbing p.table)
    (hcount : plumbing.pipes.length = pipeCount programs)
    (hroom : first + pipeCount programs ≤ s.pipes.length) (hnext : s.nextPid = origin) :
    ∃ later, Owned before first origin shell programs command became s' later := by
  have hpid := (mem_of_process? hp).2
  have halive := ending_of_active hactive
  have hforking : ∀ {after : System Outcome} {pending : Bytes},
      after.pipes.length = s.pipes.length → after.nextPid = s.nextPid →
      ShellAt before first origin programs command after plumbing { p with
        pending := pending, program := forking command .pure plumbing 0 programs [] } :=
    fun hlength hnextPid =>
      shellAt_forking rfl htable hcount (hlength ▸ hroom) (hnextPid.trans hnext)
  cases hpending : p.pending.isEmpty with
  | true =>
      cases hstep.symm.trans (step_flush_of_isEmpty hp hactive hprogram hpending)
      exact ⟨plumbing, h.of_shell hshell (.inl rfl) rfl (Nat.le_refl _) hpid halive
        (hforking rfl rfl) (.inl rfl)⟩
  | false =>
      rw [step_flush hp hactive hprogram hpending, Option.map_eq_some_iff] at hstep
      obtain ⟨⟨errno | left, after⟩, hwrite, rfl⟩ := hstep
      all_goals have hquiet := quiet_writeSome hwrite
      all_goals refine ⟨plumbing, h.of_shell hshell (.inl hquiet.processes) hquiet.nextPid
        (Nat.le_of_eq hquiet.pipes.symm) hpid halive ?_ (.inl rfl)⟩
      · exact hforking hquiet.pipes hquiet.nextPid
      · exact .flushing hprogram htable hcount (hquiet.pipes ▸ hroom) (hquiet.nextPid.trans hnext)

/-- The shell has been told of the end of a stage, or waits on, or gives up. -/
theorem Owned.waiting_step {codes : List Int} {child : Pid} {left : List Pid}
    (hprogram : p.program = waiting command .pure codes (child :: left))
    (htable : Leaves before [] p.table) :
    ∃ later, Owned before first origin shell programs command became s' later := by
  have hpid := (mem_of_process? hp).2
  have halive := ending_of_active hactive
  have hask := hprogram
  rw [waiting_cons] at hask
  rw [step_answered hp hactive rfl hask] at hstep
  simp only [answer, Option.map_map, Option.map_eq_some_iff] at hstep
  obtain ⟨⟨reply, after⟩, hwait, rfl⟩ := hstep
  obtain ⟨hnextPid, hpipes, hforgets⟩ := waitFor_effect hwait
  refine ⟨plumbing, h.of_shell hshell hforgets hnextPid
    (Nat.le_of_eq (congrArg List.length hpipes).symm) hpid halive ?_ (.inl rfl)⟩
  rcases waiting_proceeds command .pure codes child left reply (hask.symm.trans hprogram).symm
    with hnext | ⟨-, -, code, -, -, hnext⟩ | ⟨errno, hnext⟩
  · exact shellAt_waiting hnext htable
  · exact shellAt_waiting hnext htable
  · exact .finished hnext htable

end ShellSteps

/-- Every step of the shell keeps the invariant. -/
theorem Owned.shell_step
    (h : Owned before first origin shell programs command became s plumbing)
    (hshell : shell < origin) (hordered : before.Ordered)
    (hbefore : ∀ entry ∈ before, ¬IsEnd first (pipeCount programs) entry.2.handle.endpoint)
    (hstep : step launch s shell = some s') :
    ∃ later, Owned before first origin shell programs command became s' later := by
  obtain ⟨p, hp, hactive⟩ := process?_of_step hstep
  obtain ⟨hmem, hpid⟩ := mem_of_process? hp
  have halive := ending_of_active hactive
  cases h.onShell p hmem hpid halive with
  | finished hprogram htable =>
      exact absurd (hstep.symm.trans (step_pure hp hactive hprogram)) (by simp)
  | abandoning hprogram htable hnext =>
      cases hstep.symm.trans (step_closeAll hp hactive hprogram)
      exact ⟨plumbing, h.of_shell hshell (.inl rfl) rfl (Nat.le_refl _) hpid halive
        (shellAt_abandoning rfl htable.erase hnext) (.inl rfl)⟩
  | releasing hprogram htable =>
      cases hstep.symm.trans (step_closeAll hp hactive hprogram)
      exact ⟨plumbing, h.of_shell hshell (.inl rfl) rfl (Nat.le_refl _) hpid halive
        (shellAt_releasing rfl htable.erase) (.inl rfl)⟩
  | opening hagain hprogram htable hpipes hnext =>
      exact h.opening_step hshell hp hactive hstep hordered hbefore hagain hprogram htable hpipes
        hnext
  | laying hprogram htable hcount hpipes hnext =>
      exact h.laying_step hshell hp hactive hstep hprogram htable hcount hpipes hnext
  | flushing hprogram htable hcount hroom hnext =>
      exact h.flushing_step hshell hp hactive hstep hprogram htable hcount hroom hnext
  | forking hprogram htable hcount hroom hnext =>
      rw [forking_cons] at hprogram
      cases hstep.symm.trans (step_fork hp hactive hprogram)
      -- the child has a number that no process has had, so it has become no program yet
      exact ⟨plumbing, h.of_fork hshell hpid halive rfl halive hroom
        (shellAt_forking rfl htable hcount hroom (congrArg (· + 1) hnext))
        (stageAt_runStage hnext (fun hin => absurd (h.known _ hin) (Nat.lt_irrefl _)) rfl htable
          hbefore)⟩
  | waiting hprogram htable => exact h.waiting_step hshell hp hactive hstep hprogram htable

/-- The process of a stage has made a step, and no other process has been made. -/
theorem Owned.of_stage
    (h : Owned before first origin shell programs command became s plumbing)
    (hshell : shell < origin) (hstage : origin ≤ pid) (hp : s.process? pid = some p)
    (heffect : StepEffect s pid s') {grown : List Pid}
    (hgrown : ∀ other, other ∈ grown → other = pid ∨ other ∈ became)
    (hkept : ∀ other ∈ became, other ∈ grown)
    (hat : ∀ q ∈ s'.processes, q.pid = pid → q.ending = none →
      StageAt first origin programs grown plumbing q) :
    Owned before first origin shell programs command grown s' plumbing := by
  obtain ⟨hmem, hpid⟩ := mem_of_process? hp
  have hstarted : origin < s.nextPid :=
    Nat.lt_of_le_of_lt hstage (hpid ▸ h.numbered p hmem)
  refine ⟨?_, ?_, ?_, ?_, ?_, ?_, ?_, ?_, ?_⟩
  · exact heffect.pids.nodup h.distinct
  · intro q hq
    rw [heffect.nextPid]
    obtain ⟨old, hold, heq⟩ := List.mem_map.mp (heffect.pids.subset (List.mem_map_of_mem hq))
    exact heq ▸ h.numbered old hold
  · intro other hin
    rw [heffect.nextPid]
    rcases hgrown other hin with rfl | hin
    · exact hpid ▸ h.numbered p hmem
    · exact h.known other hin
  · exact heffect.nextPid ▸ h.began
  · intro _
    exact Nat.le_trans (h.room hstarted) heffect.pipes
  · intro q hq hended
    rcases heffect.processes q hq with ⟨-, old, hold, hkeeps⟩ | ⟨p, -, -, hmoved⟩
    · rcases hkeeps.rest with ⟨htable, hending⟩ | ⟨htable, -⟩
      · rw [htable]
        exact h.ended old hold (hending ▸ hended)
      · exact htable
    · exact hmoved.ending hended
  · intro q hq hne hlt
    obtain ⟨old, hold, hkeeps⟩ := heffect.kept hq fun heq =>
      absurd hlt (heq ▸ Nat.not_lt_of_le hstage)
    exact fun entry hentry => h.bystander old hold (hkeeps.pid ▸ hne) (hkeeps.pid ▸ hlt) entry
      (hkeeps.table_subset entry hentry)
  · intro q hq hsame halive
    have hne : q.pid ≠ pid := fun heq => absurd hshell (by
      rw [← hsame, heq]
      exact Nat.not_lt_of_le hstage)
    obtain ⟨old, hold, hkeeps⟩ := heffect.kept hq hne
    obtain ⟨htable, hending⟩ := hkeeps.of_alive halive
    exact (h.onShell old hold (hkeeps.pid ▸ hsame) (hending ▸ halive)).grow hstarted heffect.pipes
      heffect.nextPid hkeeps.program htable
  · intro q hq hge halive
    by_cases hself : q.pid = pid
    · exact hat q hq hself halive
    · obtain ⟨old, hold, hkeeps⟩ := heffect.kept hq hself
      obtain ⟨htable, hending⟩ := hkeeps.of_alive halive
      refine (h.onStage old hold (hkeeps.pid ▸ hge) (hending ▸ halive)).congr hkeeps.pid
        hkeeps.program htable ?_
      rw [← hkeeps.pid]
      exact ⟨fun hin => (hgrown _ hin).resolve_left hself, hkept _⟩

/-- A process that looks for its program goes on looking for it, unless it becomes it. -/
theorem search_step (hp : s.process? pid = some p) (hactive : p.active = true)
    (h : Asks IsSearch p.program) (hstep : step launch s pid = some s') :
    becomes launch s pid = true ∨
      ∀ q ∈ s'.processes, q.pid = pid → q.ending = none → Asks IsSearch q.program := by
  refine asks_step (fun call hcall => ?_) (fun _ _ _ h => h) (fun _ _ _ h => h) hp hactive h hstep
  cases call <;> first | exact Or.elim hcall False.elim False.elim | exact ⟨rfl, by simp⟩

/-- The process of a stage that does not become its program has asked for what concerns itself. -/
theorem Owned.of_ask
    (h : Owned before first origin shell programs command became s plumbing)
    (hshell : shell < origin) (hstage : origin ≤ pid) (hp : s.process? pid = some p) {call : Call}
    {again : call.Result → Bool} {next : call.Result → Prog Outcome}
    (hprogram : p.program = .ask call again next) (hplain : call.isPlain = true)
    (hcall : ∀ path arguments bindings, call ≠ .exec path arguments bindings)
    (hstep : step launch s pid = some s')
    (hat : ∀ q ∈ s'.processes, q.pid = pid → StageAt first origin programs became plumbing q) :
    Owned before first origin shell programs command
      (if becomes launch s pid then pid :: became else became) s' plumbing := by
  have heffect := step_effect_of_ask h.distinct hp hprogram hplain hstep
  rw [becomes_eq_false hp hprogram hcall]
  exact h.of_stage hshell hstage hp heffect (fun _ hin => .inr hin) (fun _ hin => hin)
    fun q hq hsame _ => hat q hq hsame

/-- A process that asks for no process and opens no path holds no more ends than before. -/
theorem Owned.covered {stage : Nat}
    (h : Owned before first origin shell programs command became s plumbing)
    (hstage : origin ≤ pid) (hp : s.process? pid = some p) (heffect : StepEffect s pid s')
    (hcovered : Covered first (pipeCount programs) stage [] p.table)
    (hq : q ∈ s'.processes) (hsame : q.pid = pid) :
    Covered first (pipeCount programs) stage [] q.table := by
  obtain ⟨hmem, hpid⟩ := mem_of_process? hp
  have hroom := h.room (Nat.lt_of_le_of_lt hstage (hpid ▸ h.numbered p hmem))
  rcases heffect.processes q hq with ⟨hne, -⟩ | ⟨old, hold, hpid', hmoved⟩
  · exact absurd hsame hne
  · obtain rfl := h.distinct.eq_of_process? hp hold hpid'
    exact hcovered.within hroom hmoved.table

/-- Every step of the process of a stage keeps the invariant. -/
theorem Owned.stage_step
    (h : Owned before first origin shell programs command became s plumbing)
    (hshell : shell < origin) (hstage : origin ≤ pid)
    (hplain : pid ∈ became → ∀ p, s.process? pid = some p → ∀ call,
      p.program.request? = some call → call.isPlain = true)
    (hstep : step launch s pid = some s') :
    Owned before first origin shell programs command
      (if becomes launch s pid then pid :: became else became) s' plumbing := by
  obtain ⟨p, hp, hactive⟩ := process?_of_step hstep
  obtain ⟨hmem, rfl⟩ := mem_of_process? hp
  have hgrown : ∀ other, other ∈ (if becomes launch s p.pid then p.pid :: became else became) →
      other = p.pid ∨ other ∈ became := by
    intro other hin
    split at hin
    · exact List.mem_cons.mp hin
    · exact .inr hin
  have hkept : ∀ other ∈ became,
      other ∈ (if becomes launch s p.pid then p.pid :: became else became) := by
    intro other hin
    split
    · exact List.mem_cons_of_mem _ hin
    · exact hin
  cases h.onStage p hmem hstage (ending_of_active hactive) with
  | @input stage fd arguments hplace hnot hprogram htable hserves =>
      refine h.of_ask hshell hstage hp hprogram rfl (by simp) hstep fun q hq hsame => ?_
      cases hstep.symm.trans (step_duplicate hp hactive hprogram)
      exact stageAt_inputWired hplace hnot htable hserves
        (eq_of_own hp hq hsame (duplicate_rest fd Fd.stdin).1)
  | @output stage fd arguments hplace hnot hprogram htable hserves =>
      refine h.of_ask hshell hstage hp hprogram rfl (by simp) hstep fun q hq hsame => ?_
      cases hstep.symm.trans (step_duplicate hp hactive hprogram)
      exact stageAt_outputWired hplace hnot htable hserves
        (eq_of_own hp hq hsame (duplicate_rest fd Fd.stdout).1)
  | @dropping stage fd left arguments wired hplace hnot hprogram htable =>
      have hask : p.program = .ask (.close fd) (fun _ => false) fun _ =>
        dropping arguments wired left := hprogram
      refine h.of_ask hshell hstage hp hask rfl (by simp) hstep fun q hq hsame => ?_
      cases hstep.symm.trans (step_close hp hactive hask)
      rw [eq_of_own hp hq hsame rfl]
      exact stageAt_dropping hplace hnot rfl htable.erase
  | @searching stage hplace hnot hasks htable =>
      have heffect := step_effect h.distinct (fun other hother call hcall => by
        cases hp.symm.trans hother
        have hsearch := hasks.of_request? hcall
        cases call <;> first | exact Or.elim hsearch False.elim False.elim | rfl) hstep
      refine h.of_stage hshell hstage hp heffect hgrown hkept fun q hq hsame halive => ?_
      have hcovered := h.covered hstage hp heffect htable hq hsame
      cases hbecomes : becomes launch s p.pid with
      | true =>
          refine .free (hsame.trans hplace) ?_ hcovered
          rw [if_pos rfl, hsame]
          exact List.mem_cons_self
      | false =>
          have hsearches := (search_step hp hactive hasks hstep).resolve_left (by simp [hbecomes])
          refine .searching (hsame.trans hplace) ?_ (hsearches q hq hsame halive) hcovered
          rw [if_neg Bool.false_ne_true, hsame]
          exact hnot
  | @free stage hplace hin htable =>
      have heffect := step_effect h.distinct (hplain hin) hstep
      refine h.of_stage hshell hstage hp heffect hgrown hkept fun q hq hsame _ => ?_
      exact .free (hsame.trans hplace) (hkept _ (hsame ▸ hin))
        (h.covered hstage hp heffect htable hq hsame)

end Invariant

/-! ## Whole runs -/

/-- A sound machine in which a shell is about to run a pipeline. -/
structure Begins (pipeline : Pipeline) (command : String) (shell : Pid) (before : Table)
    (start : System Outcome) : Prop where
  sound : start.Sound
  shell : ∃ p ∈ start.processes, p.pid = shell ∧ p.program = execute pipeline command ∧
    p.table = before

section Whole

variable {pipeline : Pipeline} {command : String} {shell : Pid} {before : Table}
  {start : System Outcome} {became : List Pid}

theorem Begins.not_isEnd (h : Begins pipeline command shell before start) {count : Nat} :
    ∀ p ∈ start.processes, ∀ entry ∈ p.table,
      ¬IsEnd start.pipes.length count entry.2.handle.endpoint := by
  rintro p hp entry hentry ⟨pipe, hge, -, hend⟩
  exact absurd (h.sound.pipes p hp entry hentry pipe hend) (Nat.not_lt_of_le hge)

theorem Begins.shell_lt (h : Begins pipeline command shell before start) :
    shell < start.nextPid := by
  obtain ⟨p, hp, rfl, -⟩ := h.shell
  exact h.sound.numbered p hp

/-- The invariant holds in the beginning. -/
theorem Begins.owned (h : Begins pipeline command shell before start) :
    ∃ programs plumbing, pipeCount programs = pipeline.stages.length - 1 ∧
      Owned before start.pipes.length start.nextPid shell programs command [] start plumbing := by
  obtain ⟨first, hfirst, hpid, hprogram, htable⟩ := h.shell
  have hordered : before.Ordered := htable ▸ h.sound.ordered first hfirst
  have howned : ∀ {programs plumbing}, (∀ p ∈ start.processes, p.pid = shell →
      ShellAt before start.pipes.length start.nextPid programs command start plumbing p) →
      Owned before start.pipes.length start.nextPid shell programs command [] start plumbing := by
    intro programs plumbing hat
    refine ⟨h.sound.distinct, h.sound.numbered, fun pid hin => absurd hin List.not_mem_nil,
      Nat.le_refl _, fun hlt => absurd hlt (Nat.lt_irrefl _), h.sound.ended,
      fun p hp _ _ => h.not_isEnd p hp, fun p hp hsame _ => hat p hp hsame, ?_⟩
    intro p hp hge
    exact absurd (h.sound.numbered p hp) (Nat.not_lt_of_le hge)
  have hself : ∀ p ∈ start.processes, p.pid = shell → p = first := by
    intro p hp hsame
    exact h.sound.distinct.eq_of_pid hfirst hp (hsame.trans hpid.symm)
  have hleaves : Leaves before [] first.table := fun entry hentry => .inl (htable ▸ hentry)
  rw [← bind_pure (execute pipeline command), execute_bind] at hprogram
  cases hprograms : pipeline.stages.mapM Stage.argumentBytes with
  | error word =>
      rw [hprograms] at hprogram
      refine ⟨List.replicate pipeline.stages.length [], ⟨[], none⟩, by simp [pipeCount],
        howned fun p hp hsame => ?_⟩
      rw [hself p hp hsame]
      exact .finished hprogram hleaves
  | ok programs =>
      rw [hprograms] at hprogram
      have hlength := (forall₂_of_mapM_eq_ok hprograms).length_eq
      refine ⟨programs, ⟨[], none⟩, congrArg (· - 1) hlength.symm, howned fun p hp hsame => ?_⟩
      rw [hself p hp hsame]
      cases htarget : pipeline.target with
      | none =>
          rw [htarget] at hprogram
          exact shellAt_laying hprogram (by rw [htable]; exact .of_none hordered) (Nat.zero_add _)
            rfl rfl
      | some target =>
          rw [htarget] at hprogram
          have hopening := hprogram.trans (opening_some command .pure programs target)
          cases hpath : cleanBytes target.path with
          | error word =>
              rw [hpath] at hopening
              exact .finished hopening hleaves
          | ok path =>
              rw [hpath] at hopening
              exact .opening (fun fd => rfl) hopening htable rfl rfl

/-- The invariant holds in every state that is reached. -/
theorem Run.owned {programs : List (List Bytes)} {plumbing : Plumbing}
    (hstart : Begins pipeline command shell before start)
    (howned : Owned before start.pipes.length start.nextPid shell programs command [] start plumbing)
    (hrun : Run launch shell start became s) :
    ∃ later, Owned before start.pipes.length start.nextPid shell programs command became s later := by
  have hshell := hstart.shell_lt
  obtain ⟨first, hfirst, -, -, htable⟩ := hstart.shell
  induction hrun with
  | start => exact ⟨plumbing, howned⟩
  | tick time _ ih =>
      obtain ⟨later, h⟩ := ih
      exact ⟨later, h.distinct, h.numbered, h.known, h.began, h.room, h.ended, h.bystander,
        fun p hp hsame halive => (h.onShell p hp hsame halive).congr rfl rfl, h.onStage⟩
  | shell _ hstep ih =>
      obtain ⟨later, h⟩ := ih
      exact h.shell_step hshell (htable ▸ hstart.sound.ordered first hfirst)
        (htable ▸ hstart.not_isEnd first hfirst) hstep
  | stage _ hstage hplain hstep ih =>
      obtain ⟨later, h⟩ := ih
      exact ⟨later, h.stage_step hshell hstage hplain hstep⟩

end Whole

/-! ## Two stages -/

/-- Two programs, the first one feeding the second one. -/
def pair : Pipeline := ⟨[⟨"yes", []⟩, ⟨"head", []⟩], none⟩

/-- A shell at a terminal that is about to run the two programs. -/
def pairShell : Process Outcome where
  pid := 1
  parent := 0
  program := execute pair "yes | head"
  table := [Fd.stdin, Fd.stdout, Fd.stderr].map fun fd =>
    (fd, ⟨⟨.terminal, { read := true, write := true }, 0⟩, false⟩)
  limit := 64
  directory := Files.root
  bindings := []
  pending := []
  ending := none

/-- A machine with nothing but the shell. -/
def pairMachine : System Outcome where
  files := .empty
  cells := [0]
  pipes := []
  typed := []
  processes := [pairShell]
  nextPid := 2

/-- The machine after processes have made a step each, one after the other, where no file is a
program. -/
def pairAfter (pids : List Pid) : System Outcome :=
  pids.foldl (fun s pid => (step (fun _ _ => none) s pid).getD s) pairMachine

end LineShell.Ownership
