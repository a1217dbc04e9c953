import LineShell.Proofs.Pipeline.Descriptors
import LineShell.Proofs.Pipeline.Ownership
import LineShell.Proofs.System.Company

/-!
# What a stage is given

The process of a stage replaces its standard streams, gives up everything else that the shell has
opened for the pipeline, and asks to become its program. At that point it has the open files of the
shell, but for the streams that have been replaced.

* **`led`**, **`wiredTable`** — what replacing the streams makes of a table;
* **`StageAt`** — where a stage is on its way, kept by each of its steps (`StageAt.step`);
* **`Staged`** — the shell and all its stages, over a whole course;
* **`wired_at_exec`** — what stands under each number when a stage asks to become its program.
-/

namespace LineShell.Wiring

open LineShell.System LineShell.Course LineShell.Descriptors Prog

variable {launch : Launcher} {s s' : System Outcome} {shell pid : Pid} {p q : Process Outcome}

/-! ## Replacing the streams -/

/-- The table in which a stream stands for what the source stands for, if there is a source. -/
def led (source : Option Fd) (stream : Fd) (table : Table) : Table :=
  match source.bind table.get? with
  | some descriptor => table.set stream ⟨descriptor.handle, false⟩
  | none => table

theorem led_none {stream : Fd} {table : Table} : led none stream table = table := rfl

theorem led_some {fd stream : Fd} {table : Table} {descriptor : Descriptor}
    (h : table.get? fd = some descriptor) :
    led (some fd) stream table = table.set stream ⟨descriptor.handle, false⟩ := by
  unfold led
  rw [Option.bind_some, h]

theorem get?_led_of_ne {source : Option Fd} {stream fd : Fd} {table : Table} (h : fd ≠ stream) :
    (led source stream table).get? fd = table.get? fd := by
  unfold led
  split
  · rw [Table.get?_set, if_neg h]
  · rfl

theorem get?_led_self {fd stream : Fd} {table : Table} {descriptor : Descriptor}
    (h : table.get? fd = some descriptor) :
    (led (some fd) stream table).get? stream = some ⟨descriptor.handle, false⟩ := by
  rw [led_some h, Table.get?_set_self]

/-- The table of a stage that has replaced its standard streams. -/
def wiredTable (plumbing : Plumbing) (stage : Nat) (laid : Table) : Table :=
  led (plumbing.outputOf stage) Fd.stdout (led (plumbing.inputOf stage) Fd.stdin laid)

theorem mem_of_inputOf {plumbing : Plumbing} {stage : Nat} {fd : Fd}
    (h : plumbing.inputOf stage = some fd) : fd ∈ plumbing.descriptors := by
  cases stage with
  | zero => cases h
  | succ earlier =>
      obtain ⟨ends, hends, rfl⟩ := Option.map_eq_some_iff.mp h
      refine List.mem_append_left _ (List.mem_flatMap.mpr ⟨ends, List.mem_of_getElem? hends, ?_⟩)
      exact List.mem_cons_self

theorem mem_of_outputOf {plumbing : Plumbing} {stage : Nat} {fd : Fd}
    (h : plumbing.outputOf stage = some fd) : fd ∈ plumbing.descriptors := by
  unfold Plumbing.outputOf at h
  split at h
  · rename_i ends hends
    cases h
    refine List.mem_append_left _ (List.mem_flatMap.mpr ⟨ends, List.mem_of_getElem? hends, ?_⟩)
    exact List.mem_cons_of_mem _ List.mem_cons_self
  · exact List.mem_append_right _ (Option.mem_toList.mpr h)

/-! ## A stage on its way -/

/-- What a process asks that has given up the plumbing. -/
def IsLast : Call → Prop
  | .bindings | .exec .. | .write .. | .exit _ => True
  | _ => False

/-- What a process asks that has not been given its streams. -/
def IsParting : Call → Prop
  | .write .. | .exit _ => True
  | _ => False

theorem asks_parting (text : Bytes) (code : Int) :
    Asks IsParting ((complain text).bind fun _ => exit (α := Outcome) code) :=
  .ask trivial fun _ => .ask trivial fun answer => answer.elim

theorem asks_searching (arguments : List Bytes) :
    Asks IsLast (searching (α := Outcome) arguments) := by
  refine ((asks_execByName _ _).mono fun call hcall => ?_).bind fun _ =>
    (asks_parting _ _).mono fun call hcall => ?_
  · cases call <;> first | exact hcall.elim | trivial
  · cases call <;> first | exact hcall.elim | trivial

/-- Where the process of a stage is on its way. -/
inductive StageAt (plumbing : Plumbing) (laid : Table) (stage : Nat) (p : Process Outcome) : Prop
  | input {fd : Fd} {arguments : List Bytes} :
      p.program = .ask (.duplicate fd Fd.stdin) (fun _ => false)
        (inputWired plumbing stage arguments) →
      plumbing.inputOf stage = some fd → p.table = laid → StageAt plumbing laid stage p
  | output {fd : Fd} {arguments : List Bytes} :
      p.program = .ask (.duplicate fd Fd.stdout) (fun _ => false) (fun wired =>
        dropping arguments wired plumbing.descriptors) →
      plumbing.outputOf stage = some fd →
      p.table = led (plumbing.inputOf stage) Fd.stdin laid → StageAt plumbing laid stage p
  | dropping {fd : Fd} {left : List Fd} {arguments : List Bytes} {wired : Except Errno Unit} :
      p.program = dropping arguments wired (fd :: left) →
      (wired = .ok () → p.table.without (fd :: left) =
        (wiredTable plumbing stage laid).without plumbing.descriptors) →
      StageAt plumbing laid stage p
  | searching : Asks IsLast p.program →
      p.table = (wiredTable plumbing stage laid).without plumbing.descriptors →
      StageAt plumbing laid stage p
  | parting : Asks IsParting p.program → StageAt plumbing laid stage p

section Way

variable {plumbing : Plumbing} {laid : Table} {stage : Nat} {arguments : List Bytes}

theorem StageAt.congr (h : StageAt plumbing laid stage p) (hprogram : q.program = p.program)
    (htable : q.table = p.table) : StageAt plumbing laid stage q := by
  cases h with
  | input hinput hfd hlaid => exact .input (hprogram.trans hinput) hfd (htable.trans hlaid)
  | output houtput hfd hled => exact .output (hprogram.trans houtput) hfd (htable.trans hled)
  | dropping hdropping hwithout =>
      exact .dropping (hprogram.trans hdropping) fun hok => htable ▸ hwithout hok
  | searching hasks hwithout => exact .searching (hprogram ▸ hasks) (htable.trans hwithout)
  | parting hasks => exact .parting (hprogram ▸ hasks)

theorem stageAt_dropping {left : List Fd} {wired : Except Errno Unit}
    (hprogram : p.program = dropping arguments wired left)
    (htable : wired = .ok () → p.table.without left =
      (wiredTable plumbing stage laid).without plumbing.descriptors) :
    StageAt plumbing laid stage p := by
  cases left with
  | nil =>
      cases wired with
      | error errno =>
          refine .parting ?_
          rw [hprogram]
          exact asks_parting _ _
      | ok done =>
          refine .searching ?_ ?_
          · rw [hprogram]
            exact asks_searching arguments
          · rw [← htable rfl, Table.without_nil]
  | cons fd left => exact .dropping hprogram htable

variable (hstandard : ∀ fd ∈ plumbing.descriptors, fd ≠ Fd.stdin ∧ fd ≠ Fd.stdout)

include hstandard

theorem stageAt_output
    (hprogram : p.program = ((wire (plumbing.outputOf stage) Fd.stdout).bind fun wired =>
      dropping arguments wired plumbing.descriptors))
    (htable : p.table = led (plumbing.inputOf stage) Fd.stdin laid) :
    StageAt plumbing laid stage p := by
  cases houtput : plumbing.outputOf stage with
  | none =>
      rw [houtput] at hprogram
      refine stageAt_dropping hprogram fun _ => ?_
      unfold wiredTable
      rw [houtput, led_none, htable]
  | some fd =>
      have hne := (hstandard fd (mem_of_outputOf houtput)).2
      rw [houtput] at hprogram
      unfold wire at hprogram
      dsimp only at hprogram
      rw [if_neg hne] at hprogram
      exact .output hprogram houtput htable

/-- A process that begins with the work of a stage. -/
theorem stageAt_runStage (hprogram : p.program = runStage plumbing stage arguments)
    (htable : p.table = laid) : StageAt plumbing laid stage p := by
  rw [runStage_eq_wire] at hprogram
  cases hinput : plumbing.inputOf stage with
  | none =>
      rw [hinput] at hprogram
      refine stageAt_output hstandard hprogram ?_
      rw [hinput, led_none, htable]
  | some fd =>
      have hne := (hstandard fd (mem_of_inputOf hinput)).1
      rw [hinput] at hprogram
      unfold wire at hprogram
      dsimp only at hprogram
      rw [if_neg hne] at hprogram
      exact .input hprogram hinput htable

omit hstandard

theorem pid_duplicate (source target : Fd) : (duplicate p source target).2.pid = p.pid := by
  rcases duplicate_cases source target (p := p) with ⟨errno, hdup⟩ |
    ⟨descriptor, -, ⟨-, hdup⟩ | hdup⟩
  all_goals rw [hdup]

/-- A number that has been replaced stands for what its source stands for. -/
theorem led_of_duplicate {source stream : Fd} {changed : Process Outcome}
    (h : duplicate p source stream = (.ok (), changed)) (hne : source ≠ stream) :
    changed.table = led (some source) stream p.table := by
  rcases duplicate_cases source stream (p := p) with ⟨errno, hdup⟩ |
    ⟨descriptor, hget, ⟨heq, -⟩ | hdup⟩
  · exact absurd (hdup.symm.trans h) (by simp)
  · exact absurd heq hne
  · obtain rfl := (Prod.mk.inj (hdup.symm.trans h)).2
    exact (led_some hget).symm

variable (hp : s.process? pid = some p) (hactive : p.active = true)
  (hstep : step launch s pid = some s')

include hp hactive hstep

/-- A process that has given up the plumbing keeps its table until it becomes a program. -/
theorem last_step (h : Asks IsLast p.program) :
    (successor? launch s pid).isSome = true ∨
      ∀ q ∈ s'.processes, q.pid = pid → q.ending = none →
        Asks IsLast q.program ∧ q.table = p.table := by
  have hasks : (successor? launch s pid).isSome = true ∨
      ∀ q ∈ s'.processes, q.pid = pid → q.ending = none → Asks IsLast q.program := asks_step
    (fun call hcall => by cases call <;> first | exact hcall.elim | exact ⟨rfl, by simp⟩)
    (fun _ _ _ _ => trivial) (fun _ _ _ hcall => hcall.elim) hp hactive h hstep
  refine or_iff_not_imp_left.mpr fun hnot => ?_
  have hgoes := hasks.resolve_left hnot
  refine fun q hq hsame halive => ⟨hgoes q hq hsame halive, ?_⟩
  cases hprogram : p.program with
  | pure value => exact absurd (hstep.symm.trans (step_pure hp hactive hprogram)) (by simp)
  | loop body state next =>
      rw [hprogram] at h
      cases h
  | ask call again next =>
      have hcall : IsLast call := by
        rw [hprogram] at h
        cases h with
        | ask hcall _ => exact hcall
      cases call with
      | bindings =>
          rw [step_answered hp hactive rfl hprogram] at hstep
          cases hstep
          rw [eq_of_own hp hq hsame rfl]
      | exec path arguments bindings =>
          cases hbecome : s.become launch p path arguments bindings with
          | ok changed =>
              refine absurd ?_ hnot
              unfold successor?
              simp [hp, hprogram, hbecome, Except.toOption]
          | error errno =>
              rw [step_exec hp hactive hprogram, hbecome] at hstep
              cases hstep
              rw [eq_of_own hp hq hsame rfl]
      | write fd bytes =>
          rw [step_write hp hactive hprogram, Option.map_eq_some_iff] at hstep
          obtain ⟨⟨reply, after⟩, -, rfl⟩ := hstep
          rw [eq_of_own hp hq hsame rfl]
      | exit code =>
          cases hstep.symm.trans (step_exit hp hactive hprogram)
          rw [eq_of_own hp hq hsame rfl] at halive
          exact absurd halive (by simp [Process.finish])
      | _ => exact hcall.elim

include hstandard

/-- Each step of the process of a stage takes it on its way, until it becomes its program. -/
theorem StageAt.step (h : StageAt plumbing laid stage p) :
    (successor? launch s pid).isSome = true ∨
      ∀ q ∈ s'.processes, q.pid = pid → q.ending = none → StageAt plumbing laid stage q := by
  cases h with
  | @input fd arguments hprogram hinput htable =>
      refine .inr fun q hq hsame _ => ?_
      cases hstep.symm.trans (step_duplicate hp hactive hprogram)
      have hne := (hstandard fd (mem_of_inputOf hinput)).1
      rcases hdup : duplicate p fd Fd.stdin with ⟨errno | done, changed⟩
      · rw [eq_of_own hp hq hsame (pid_duplicate _ _), hdup]
        exact stageAt_dropping rfl fun hok => by cases hok
      · rw [eq_of_own hp hq hsame (pid_duplicate _ _), hdup]
        have hled := led_of_duplicate hdup hne
        refine stageAt_output hstandard rfl ?_
        rw [hinput, ← htable]
        exact hled
  | @output fd arguments hprogram houtput htable =>
      refine .inr fun q hq hsame _ => ?_
      cases hstep.symm.trans (step_duplicate hp hactive hprogram)
      have hne := (hstandard fd (mem_of_outputOf houtput)).2
      rcases hdup : duplicate p fd Fd.stdout with ⟨errno | done, changed⟩
      · rw [eq_of_own hp hq hsame (pid_duplicate _ _), hdup]
        exact stageAt_dropping rfl fun hok => by cases hok
      · rw [eq_of_own hp hq hsame (pid_duplicate _ _), hdup]
        refine stageAt_dropping rfl fun _ => ?_
        unfold wiredTable
        rw [houtput, ← htable, ← led_of_duplicate hdup hne]
  | @dropping fd left arguments wired hprogram htable =>
      refine .inr fun q hq hsame _ => ?_
      cases hstep.symm.trans (step_closeAll hp hactive hprogram)
      rw [eq_of_own hp hq hsame rfl]
      refine stageAt_dropping rfl fun hok => ?_
      exact Table.without_erase.trans (htable hok)
  | searching hasks htable =>
      refine (last_step hp hactive hstep hasks).imp_right fun hgoes q hq hsame halive => ?_
      obtain ⟨hlater, hkept⟩ := hgoes q hq hsame halive
      exact .searching hlater (hkept.trans htable)
  | parting hasks =>
      have hparts : (successor? launch s pid).isSome = true ∨
          ∀ q ∈ s'.processes, q.pid = pid → q.ending = none → Asks IsParting q.program := asks_step
        (fun call hcall => by cases call <;> first | exact hcall.elim | exact ⟨rfl, by simp⟩)
        (fun _ _ _ _ => trivial) (fun _ _ _ hcall => hcall.elim) hp hactive hasks hstep
      exact hparts.imp_right fun hgoes q hq hsame halive => .parting (hgoes q hq hsame halive)

end Way

/-! ## The shell and its stages -/

/-- A shell that forks has laid the plumbing, and goes on to the next stage. -/
theorem of_fork {before laid : Table} {limit : Nat} {goal : Option Bytes}
    {programs : List (List Bytes)} {command : String} {fair idle : Prop} {ledger : Ledger}
    {plumbing : Plumbing}
    (h : ShellAt before limit goal programs command fair idle ledger plumbing laid p)
    (hfork : p.program.request? = some .fork) :
    ∃ arguments left children,
      p.program = forking command .pure plumbing ledger.children.length (arguments :: left)
        children ∧
      Fitted before limit goal ledger plumbing p.table ∧ p.table = laid ∧
      plumbing.pipes.length = programs.length - 1 ∧
      ledger.children.length + (left.length + 1) = programs.length := by
  cases h with
  | opening _ _ hprogram => rw [hprogram] at hfork; cases hfork
  | laying hprogram => rw [hprogram, laying_succ] at hfork; cases hfork
  | abandoning hprogram => rw [hprogram] at hfork; cases hfork
  | flushing hprogram => rw [hprogram] at hfork; cases hfork
  | @forking stage arguments left children hprogram hfitted hlaid hcount hchildren hleft =>
      subst hchildren
      exact ⟨arguments, left, children, hprogram, hfitted, hlaid, hcount, hleft⟩
  | releasing hprogram => rw [hprogram] at hfork; cases hfork
  | waiting hprogram => rw [hprogram, waiting_cons] at hfork; cases hfork
  | finished hprogram => rw [hprogram] at hfork; cases hfork

/-- The shell is on its way, and so is every stage that it has forked and that has not become its
program. -/
structure Staged (before : Table) (limit : Nat) (goal : Option Bytes)
    (programs : List (List Bytes)) (command : String) (shell : Pid) (ledger : Ledger)
    (became : List Pid) (s : System Outcome) (plumbing : Plumbing) (laid : Table) : Prop where
  onShell : ∀ {q}, s.process? shell = some q → q.ending = none → q.limit = limit ∧
    ShellAt before limit goal programs command False False ledger plumbing laid q
  fitted : ledger.children ≠ [] →
    Fitted before limit goal { ledger with closed := [] } plumbing laid ∧
      plumbing.pipes.length = programs.length - 1
  few : ledger.children.length ≤ programs.length
  known : ∀ child ∈ ledger.children, child ≠ shell ∧ child < s.nextPid
  onStage : ∀ {stage child q}, ledger.children[stage]? = some child → child ∉ became →
    s.process? child = some q → q.ending = none → StageAt plumbing laid stage q

section Invariant

variable {before laid : Table} {limit : Nat} {goal : Option Bytes} {programs : List (List Bytes)}
  {command : String} {ledger : Ledger} {became : List Pid} {plumbing : Plumbing} {stage : Nat}
  {child : Pid}

/-- Numbers that stand for something before are none of the plumbing's. -/
theorem stderr_lt_of_fitted (hstandard : ∀ fd, fd ≤ Fd.stderr → before.get? fd ≠ none)
    (h : Fitted before limit goal ledger plumbing laid) :
    ∀ fd ∈ plumbing.descriptors, Fd.stderr < fd := by
  intro fd hfd
  by_contra hle
  exact hstandard fd (Nat.le_of_not_lt hle) (h.fresh hfd)

theorem apart_of_fitted (hstandard : ∀ fd, fd ≤ Fd.stderr → before.get? fd ≠ none)
    (h : Fitted before limit goal ledger plumbing laid) :
    ∀ fd ∈ plumbing.descriptors, fd ≠ Fd.stdin ∧ fd ≠ Fd.stdout := by
  intro fd hfd
  have hlt := stderr_lt_of_fitted hstandard h fd hfd
  have hinput : Fd.stdin < Fd.stderr := by decide
  have houtput : Fd.stdout < Fd.stderr := by decide
  exact ⟨Nat.ne_of_gt (Nat.lt_trans hinput hlt), Nat.ne_of_gt (Nat.lt_trans houtput hlt)⟩

theorem Staged.undisturbed (h : Staged before limit goal programs command shell ledger became s
    plumbing laid) (hget : ledger.children[stage]? = some child) (hnot : child ∉ became)
    {old q : Process Outcome} (hold : s.process? child = some old)
    (hundisturbed : Undisturbed old q) (halive : q.ending = none) :
    StageAt plumbing laid stage q := by
  obtain ⟨hlive, htable, -⟩ := hundisturbed.underway halive
  exact (h.onStage hget hnot hold hlive).congr hundisturbed.program htable

theorem Staged.shell_undisturbed (h : Staged before limit goal programs command shell ledger became
    s plumbing laid) {old q : Process Outcome} (hold : s.process? shell = some old)
    (hundisturbed : Undisturbed old q) (halive : q.ending = none) : q.limit = limit ∧
      ShellAt before limit goal programs command False False ledger plumbing laid q := by
  obtain ⟨hlive, htable, -⟩ := hundisturbed.underway halive
  obtain ⟨hlimit, hat⟩ := h.onShell hold hlive
  exact ⟨hundisturbed.limit.trans hlimit, hat.congr hundisturbed.program htable⟩

/-- A signal from outside keeps the invariant. -/
theorem Staged.signal (h : Staged before limit goal programs command shell ledger became s plumbing
    laid) (horderly : s.Orderly) (target : Pid) (number : Signal) :
    Staged before limit goal programs command shell ledger became (s.signal target number).2
      plumbing laid := by
  obtain ⟨hnext, -, -, -⟩ := signal_effect s target number
  refine ⟨fun hq halive => ?_, h.fitted, h.few, hnext ▸ h.known, fun hget hnot hq halive => ?_⟩
  · obtain ⟨old, hold, hundisturbed⟩ := horderly.undisturbed_signal hq
    exact h.shell_undisturbed hold hundisturbed halive
  · obtain ⟨old, hold, hundisturbed⟩ := horderly.undisturbed_signal hq
    exact h.undisturbed hget hnot hold hundisturbed halive

/-- A step of another process than the shell keeps the invariant. -/
theorem Staged.other (h : Staged before limit goal programs command shell ledger became s plumbing
    laid) (hstandard : ∀ fd, fd ≤ Fd.stderr → before.get? fd ≠ none) (horderly : s.Orderly)
    (hbelow : shell < s.nextPid) (hne : pid ≠ shell) (hstep : step launch s pid = some s') :
    Staged before limit goal programs command shell ledger
      (if (successor? launch s pid).isSome then pid :: became else became) s' plumbing laid := by
  have hnext := (step_keeps horderly.distinct horderly.numbered hstep).next
  have hnot : ∀ {child},
      child ∉ (if (successor? launch s pid).isSome then pid :: became else became) →
        child ∉ became := by
    intro child hnot hin
    split at hnot
    · exact hnot (List.mem_cons_of_mem _ hin)
    · exact hnot hin
  refine ⟨fun hq halive => ?_, h.fitted, h.few, fun child hchild => ?_,
    fun {stage child q} hget hgrown hq halive => ?_⟩
  · obtain ⟨old, hold, hundisturbed⟩ := horderly.undisturbed_step hstep hne.symm hbelow hq
    exact h.shell_undisturbed hold hundisturbed halive
  · exact ⟨(h.known child hchild).1, Nat.lt_of_lt_of_le (h.known child hchild).2 hnext⟩
  · have hin := List.mem_of_getElem? hget
    by_cases hself : child = pid
    · -- the stage moves itself, and does not become its program
      obtain ⟨p, hp, hactive⟩ := process?_of_step hstep
      obtain ⟨hmem, hpid⟩ := mem_of_process? hq
      subst hself
      have hat := h.onStage hget (hnot hgrown) hp (ending_of_active hactive)
      have hfitted := (h.fitted (List.ne_nil_of_mem hin)).1
      have hapart := apart_of_fitted hstandard hfitted
      rcases hat.step hapart hp hactive hstep with hbecomes | hgoes
      · rw [if_pos hbecomes] at hgrown
        exact absurd List.mem_cons_self hgrown
      · exact hgoes q hmem hpid halive
    · obtain ⟨old, hold, hundisturbed⟩ :=
        horderly.undisturbed_step hstep hself (h.known child hin).2 hq
      exact h.undisturbed hget (hnot hgrown) hold hundisturbed halive

/-- The next stage is a copy of the shell, with the work of the stage to do. -/
theorem child_of_fork (hnumbered : ∀ p ∈ s.processes, p.pid < s.nextPid) {arguments : List Bytes}
    {left : List (List Bytes)} {children : List Pid} (hp : s.process? shell = some p)
    (hactive : p.active = true)
    (hprogram : p.program = forking command .pure plumbing stage (arguments :: left) children)
    (hstep : step launch s shell = some s') :
    s'.nextPid = s.nextPid + 1 ∧ ∀ q ∈ s'.processes, q.pid = s.nextPid →
      q.program = runStage plumbing stage arguments ∧ q.table = p.table := by
  rw [forking_cons] at hprogram
  have hafter := Option.some.inj (hstep.symm.trans (step_fork hp hactive hprogram))
  rw [hafter]
  refine ⟨rfl, fun q hq hpid => ?_⟩
  rcases List.mem_append.mp hq with hq | hq
  · -- the others have earlier numbers
    have hlt : q.pid < s.nextPid := by
      rcases mem_setProcess.mp hq with ⟨rfl, -⟩ | ⟨hq, -⟩
      · exact hnumbered p (mem_of_process? hp).1
      · exact hnumbered q hq
    exact absurd hpid (Nat.ne_of_lt hlt)
  · obtain rfl := List.mem_singleton.mp hq
    exact ⟨rfl, rfl⟩

/-- A step of the shell leaves the stages that are there where they are. -/
theorem Staged.stages_kept (h : Staged before limit goal programs command shell ledger became s
    plumbing laid) (horderly : s.Orderly) (hstep : step launch s shell = some s') :
    (∀ child ∈ ledger.children, child ≠ shell ∧ child < s'.nextPid) ∧
      ∀ {stage child r}, ledger.children[stage]? = some child → child ∉ became →
        s'.process? child = some r → r.ending = none → StageAt plumbing laid stage r := by
  have hnext := (step_keeps horderly.distinct horderly.numbered hstep).next
  refine ⟨fun child hin => ⟨(h.known child hin).1,
    Nat.lt_of_lt_of_le (h.known child hin).2 hnext⟩, fun hget hnot hr halive => ?_⟩
  obtain ⟨hne, hlt⟩ := h.known _ (List.mem_of_getElem? hget)
  obtain ⟨old, hin, hundisturbed⟩ := horderly.undisturbed_step hstep hne hlt hr
  exact h.undisturbed hget hnot hin hundisturbed halive

/-- A step of the shell keeps the invariant. -/
theorem Staged.own (h : Staged before limit goal programs command shell ledger became s plumbing
    laid) (hordered : before.Ordered) (hstandard : ∀ fd, fd ≤ Fd.stderr → before.get? fd ≠ none)
    (horderly : s.Orderly) (hp : s.process? shell = some p) (hstep : step launch s shell = some s')
    (hq : s'.process? shell = some q) :
    ∃ plumbing' laid', Staged before limit goal programs command shell (ledger.note s s' p q) became
      s' plumbing' laid' := by
  obtain ⟨p', hfound, hactive⟩ := process?_of_step hstep
  cases hp.symm.trans hfound
  obtain ⟨hlimit, hat⟩ := h.onShell hp (ending_of_active hactive)
  obtain ⟨hlimit', -, hchildren, plumbing', laid', hat', hsettled⟩ :=
    hat.step hordered hp hactive hlimit False.elim hstep hq horderly.numbered False.elim
  have hshell : ∀ {r}, s'.process? shell = some r → r.ending = none → r.limit = limit ∧
      ShellAt before limit goal programs command False False (ledger.note s s' p q) plumbing' laid'
        r := by
    intro r hr _
    cases hq.symm.trans hr
    exact ⟨hlimit', hat'⟩
  obtain ⟨hknown, hold⟩ := h.stages_kept horderly hstep
  by_cases hfork : p.program.request? = some .fork
  · -- the plumbing is settled when the first stage is started
    obtain ⟨rfl, rfl, htaken, hpipes, hopened⟩ := hsettled (.inr hfork)
    obtain ⟨arguments, left, children, hprogram, hfitted, hlaid, hcount, hleft⟩ := of_fork hat hfork
    obtain ⟨hgrown, hchild⟩ := child_of_fork horderly.numbered hp hactive hprogram hstep
    have hnote : (ledger.note s s' p q).children = _ := Ledger.note_children hgrown
    refine ⟨plumbing', laid', hshell, fun _ => ⟨?_, hcount⟩, ?_, fun child hin => ?_,
      fun {stage child r} hget hnot hr halive => ?_⟩
    · rw [← hlaid]
      exact hfitted.congr htaken hfitted.closed.symm hpipes hopened
    · rw [hnote, List.length_append, List.length_singleton]
      omega
    · rw [hnote] at hin
      rcases List.mem_append.mp hin with hin | hin
      · exact hknown child hin
      · obtain rfl := List.mem_singleton.mp hin
        obtain ⟨hmem, hpid⟩ := mem_of_process? hp
        exact ⟨Nat.ne_of_gt (hpid ▸ horderly.numbered p hmem), hgrown ▸ Nat.lt_succ_self _⟩
    · rw [hnote] at hget
      rcases getElem?_concat_cases hget with hget | ⟨rfl, rfl⟩
      · exact hold hget hnot hr halive
      · -- the new stage has the last place
        obtain ⟨hmem, hpid⟩ := mem_of_process? hr
        obtain ⟨hruns, htable⟩ := hchild r hmem hpid
        exact stageAt_runStage (apart_of_fitted hstandard hfitted) hruns (htable.trans hlaid)
  · have hnote := hchildren hfork
    by_cases hnone : ledger.children = []
    · refine ⟨plumbing', laid', hshell, fun hsome => absurd (hnote.trans hnone) hsome, ?_, ?_, ?_⟩
      · rw [hnote]
        exact h.few
      · rw [hnote]
        exact hknown
      · intro stage child r hget
        rw [hnote, hnone] at hget
        exact absurd hget (by simp)
    · obtain ⟨rfl, rfl, htaken, hpipes, hopened⟩ := hsettled (.inl hnone)
      obtain ⟨hfitted, hcount⟩ := h.fitted hnone
      refine ⟨plumbing', laid', hshell, fun _ => ⟨?_, hcount⟩, ?_, ?_, ?_⟩
      · exact hfitted.congr htaken rfl hpipes hopened
      · rw [hnote]
        exact h.few
      · rw [hnote]
        exact hknown
      · rw [hnote]
        exact hold

/-- The invariant holds all the way. -/
theorem staged_of_course {start : System Outcome} {first : Process Outcome}
    (hstart : start.Orderly) (hordered : before.Ordered)
    (hstandard : ∀ fd, fd ≤ Fd.stderr → before.get? fd ≠ none)
    (hfirst : start.process? shell = some first) (hlimit : first.limit = limit)
    (hat : ShellAt before limit goal programs command False False {} plumbing laid first)
    (hcourse : Course launch shell start ledger became s) :
    ∃ plumbing' laid', Staged before limit goal programs command shell ledger became s plumbing'
      laid' := by
  obtain ⟨hmember, hpid⟩ := mem_of_process? hfirst
  have hbelow : shell < start.nextPid := hpid ▸ hstart.numbered first hmember
  induction hcourse with
  | start =>
      refine ⟨plumbing, laid, fun hq _ => ?_, fun hsome => absurd rfl hsome, Nat.zero_le _,
        fun child hin => absurd hin List.not_mem_nil, fun hget => absurd hget (by simp)⟩
      cases hfirst.symm.trans hq
      exact ⟨hlimit, hat⟩
  | tick time _ ih =>
      obtain ⟨plumbing', laid', h⟩ := ih
      exact ⟨plumbing', laid', h.onShell, h.fitted, h.few, h.known, h.onStage⟩
  | signal target number hcourse ih =>
      obtain ⟨plumbing', laid', h⟩ := ih
      exact ⟨plumbing', laid', h.signal (hcourse.orderly hstart) target number⟩
  | other hcourse hne hstep ih =>
      obtain ⟨plumbing', laid', h⟩ := ih
      exact ⟨plumbing', laid', h.other hstandard (hcourse.orderly hstart)
        (Nat.lt_of_lt_of_le hbelow (hcourse.grows hstart).1) hne hstep⟩
  | own hcourse hp hstep hq ih =>
      obtain ⟨plumbing', laid', h⟩ := ih
      exact h.own hordered hstandard (hcourse.orderly hstart) hp hstep hq

end Invariant

/-! ## What stands under the numbers of a stage -/

/-- The table of a stage of so many, whose shell had the table `before`: the first stage reads what
the shell reads, and every other one the pipe from the stage before it; the last stage writes to the
target, or where the shell writes, and every other one to the pipe to the next stage. A stream that
has been replaced stays open for the program. All else is as the shell had it, and nothing that the
shell has taken for the pipeline is left, no end of a pipe in particular. -/
structure Wired (before : Table) (pipeline : Pipeline) (ledger : Ledger) (stage : Nat)
    (table : Table) : Prop where
  first : stage = 0 → table.get? Fd.stdin = before.get? Fd.stdin
  input : ∀ earlier, stage = earlier + 1 → ∃ pipe handle, ledger.pipes[earlier]? = some pipe ∧
    handle.endpoint = .pipeReader pipe ∧ handle.access.read = true ∧
    table.get? Fd.stdin = some ⟨handle, false⟩
  output : stage + 1 < pipeline.stages.length → ∃ pipe handle, ledger.pipes[stage]? = some pipe ∧
    handle.endpoint = .pipeWriter pipe ∧ handle.access.write = true ∧
    table.get? Fd.stdout = some ⟨handle, false⟩
  target : stage + 1 = pipeline.stages.length → ∀ target, pipeline.target = some target →
    ∃ path handle, cleanBytes target.path = .ok path ∧ ledger.opened = [(path, handle)] ∧
      table.get? Fd.stdout = some ⟨handle, false⟩
  last : stage + 1 = pipeline.stages.length → pipeline.target = none →
    table.get? Fd.stdout = before.get? Fd.stdout
  others : ∀ fd, fd ≠ Fd.stdin → fd ≠ Fd.stdout → table.get? fd = before.get? fd
  dropped : ∀ fd ∈ ledger.taken.map Prod.fst, Fd.stderr < fd ∧ table.get? fd = none
  ends : ∀ fd descriptor, fd ≠ Fd.stdin → fd ≠ Fd.stdout → table.get? fd = some descriptor →
    ∀ pipe ∈ ledger.pipes, descriptor.handle.endpoint ≠ .pipeReader pipe ∧
      descriptor.handle.endpoint ≠ .pipeWriter pipe

section Final

variable {before laid : Table} {limit : Nat} {goal : Option Bytes} {programs : List (List Bytes)}
  {pipeline : Pipeline} {ledger : Ledger} {plumbing : Plumbing} {stage : Nat}

theorem exists_of_inputOf (h : Fitted before limit goal ledger plumbing laid) {earlier : Nat}
    (hlt : earlier < plumbing.pipes.length) : ∃ fd pipe descriptor,
      plumbing.inputOf (earlier + 1) = some fd ∧ ledger.pipes[earlier]? = some pipe ∧
      laid.get? fd = some descriptor ∧ descriptor.handle.endpoint = .pipeReader pipe ∧
      descriptor.handle.access.read = true := by
  have hends := List.getElem?_eq_getElem hlt
  obtain ⟨pipe, hpipe, ⟨descriptor, hget, hend, hread⟩, -⟩ := exists_of_getElem? h.pipes hends
  refine ⟨_, pipe, descriptor, ?_, hpipe, hget, hend, hread⟩
  show plumbing.pipes[earlier]?.map _ = _
  rw [hends, Option.map_some]

theorem exists_of_outputOf (h : Fitted before limit goal ledger plumbing laid)
    (hlt : stage < plumbing.pipes.length) : ∃ fd pipe descriptor,
      plumbing.outputOf stage = some fd ∧ ledger.pipes[stage]? = some pipe ∧
      laid.get? fd = some descriptor ∧ descriptor.handle.endpoint = .pipeWriter pipe ∧
      descriptor.handle.access.write = true := by
  have hends := List.getElem?_eq_getElem hlt
  obtain ⟨pipe, hpipe, -, descriptor, hget, hend, hwrite⟩ := exists_of_getElem? h.pipes hends
  refine ⟨_, pipe, descriptor, ?_, hpipe, hget, hend, hwrite⟩
  unfold Plumbing.outputOf
  rw [hends]

theorem outputOf_last (hge : plumbing.pipes.length ≤ stage) :
    plumbing.outputOf stage = plumbing.target := by
  unfold Plumbing.outputOf
  rw [List.getElem?_eq_none hge]

section Streams

variable (hstdin : Fd.stdin ∉ plumbing.descriptors) (hstdout : Fd.stdout ∉ plumbing.descriptors)

include hstdin in
theorem get?_wired_stdin :
    ((wiredTable plumbing stage laid).without plumbing.descriptors).get? Fd.stdin =
      (led (plumbing.inputOf stage) Fd.stdin laid).get? Fd.stdin := by
  rw [Table.get?_without, if_neg hstdin]
  exact get?_led_of_ne (by decide)

include hstdout

/-- What the output is led to has not been overwritten by the input. -/
theorem get?_wired_stdout {fd : Fd} {descriptor : Descriptor}
    (houtput : plumbing.outputOf stage = some fd) (hne : fd ≠ Fd.stdin)
    (hget : laid.get? fd = some descriptor) :
    ((wiredTable plumbing stage laid).without plumbing.descriptors).get? Fd.stdout =
      some ⟨descriptor.handle, false⟩ := by
  rw [Table.get?_without, if_neg hstdout]
  unfold wiredTable
  rw [houtput]
  refine get?_led_self ?_
  rw [get?_led_of_ne hne, hget]

theorem get?_wired_stdout_of_none (houtput : plumbing.outputOf stage = none) :
    ((wiredTable plumbing stage laid).without plumbing.descriptors).get? Fd.stdout =
      laid.get? Fd.stdout := by
  rw [Table.get?_without, if_neg hstdout]
  unfold wiredTable
  rw [houtput, led_none, get?_led_of_ne (by decide)]

end Streams

/-- What stands under the other numbers is what the shell had there. -/
theorem get?_wired_of_ne (h : Fitted before limit goal ledger plumbing laid) {fd : Fd}
    (hinput : fd ≠ Fd.stdin) (houtput : fd ≠ Fd.stdout) :
    ((wiredTable plumbing stage laid).without plumbing.descriptors).get? fd = before.get? fd := by
  rw [Table.get?_without]
  split
  · rename_i hin
    exact (h.fresh hin).symm
  · rename_i hnot
    unfold wiredTable
    rw [get?_led_of_ne houtput, get?_led_of_ne hinput, h.kept hnot]

/-- When both streams have been replaced and the rest has been given up, everything is in place. -/
theorem wired_of_fitted (hstandard : ∀ fd, fd ≤ Fd.stderr → before.get? fd ≠ none)
    (h : Fitted before limit goal ledger plumbing laid) (hmeans : Means pipeline goal programs)
    (hcount : plumbing.pipes.length = programs.length - 1)
    (hstage : stage < pipeline.stages.length)
    (hfresh : ∀ fd descriptor, before.get? fd = some descriptor → ∀ pipe ∈ ledger.pipes,
      descriptor.handle.endpoint ≠ .pipeReader pipe ∧
        descriptor.handle.endpoint ≠ .pipeWriter pipe) :
    Wired before pipeline ledger stage
      ((wiredTable plumbing stage laid).without plumbing.descriptors) := by
  have hapart := apart_of_fitted hstandard h
  have hstages := hmeans.stages
  have hstdin : Fd.stdin ∉ plumbing.descriptors := fun hin => (hapart _ hin).1 rfl
  have hstdout : Fd.stdout ∉ plumbing.descriptors := fun hin => (hapart _ hin).2 rfl
  have hsource : ∀ {fd}, plumbing.outputOf stage = some fd → fd ≠ Fd.stdin :=
    fun houtput => (hapart _ (mem_of_outputOf houtput)).1
  refine ⟨?_, ?_, ?_, ?_, ?_, fun fd => get?_wired_of_ne h, ?_, ?_⟩
  · rintro rfl
    rw [get?_wired_stdin hstdin]
    exact h.kept hstdin
  · rintro earlier rfl
    obtain ⟨fd, pipe, descriptor, hinput, hpipe, hget, hend, hread⟩ :=
      exists_of_inputOf h (by omega : earlier < plumbing.pipes.length)
    refine ⟨pipe, descriptor.handle, hpipe, hend, hread, ?_⟩
    rw [get?_wired_stdin hstdin, hinput]
    exact get?_led_self hget
  · intro hlt
    obtain ⟨fd, pipe, descriptor, houtput, hpipe, hget, hend, hwrite⟩ :=
      exists_of_outputOf h (by omega : stage < plumbing.pipes.length)
    exact ⟨pipe, descriptor.handle, hpipe, hend, hwrite,
      get?_wired_stdout hstdout houtput (hsource houtput) hget⟩
  · -- behind the last pipe the output is led to the target
    intro hlast target htarget
    obtain ⟨path, hpath, hgoal⟩ := hmeans.target target htarget
    have hsome := h.target
    rw [hgoal, Option.isSome_some] at hsome
    obtain ⟨fd, hfd⟩ := Option.isSome_iff_exists.mp hsome
    obtain ⟨path', descriptor, hsame, hget, hopened⟩ := h.opened fd hfd
    obtain rfl := Option.some.inj (hgoal.symm.trans hsame)
    have houtput := (outputOf_last (by omega : plumbing.pipes.length ≤ stage)).trans hfd
    exact ⟨path, descriptor.handle, hpath, hopened,
      get?_wired_stdout hstdout houtput (hsource houtput) hget⟩
  · intro hlast htarget
    have hnone := h.target
    rw [hmeans.bare htarget, Option.isSome_none, Option.isSome_eq_false_iff,
      Option.isNone_iff_eq_none] at hnone
    have houtput := (outputOf_last (by omega : plumbing.pipes.length ≤ stage)).trans hnone
    rw [get?_wired_stdout_of_none hstdout houtput]
    exact h.kept hstdout
  · intro fd hfd
    have hin := h.taken.mem_iff.mp hfd
    refine ⟨stderr_lt_of_fitted hstandard h fd hin, ?_⟩
    rw [Table.get?_without, if_pos hin]
  · intro fd descriptor hinput houtput hget
    rw [get?_wired_of_ne h hinput houtput] at hget
    exact hfresh fd descriptor hget

/-- A process of a stage that asks to become its program has replaced its streams. -/
theorem StageAt.of_exec {path : Bytes} {arguments : List Bytes} {bindings : Variables}
    (h : StageAt plumbing laid stage p)
    (hexec : p.program.request? = some (.exec path arguments bindings)) :
    p.table = (wiredTable plumbing stage laid).without plumbing.descriptors := by
  cases h with
  | input hprogram => rw [hprogram] at hexec; cases hexec
  | output hprogram => rw [hprogram] at hexec; cases hexec
  | dropping hprogram => rw [hprogram] at hexec; cases hexec
  | searching _ htable => exact htable
  | parting hasks => exact (hasks.of_request? hexec).elim

end Final

section Whole

variable {start : System Outcome} {first : Process Outcome} {pipeline : Pipeline} {command : String}
  {ledger : Ledger} {became : List Pid} {stage : Nat} {child : Pid}

/-- **Streams of a stage.** A sound machine has a shell with its three standard numbers open that is
about to run a pipeline. Whatever others do meanwhile: when the process that the shell has forked
for a stage asks to become its program, for the first time, everything stands where it should, and
the shell has made one pipe less than there are stages. -/
theorem wired_at_exec (hstart : start.Sound) (hfirst : start.process? shell = some first)
    (hprogram : first.program = execute pipeline command)
    (hstandard : ∀ fd, fd ≤ Fd.stderr → first.table.get? fd ≠ none)
    (hcourse : Course launch shell start ledger became s)
    (hchild : ledger.children[stage]? = some child) (hnot : child ∉ became)
    (hq : s.process? child = some q) (halive : q.ending = none) {path : Bytes}
    {arguments : List Bytes} {bindings : Variables}
    (hexec : q.program.request? = some (.exec path arguments bindings)) :
    stage < pipeline.stages.length ∧ ledger.pipes.length = pipeline.stages.length - 1 ∧
      Wired first.table pipeline ledger stage q.table := by
  obtain ⟨hmember, -⟩ := mem_of_process? hfirst
  have hordered := hstart.ordered first hmember
  obtain ⟨goal, programs, hmeans, hat⟩ :=
    shellAt_execute first.limit False False hprogram rfl hordered False.elim
  obtain ⟨plumbing, laid, h⟩ :=
    staged_of_course hstart.orderly hordered hstandard hfirst rfl hat hcourse
  have hplace : stage < ledger.children.length := (List.getElem?_eq_some_iff.mp hchild).1
  obtain ⟨hfitted, hcount⟩ := h.fitted (List.ne_nil_of_mem (List.mem_of_getElem? hchild))
  -- there are no stages to be forked where the words hold a NUL
  have hmeans : Means pipeline goal programs := by
    refine hmeans.resolve_right fun hover => ?_
    have hfew := h.few
    rw [hover.2.2] at hfew
    exact absurd hplace (Nat.not_lt_of_le (Nat.le_trans hfew (Nat.zero_le _)))
  have hstages := hmeans.stages
  have hfew := h.few
  have hpipes := hfitted.pipes.length_eq
  have hstage : stage < pipeline.stages.length := by omega
  refine ⟨hstage, hpipes.trans (hcount.trans (congrArg (· - 1) hstages)), ?_⟩
  rw [(h.onStage hchild hnot hq halive).of_exec hexec]
  have hfresh : ∀ fd descriptor, first.table.get? fd = some descriptor → ∀ pipe ∈ ledger.pipes,
      descriptor.handle.endpoint ≠ .pipeReader pipe ∧
        descriptor.handle.endpoint ≠ .pipeWriter pipe := by
    intro fd descriptor hget pipe hpipe
    have hnew := hcourse.pipes_ge hstart.orderly pipe hpipe
    have hold := hstart.pipes first hmember _ (Table.mem_of_get? hget) pipe
    exact ⟨fun hend => Nat.not_lt_of_le hnew (hold (.inl hend)),
      fun hend => Nat.not_lt_of_le hnew (hold (.inr hend))⟩
  have hwired := wired_of_fitted hstandard hfitted hmeans hcount hstage hfresh
  exact ⟨hwired.first, hwired.input, hwired.output, hwired.target, hwired.last, hwired.others,
    hwired.dropped, hwired.ends⟩

end Whole

/-- When the first of two stages asks to become its program it writes to the pipe. -/
theorem pair_wired : ∃ ledger : Ledger, ledger.children = [2] ∧ ledger.pipes = [0] ∧
    ∃ q, (Ownership.pairAfter [1, 1, 1, 2, 2, 2, 2]).process? 2 = some q ∧
      ∃ handle, handle.endpoint = .pipeWriter 0 ∧
        q.table.get? Fd.stdout = some ⟨handle, false⟩ := by
  have hsound : Ownership.pairMachine.Sound :=
    .of_terminal rfl (by decide) (by unfold Table.Ordered; decide) rfl (by decide)
  have hstandard : ∀ fd, fd ≤ Fd.stderr → Ownership.pairShell.table.get? fd ≠ none := by decide
  obtain ⟨ledger, hforked, hchildren, hpipes⟩ : ∃ ledger : Ledger,
      Course (fun _ _ => none) 1 Ownership.pairMachine ledger [] (Ownership.pairAfter [1, 1, 1]) ∧
        ledger.children = [2] ∧ ledger.pipes = [0] :=
    ⟨_, .own (.own (.own .start rfl rfl rfl) rfl rfl rfl) rfl rfl rfl, rfl, rfl⟩
  have hmoves : ∀ {s s' : System Outcome},
      Course (fun _ _ => none) 1 Ownership.pairMachine ledger [] s →
      (successor? (fun _ _ => none) s 2).isSome = false → step (fun _ _ => none) s 2 = some s' →
      Course (fun _ _ => none) 1 Ownership.pairMachine ledger [] s' := by
    intro s s' hcourse hnone hstep
    have hnext := hcourse.other (by decide : (2 : Pid) ≠ 1) hstep
    rwa [hnone, if_neg Bool.false_ne_true] at hnext
  -- the stage replaces its output, gives up both ends and looks for its program
  have hlooks : Course (fun _ _ => none) 1 Ownership.pairMachine ledger []
      (Ownership.pairAfter [1, 1, 1, 2, 2, 2, 2]) :=
    hmoves (hmoves (hmoves (hmoves hforked rfl rfl) rfl rfl) rfl rfl) rfl rfl
  have hplace : ledger.children[0]? = some 2 := by rw [hchildren]; rfl
  have hfirst : Ownership.pairMachine.process? 1 = some Ownership.pairShell := rfl
  have hprogram : Ownership.pairShell.program = execute Ownership.pair "yes | head" := rfl
  obtain ⟨-, -, hwired⟩ := wired_at_exec hsound hfirst hprogram hstandard hlooks hplace
    List.not_mem_nil rfl rfl rfl
  obtain ⟨pipe, handle, hpipe, hend, -, hget⟩ := hwired.output (by decide)
  rw [hpipes] at hpipe
  obtain rfl : 0 = pipe := Option.some.inj hpipe
  exact ⟨ledger, hchildren, hpipes, _, rfl, handle, hend, hget⟩

end LineShell.Wiring
