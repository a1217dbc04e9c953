import LineShell.Proofs.Pipeline.Stages

/-!
# A line of filters under way

What holds in every state from when the shell makes the first pipe until it has waited for the last
stage.

* **`ShellIs`** — where the shell is on its way, and what is in its table there;
* **`Placed`** — a stage that has been started is on its way, or has written everything and ended;
* **`Flow`** — the invariant: the shell, the stages, and what has flowed;
* **`Flow.stage_step`, `Flow.shell_step`** — every step keeps it, unless a stage or the shell
  leaves the way, or the shell has waited for the last stage (`Arrived`).
-/

namespace LineShell.Dataflow

open LineShell.System LineShell.Course Prog

variable {launch : Launcher} {scene : Scene} {dest handle : Handle} {plumbing later : Plumbing}
  {stage : Nat} {progress : Progress} {tally : Tally} {became grown : List Pid}
  {log more : List Delivery} {s s' after : System Answer} {pid : Pid} {p q answered : Process Answer}
  {left : List Fd} {table : Table}

/-! ## The shell -/

/-- Everything in a table was there before, or is left to be given up, and what was there before
stands where it stood. -/
structure Restored (before : Table) (left : List Fd) (table : Table) : Prop where
  entries : ∀ entry ∈ table, entry ∈ before ∨ entry.1 ∈ left
  kept : ∀ fd descriptor, before.get? fd = some descriptor → table.get? fd = some descriptor
  fresh : ∀ fd ∈ left, before.get? fd = none

theorem restored_of_laid (h : LaidOut scene dest plumbing table) :
    Restored scene.before plumbing.descriptors table :=
  ⟨h.entries, h.kept, h.fresh⟩

theorem Restored.erase {before : Table} {fd : Fd} (h : Restored before (fd :: left) table) :
    Restored before left (table.erase fd) := by
  refine ⟨fun entry hentry => ?_, fun other descriptor hget => ?_,
    fun other hother => h.fresh other (List.mem_cons_of_mem _ hother)⟩
  · obtain ⟨hentry, hne⟩ := Table.mem_erase.mp hentry
    exact (h.entries entry hentry).imp_right fun hin => (List.mem_cons.mp hin).resolve_left hne
  · rw [Table.get?_erase, if_neg, h.kept other descriptor hget]
    rintro rfl
    exact absurd (hget.symm.trans (h.fresh _ List.mem_cons_self)) (by simp)

/-- Where the shell is on its way through the line, and what is in its table there. -/
inductive ShellIs (scene : Scene) (dest : Handle) (plumbing : Plumbing) (s : System Answer)
    (p : Process Answer) : Prop
  | laying {count : Nat} : p.program = laying scene.text (finishing scene.environment)
        scene.programs (count + 1) plumbing →
      LaidOut scene dest plumbing p.table → p.pending = [] →
      plumbing.pipes.length + (count + 1) = scene.width - 1 →
      (plumbing.target = none → dest = scene.output) →
      s.pipes.length = scene.first + plumbing.pipes.length → s.nextPid = scene.origin →
      ShellIs scene dest plumbing s p
  | flushing : p.program = flushing scene.text (finishing scene.environment) scene.programs
        plumbing →
      LaidOut scene dest plumbing p.table → p.pending = [] → Complete scene dest plumbing →
      scene.first + (scene.width - 1) ≤ s.pipes.length → s.nextPid = scene.origin →
      ShellIs scene dest plumbing s p
  | forking {stage : Nat} {arguments : List Bytes} {rest : List (List Bytes)} :
      p.program = forking scene.text (finishing scene.environment) plumbing stage
        (arguments :: rest) (List.range' scene.origin stage) →
      LaidOut scene dest plumbing p.table → Complete scene dest plumbing →
      scene.first + (scene.width - 1) ≤ s.pipes.length → s.nextPid = scene.origin + stage →
      stage + (rest.length + 1) = scene.width → ShellIs scene dest plumbing s p
  | releasing {fd : Fd} {left : List Fd} : p.program = releasing scene.text
        (finishing scene.environment) (List.range' scene.origin scene.width) (fd :: left) →
      Restored scene.before (fd :: left) p.table → s.nextPid = scene.origin + scene.width →
      ShellIs scene dest plumbing s p
  | waiting {codes : List Int} {collected left : Nat} : p.program = waiting scene.text
        (finishing scene.environment) codes (List.range' (scene.origin + collected) (left + 1)) →
      Restored scene.before [] p.table → s.nextPid = scene.origin + scene.width →
      collected + (left + 1) = scene.width →
      (∀ q ∈ s.processes, scene.origin ≤ q.pid → scene.origin + collected ≤ q.pid) →
      ShellIs scene dest plumbing s p

/-- Of the machine, the pipes, the next number and the processes that have been collected
matter. -/
theorem ShellIs.congr (h : ShellIs scene dest plumbing s p)
    (hpipes : after.pipes.length = s.pipes.length) (hnext : after.nextPid = s.nextPid)
    (hpids : ∀ q ∈ after.processes, ∃ old ∈ s.processes, old.pid = q.pid) :
    ShellIs scene dest plumbing after p := by
  cases h with
  | laying hprogram htable hpending hcount hdirect hlength horigin =>
      exact .laying hprogram htable hpending hcount hdirect (hpipes.trans hlength)
        (hnext.trans horigin)
  | flushing hprogram htable hpending hcomplete hroom horigin =>
      exact .flushing hprogram htable hpending hcomplete (hpipes ▸ hroom) (hnext.trans horigin)
  | forking hprogram htable hcomplete hroom horigin hwidth =>
      exact .forking hprogram htable hcomplete (hpipes ▸ hroom) (hnext.trans horigin) hwidth
  | releasing hprogram htable horigin =>
      exact .releasing hprogram htable (hnext.trans horigin)
  | waiting hprogram htable horigin hwidth hcollected =>
      refine .waiting hprogram htable (hnext.trans horigin) hwidth fun q hq hge => ?_
      obtain ⟨old, hold, heq⟩ := hpids q hq
      exact heq ▸ hcollected old hold (heq ▸ hge)

/-- Wherever the shell is, what it had open before stands where it stood. -/
theorem ShellIs.kept (h : ShellIs scene dest plumbing s p) {fd : Fd} {descriptor : Descriptor}
    (hget : scene.before.get? fd = some descriptor) : p.table.get? fd = some descriptor := by
  cases h with
  | laying _ htable => exact htable.kept fd descriptor hget
  | flushing _ htable => exact htable.kept fd descriptor hget
  | forking _ htable => exact htable.kept fd descriptor hget
  | releasing _ htable => exact htable.kept fd descriptor hget
  | waiting _ htable => exact htable.kept fd descriptor hget

/-! ## The invariant -/

/-- A stage that has been started is on its way, or it has written everything and has ended. -/
def Placed (scene : Scene) (dest : Handle) (plumbing : Plumbing) (became : List Pid)
    (s : System Answer) (stage : Nat) (progress : Progress) : Prop :=
  (∃ p ∈ s.processes, p.pid = scene.origin + stage ∧ p.ending = none ∧
      StageIs scene dest plumbing became stage p progress) ∨
    progress.phase = .done ∧ ∀ p ∈ s.processes, p.pid = scene.origin + stage →
      p.ending.isSome = true

/-- What holds while the line is under way: of the shell, of the stages that have been started and
of those that have not, and of what has flowed. -/
structure Flow (scene : Scene) (dest : Handle) (plumbing : Plumbing) (tally : Tally)
    (became : List Pid) (log : List Delivery) (s : System Answer) : Prop where
  numbered : Numbered s
  known : ∀ pid ∈ became, pid < s.nextPid
  began : scene.origin ≤ s.nextPid
  bounded : s.nextPid ≤ scene.origin + scene.width
  bystanders : ∀ p ∈ scene.start.processes, p.pid ≠ scene.shell → p ∈ s.processes
  room : scene.origin < s.nextPid → Complete scene dest plumbing ∧
    scene.first + (scene.width - 1) ≤ s.pipes.length
  onShell : ∃ p ∈ s.processes, p.pid = scene.shell ∧ p.ending = none ∧
    ShellIs scene dest plumbing s p
  onStage : ∀ stage, scene.origin + stage < s.nextPid →
    Placed scene dest plumbing became s stage (tally stage)
  unborn : ∀ stage, s.nextPid ≤ scene.origin + stage → tally stage = .fresh
  streams : Streams scene dest tally log s

/-- The process with a number is the only one with it. -/
theorem Flow.eq_of_pid (h : Flow scene dest plumbing tally became log s)
    (hp : s.process? pid = some p) (hq : q ∈ s.processes) (hpid : q.pid = pid) : q = p :=
  h.numbered.distinct.eq_of_process? hp hq hpid

/-! ## Steps of a stage -/

/-- Other stages do not mind what one has become. -/
theorem StageIs.mono (h : StageIs scene dest plumbing became stage p progress)
    (hgrown : scene.origin + stage ∈ grown → scene.origin + stage ∈ became) :
    StageIs scene dest plumbing grown stage p progress := by
  cases h with
  | preparing hnot h => exact .preparing (mt hgrown hnot) h
  | filtering h => exact .filtering h

/-- A stage stays where it is when its process is kept while it lives, and no process gets its
number. -/
theorem Placed.mono (h : Placed scene dest plumbing became s stage progress)
    (hgrown : scene.origin + stage ∈ grown → scene.origin + stage ∈ became)
    (hstay : ∀ old ∈ s.processes, old.pid = scene.origin + stage → old.ending = none →
      old ∈ after.processes)
    (hback : ∀ old ∈ after.processes, old.pid = scene.origin + stage → old ∈ s.processes) :
    Placed scene dest plumbing grown after stage progress := by
  rcases h with ⟨old, hold, hsame, halive, his⟩ | ⟨hdone, hended⟩
  · exact .inl ⟨old, hstay old hold hsame halive, hsame, halive, his.mono hgrown⟩
  · exact .inr ⟨hdone, fun old hold hsame => hended old (hback old hold hsame) hsame⟩

/-- A stage has made a step, and nothing else has changed but what has flowed. -/
theorem Flow.of_stage (h : Flow scene dest plumbing tally became log s) (hfits : scene.Fits)
    (hp : s.process? (scene.origin + stage) = some p) (hquiet : Quiet s after)
    (hpid : q.pid = p.pid)
    (hgrown : ∀ pid ∈ grown, pid = scene.origin + stage ∨ pid ∈ became)
    (hstreams : Streams scene dest (tally.set stage progress) more after)
    (hat : q.ending = none ∧ StageIs scene dest plumbing grown stage q progress ∨
      progress.phase = .done ∧ q.ending.isSome = true) :
    Flow scene dest plumbing (tally.set stage progress) grown more (after.setProcess q) := by
  obtain ⟨hmem, hstage⟩ := mem_of_process? hp
  have hborn : scene.origin + stage < s.nextPid := hstage ▸ h.numbered.below p hmem
  have hstay : ∀ {old : Process Answer}, old ∈ s.processes → old.pid ≠ scene.origin + stage →
      old ∈ (after.setProcess q).processes := by
    intro old hold hne
    refine mem_setProcess.mpr (.inr ⟨hquiet.processes ▸ hold, ?_⟩)
    rw [hpid, hstage]
    exact hne
  have hbefore : ∀ {old}, old < scene.origin → old ≠ scene.origin + stage := by
    intro old hlt heq
    exact absurd hlt (Nat.not_lt_of_le (heq ▸ Nat.le_add_right _ _))
  have hkeeps := keeps_setProcess h.numbered.distinct h.numbered.below hquiet.processes
    hquiet.nextPid (hpid.trans hstage)
  -- the shell, the bystanders and the other stages have been kept; the one stage is where it says
  refine ⟨⟨hkeeps.distinct, hkeeps.numbered⟩, ?_, ?_, ?_, ?_, ?_, ?_, ?_, ?_,
    hstreams.still still_setProcess⟩
  · intro pid hin
    rw [setProcess_nextPid, hquiet.nextPid]
    rcases hgrown pid hin with rfl | hin
    · exact hborn
    · exact h.known pid hin
  · rw [setProcess_nextPid, hquiet.nextPid]
    exact h.began
  · rw [setProcess_nextPid, hquiet.nextPid]
    exact h.bounded
  · exact fun old hold hne => hstay (h.bystanders old hold hne) (hbefore (hfits.numbered old hold))
  · intro hlt
    rw [setProcess_nextPid, hquiet.nextPid] at hlt
    rw [setProcess_pipes, hquiet.pipes]
    exact h.room hlt
  · obtain ⟨shell, hshell, hsame, halive, his⟩ := h.onShell
    refine ⟨shell, hstay hshell (hsame ▸ hbefore hfits.shell), hsame, halive,
      his.congr hquiet.pipes hquiet.nextPid fun other hother => ?_⟩
    rcases mem_setProcess.mp hother with ⟨rfl, old, hold, heq⟩ | ⟨hother, -⟩
    · exact ⟨old, hquiet.processes ▸ hold, heq⟩
    · exact ⟨other, hquiet.processes ▸ hother, rfl⟩
  · intro other hother
    rw [setProcess_nextPid, hquiet.nextPid] at hother
    by_cases hself : other = stage
    · subst hself
      rw [Tally.set_self]
      refine hat.imp (fun ⟨halive, his⟩ => ?_) fun ⟨hdone, hended⟩ => ⟨hdone, fun old hold hsame => ?_⟩
      · exact ⟨q, mem_setProcess_self (hquiet.processes.symm ▸ hmem) hpid,
          hpid.trans hstage, halive, his⟩
      · rw [eq_of_mem_setProcess hold (hsame.trans (hpid.trans hstage).symm)]
        exact hended
    · have hne : scene.origin + other ≠ scene.origin + stage :=
        fun heq => hself (Nat.add_left_cancel heq)
      rw [Tally.set_of_ne hself]
      refine (h.onStage other hother).mono (fun hin => (hgrown _ hin).resolve_left hne)
        (fun old hold hsame _ => hstay hold (hsame ▸ hne)) fun old hold hsame => ?_
      rcases mem_setProcess.mp hold with ⟨rfl, -⟩ | ⟨hold, -⟩
      · exact absurd (hsame.symm.trans (hpid.trans hstage)) hne
      · exact hquiet.processes ▸ hold
  · intro other hother
    rw [setProcess_nextPid, hquiet.nextPid] at hother
    rw [Tally.set_of_ne ?_]
    · exact h.unborn other hother
    · rintro rfl
      exact absurd hborn (Nat.not_lt_of_le hother)

theorem held_of_holds {endpoint : Endpoint} (hp : p ∈ s.processes)
    (h : p.table.holds endpoint = true) : s.held endpoint = true :=
  List.any_eq_true.mpr ⟨p, hp, h⟩

/-- As long as a stage has not written everything, the pipe behind it can be written. -/
theorem Flow.held_writer (h : Flow scene dest plumbing tally became log s)
    (hborn : scene.origin + stage < s.nextPid) (hstage : stage + 1 < scene.width)
    (hphase : (tally stage).phase ≠ .done) : s.held (.pipeWriter (scene.first + stage)) = true := by
  have hcomplete := (h.room (Nat.lt_of_le_of_lt (Nat.le_add_right _ _) hborn)).1
  rcases h.onStage stage hborn with ⟨p, hp, -, -, his⟩ | ⟨hdone, -⟩
  · exact held_of_holds hp (his.holds_writer hcomplete hstage hphase)
  · exact absurd hdone hphase

/-- As long as a stage writes, what it writes to can be read by somebody. -/
theorem Flow.held_reader (h : Flow scene dest plumbing tally became log s) (hfits : scene.Fits)
    (hborn : scene.origin + stage < s.nextPid) (hphase : (tally stage).phase = .writing)
    (hwrites : scene.Writes dest stage handle) {pipe : PipeId}
    (hend : handle.endpoint = .pipeWriter pipe) : s.held (.pipeReader pipe) = true := by
  have hcomplete := (h.room (Nat.lt_of_le_of_lt (Nat.le_add_right _ _) hborn)).1
  obtain ⟨shell, hshell, -, -, his⟩ := h.onShell
  rcases hwrites with ⟨hlt, hwriter, -⟩ | ⟨-, rfl⟩
  · obtain rfl : pipe = scene.first + stage := by simpa [hend] using hwriter
    by_cases hnext : scene.origin + (stage + 1) < s.nextPid
    · have hreading : (tally (stage + 1)).phase = .reading := by
        by_contra hnot
        exact absurd (hphase.symm.trans (h.streams.order stage hnot)) (by simp)
      rcases h.onStage (stage + 1) hnext with ⟨p, hp, -, -, hat⟩ | ⟨hdone, -⟩
      · exact held_of_holds hp (hat.holds_reader hreading)
      · exact absurd (hreading.symm.trans hdone) (by simp)
    · -- The next stage has not been started, so the shell still has all the pipes.
      cases his with
      | laying _ _ _ _ _ _ horigin =>
          exact absurd hborn (horigin ▸ Nat.not_lt_of_le (Nat.le_add_right _ _))
      | flushing _ _ _ _ _ horigin =>
          exact absurd hborn (horigin ▸ Nat.not_lt_of_le (Nat.le_add_right _ _))
      | forking _ htable =>
          have hpipe : stage < plumbing.pipes.length := by
            rw [hcomplete.count]
            omega
          obtain ⟨descriptor, hget, hread, -⟩ :=
            htable.reader stage _ (List.getElem?_eq_getElem hpipe)
          exact held_of_holds hshell (hread ▸ Table.holds_of_get? hget)
      | releasing _ _ horigin =>
          exact absurd (Nat.add_lt_add_left hlt scene.origin) (horigin ▸ hnext)
      | waiting _ _ horigin =>
          exact absurd (Nat.add_lt_add_left hlt scene.origin) (horigin ▸ hnext)
  · have hsunk := h.streams.sunk
    unfold Sunk at hsunk
    split at hsunk
    · rename_i htarget
      subst hsunk
      rcases hfits.heard htarget pipe hend with hbefore | ⟨p, hp, hne, hholds⟩
      · obtain ⟨entry, hentry, heq⟩ := List.any_eq_true.mp hbefore
        have hget := his.kept (hfits.ordered.get?_of_mem hentry)
        exact held_of_holds hshell (beq_iff_eq.mp heq ▸ Table.holds_of_get? hget)
      · exact held_of_holds (h.bystanders p hp hne) hholds
    · obtain ⟨id, hnode, -⟩ := hsunk
      exact absurd (hend.symm.trans hnode) (by simp)

/-- A process that gives up, and has not become its filter, will not become it. -/
theorem doomed_of_mem (hnumbered : Numbered s) (hnever : scene.origin + stage ∉ became)
    (hp : p ∈ s.processes) (hpid : p.pid = scene.origin + stage)
    (h : Asks IsGivingUp p.program) : Doomed scene.origin became s stage := by
  refine ⟨hpid ▸ hnumbered.below p hp, hnever, fun other hother hsame _ => ?_⟩
  exact hnumbered.distinct.eq_of_pid hp hother (hsame.trans hpid.symm) ▸ h

/-- A step of a stage keeps the line under way, unless the stage will not become its filter. -/
theorem Flow.stage_step (h : Flow scene dest plumbing tally became log s) (hfits : scene.Fits)
    (hfilter : ∀ changed, successor? launch s (scene.origin + stage) = some changed →
      changed.program = (scene.filters stage).program.bind fun never => nomatch never)
    (hstep : step launch s (scene.origin + stage) = some s') :
    stage < scene.width ∧
      ((∃ later, Flow scene dest plumbing later
          (if (successor? launch s (scene.origin + stage)).isSome
            then (scene.origin + stage) :: became else became)
          (log ++ delivered s (scene.origin + stage)) s') ∨
        Doomed scene.origin (if (successor? launch s (scene.origin + stage)).isSome
          then (scene.origin + stage) :: became else became) s' stage) := by
  obtain ⟨p, hp, hactive⟩ := process?_of_step hstep
  obtain ⟨hmem, hpid⟩ := mem_of_process? hp
  have hborn : scene.origin + stage < s.nextPid := hpid ▸ h.numbered.below p hmem
  have hstage : stage < scene.width :=
    Nat.lt_of_add_lt_add_left (Nat.lt_of_lt_of_le hborn h.bounded)
  obtain ⟨hcomplete, hroom⟩ := h.room (Nat.lt_of_le_of_lt (Nat.le_add_right _ _) hborn)
  refine ⟨hstage, ?_⟩
  rcases h.onStage stage hborn with ⟨q, hq, hsame, -, his⟩ | ⟨-, hended⟩
  · obtain rfl := h.eq_of_pid hp hq hsame
    generalize hprogress : tally stage = progress at his
    cases his with
    | preparing hnot hprepares =>
        obtain ⟨hnothing, q, rfl, hpid', halive, ⟨hnone, hprepares | hgiving⟩ | ⟨hsome, hfilters⟩⟩ :=
          hprepares.step hfits hcomplete hstage hp hactive hfilter hstep
        · rw [hnone, hnothing, List.append_nil]
          refine .inl ⟨tally.set stage (tally stage), h.of_stage hfits hp .refl hpid'
            (fun _ hin => .inr hin) ?_ (.inl ⟨halive, ?_⟩)⟩
          · rw [Tally.set_tally]
            exact h.streams
          · rw [hprogress]
            exact .preparing hnot hprepares
        · rw [hnone]
          exact .inr (doomed_of_mem (h.numbered.step hstep) hnot
            (mem_setProcess_self hmem hpid') (hpid'.trans hpid) hgiving)
        · rw [hsome, hnothing, List.append_nil]
          refine .inl ⟨tally.set stage (tally stage), h.of_stage hfits hp .refl hpid'
            (fun _ hin => List.mem_cons.mp hin) ?_ (.inl ⟨halive, ?_⟩)⟩
          · rw [Tally.set_tally]
            exact h.streams
          · rw [hprogress]
            exact .filtering hfilters
    | filtering hfilters =>
        obtain ⟨hnone, after, q, progress, rfl, hquiet, hpid', hstreams, hat⟩ :=
          Filtering.step (hprogress ▸ hfilters) hfits h.streams hstage hp hactive
            (fun place heq => h.held_writer
              (Nat.lt_trans (Nat.add_lt_add_left (heq ▸ Nat.lt_succ_self place) _) hborn)
              (heq ▸ hstage))
            (fun hphase handle hwrites pipe => h.held_reader hfits hborn hphase hwrites) hroom hstep
        rw [hnone]
        exact .inl ⟨_, h.of_stage hfits hp hquiet hpid' (fun _ hin => .inr hin) hstreams
          (hat.imp_left fun ⟨halive, hfilters⟩ => ⟨halive, .filtering hfilters⟩)⟩
  · have hended := hended p hmem hpid
    rw [ending_of_active hactive] at hended
    exact absurd hended (by simp)

/-! ## Arriving at a place -/

theorem shellIs_waiting {codes : List Int} {collected count : Nat}
    (hprogram : p.program = waiting scene.text (finishing scene.environment) codes
      (List.range' (scene.origin + collected) count))
    (htable : Restored scene.before [] p.table)
    (hnext : s.nextPid = scene.origin + scene.width) (hwidth : collected + count = scene.width)
    (hcollected : ∀ q ∈ s.processes, scene.origin ≤ q.pid → scene.origin + collected ≤ q.pid)
    (hmore : count ≠ 0) : ShellIs scene dest plumbing s p := by
  obtain ⟨count, rfl⟩ := Nat.exists_eq_succ_of_ne_zero hmore
  exact .waiting hprogram htable hnext hwidth hcollected

theorem shellIs_releasing (hfits : scene.Fits) (hprogram : p.program = releasing scene.text
      (finishing scene.environment) (List.range' scene.origin scene.width) left)
    (htable : Restored scene.before left p.table)
    (hnext : s.nextPid = scene.origin + scene.width) : ShellIs scene dest plumbing s p := by
  cases left with
  | nil =>
      have hwaiting : p.program = waiting scene.text (finishing scene.environment) []
        (List.range' (scene.origin + 0) scene.width) := hprogram
      exact shellIs_waiting hwaiting htable hnext (Nat.zero_add _) (fun _ _ hge => hge)
        (Nat.ne_of_gt hfits.wide)
  | cons fd left => exact .releasing hprogram htable hnext

theorem shellIs_forking (hfits : scene.Fits) {rest : List (List Bytes)}
    (hprogram : p.program = forking scene.text (finishing scene.environment) plumbing stage rest
      (List.range' scene.origin stage))
    (htable : LaidOut scene dest plumbing p.table) (hcomplete : Complete scene dest plumbing)
    (hroom : scene.first + (scene.width - 1) ≤ s.pipes.length)
    (hnext : s.nextPid = scene.origin + stage) (hwidth : stage + rest.length = scene.width) :
    ShellIs scene dest plumbing s p := by
  cases rest with
  | nil =>
      obtain rfl : stage = scene.width := hwidth
      exact shellIs_releasing hfits hprogram (restored_of_laid htable) hnext
  | cons arguments rest => exact .forking hprogram htable hcomplete hroom hnext hwidth

theorem shellIs_laying {count : Nat} (hprogram : p.program = laying scene.text
      (finishing scene.environment) scene.programs count plumbing)
    (htable : LaidOut scene dest plumbing p.table) (hpending : p.pending = [])
    (hcount : plumbing.pipes.length + count = scene.width - 1)
    (hdirect : plumbing.target = none → dest = scene.output)
    (hpipes : s.pipes.length = scene.first + plumbing.pipes.length)
    (hnext : s.nextPid = scene.origin) : ShellIs scene dest plumbing s p := by
  cases count with
  | zero =>
      refine .flushing hprogram htable hpending ⟨hcount, hdirect⟩ ?_ hnext
      rw [hpipes, ← hcount]
      exact Nat.le_refl _
  | succ count => exact .laying hprogram htable hpending hcount hdirect hpipes hnext

/-! ## Steps of the shell -/

/-- The shell has made a step on its way, and a stage that has ended may have been forgotten. -/
theorem Flow.of_shell (h : Flow scene dest plumbing tally became log s) (hfits : scene.Fits)
    (hp : s.process? scene.shell = some p) (hactive : p.active = true) (hpid : q.pid = p.pid)
    (hending : q.ending = none) (hsub : after.processes.Sublist s.processes)
    (hgone : ∀ old ∈ s.processes, old ∉ after.processes →
      scene.origin ≤ old.pid ∧ old.ending.isSome = true)
    (hnext : after.nextPid = s.nextPid) (hpipes : s.pipes.length ≤ after.pipes.length)
    (hstill : Still s after) (hat : ShellIs scene dest later (after.setProcess q) q)
    (hlater : later = plumbing ∨ s.nextPid = scene.origin) :
    Flow scene dest later tally became log (after.setProcess q) := by
  obtain ⟨hmem, hshell⟩ := mem_of_process? hp
  have hkept : ∀ {old : Process Answer}, old ∈ s.processes →
      old.pid < scene.origin ∨ old.ending = none → old ∈ after.processes := by
    intro old hold hwhich
    by_contra hnot
    obtain ⟨hge, hended⟩ := hgone old hold hnot
    rcases hwhich with hlt | halive
    · exact absurd hlt (Nat.not_lt_of_le hge)
    · rw [halive] at hended
      exact absurd hended (by simp)
  have hstay : ∀ {old : Process Answer}, old ∈ after.processes → old.pid ≠ scene.shell →
      old ∈ (after.setProcess q).processes :=
    fun hold hne => mem_setProcess.mpr (.inr ⟨hold, by rw [hpid, hshell]; exact hne⟩)
  have hself := hkept hmem (.inr (ending_of_active hactive))
  have hborn : ∀ {stage}, scene.origin + stage ≠ scene.shell := fun heq =>
    absurd hfits.shell (Nat.not_lt_of_le (heq ▸ Nat.le_add_right _ _))
  refine ⟨⟨?_, fun old hold => ?_⟩, ?_, ?_, ?_, ?_, ?_, ?_, ?_, ?_,
    h.streams.still (hstill.trans still_setProcess)⟩
  · exact Distinct.setProcess (List.Sublist.nodup (hsub.map _) h.numbered.distinct)
  · rw [setProcess_nextPid, hnext]
    rcases mem_setProcess.mp hold with ⟨rfl, -⟩ | ⟨hold, -⟩
    · exact hpid ▸ h.numbered.below p hmem
    · exact h.numbered.below old (hsub.subset hold)
  · rw [setProcess_nextPid, hnext]
    exact h.known
  · rw [setProcess_nextPid, hnext]
    exact h.began
  · rw [setProcess_nextPid, hnext]
    exact h.bounded
  · exact fun old hold hne =>
      hstay (hkept (h.bystanders old hold hne) (.inl (hfits.numbered old hold))) hne
  · intro hlt
    rw [setProcess_nextPid, hnext] at hlt
    rcases hlater with rfl | hnone
    · exact ⟨(h.room hlt).1, Nat.le_trans (h.room hlt).2 hpipes⟩
    · exact absurd hlt (hnone ▸ Nat.lt_irrefl _)
  · exact ⟨q, mem_setProcess_self hself hpid, hpid.trans hshell, hending, hat⟩
  · intro stage hstage
    rw [setProcess_nextPid, hnext] at hstage
    rcases hlater with rfl | hnone
    · refine (h.onStage stage hstage).mono id (fun old hold hsame halive =>
        hstay (hkept hold (.inr halive)) (hsame ▸ hborn)) fun old hold hsame => ?_
      rcases mem_setProcess.mp hold with ⟨rfl, -⟩ | ⟨hold, -⟩
      · exact absurd (hsame.symm.trans (hpid.trans hshell)) hborn
      · exact hsub.subset hold
    · exact absurd hstage (hnone ▸ Nat.not_lt_of_le (Nat.le_add_right _ _))
  · intro stage hstage
    rw [setProcess_nextPid, hnext] at hstage
    exact h.unborn stage hstage

/-- The shell has started the process of a stage. -/
theorem Flow.of_fork (h : Flow scene dest plumbing tally became log s) (hfits : scene.Fits)
    (hp : s.process? scene.shell = some p)
    (hprocesses : after.processes = (s.setProcess q).processes ++ [answered])
    (hpid : q.pid = p.pid) (hending : q.ending = none)
    (hnext : s.nextPid = scene.origin + stage) (hstage : stage < scene.width)
    (hchild : answered.pid = s.nextPid) (halive : answered.ending = none)
    (hroom : scene.first + (scene.width - 1) ≤ s.pipes.length)
    (hcomplete : Complete scene dest plumbing) (hnumbered : Numbered after)
    (hgrown : after.nextPid = s.nextPid + 1) (hpipes : after.pipes = s.pipes)
    (hstill : Still s after) (hat : ShellIs scene dest plumbing after q)
    (hprepares : Preparing scene dest plumbing stage answered) :
    Flow scene dest plumbing tally became log after := by
  obtain ⟨hmem, hshell⟩ := mem_of_process? hp
  have hstay : ∀ {old : Process Answer}, old ∈ s.processes → old.pid ≠ scene.shell →
      old ∈ after.processes := by
    intro old hold hne
    rw [hprocesses]
    refine List.mem_append_left _ (mem_setProcess.mpr (.inr ⟨hold, ?_⟩))
    rw [hpid, hshell]
    exact hne
  have hmem' : ∀ {old : Process Answer}, old ∈ after.processes →
      old = answered ∨ old = q ∨ old ∈ s.processes := by
    intro old hold
    rw [hprocesses] at hold
    rcases List.mem_append.mp hold with hold | hold
    · exact .inr ((mem_setProcess.mp hold).imp And.left And.left)
    · exact .inl (List.mem_singleton.mp hold)
  have hborn : ∀ {stage}, scene.origin + stage ≠ scene.shell := fun heq =>
    absurd hfits.shell (Nat.not_lt_of_le (heq ▸ Nat.le_add_right _ _))
  refine ⟨hnumbered, fun pid hin => ?_, ?_, ?_, fun old hold hne => ?_, fun _ => ?_, ?_, ?_, ?_,
    h.streams.still hstill⟩
  · rw [hgrown]
    exact Nat.lt_succ_of_lt (h.known pid hin)
  · rw [hgrown]
    exact Nat.le_succ_of_le h.began
  · rw [hgrown, hnext]
    exact Nat.add_lt_add_left hstage _
  · exact hstay (h.bystanders old hold hne) hne
  · rw [hpipes]
    exact ⟨hcomplete, hroom⟩
  · refine ⟨q, ?_, hpid.trans hshell, hending, hat⟩
    rw [hprocesses]
    exact List.mem_append_left _ (mem_setProcess_self hmem hpid)
  · intro other hother
    rw [hgrown] at hother
    rcases Nat.lt_or_eq_of_le (Nat.le_of_lt_succ hother) with hold | hnew
    · refine (h.onStage other hold).mono id (fun old hin hsame _ => hstay hin (hsame ▸ hborn))
        fun old hin hsame => ?_
      rcases hmem' hin with rfl | rfl | hin
      · exact absurd hold (by rw [← hsame, hchild]; exact Nat.lt_irrefl _)
      · exact absurd (hsame.symm.trans (hpid.trans hshell)) hborn
      · exact hin
    · obtain rfl : other = stage := Nat.add_left_cancel (hnew.trans hnext)
      refine .inl ⟨answered, ?_, hchild.trans hnext, halive, ?_⟩
      · rw [hprocesses]
        exact List.mem_append_right _ (List.mem_singleton_self _)
      · rw [h.unborn other (Nat.le_of_eq hnew.symm)]
        exact .preparing (fun hin => absurd (h.known _ hin) (hnew ▸ Nat.lt_irrefl _)) hprepares
  · intro other hother
    rw [hgrown] at hother
    exact h.unborn other (Nat.le_of_succ_le hother)

/-- The shell reports what the line has come to, or it has reported it. -/
inductive Reporting : Prog Answer → Prop
  | writing {bytes value} :
      Reporting (.ask (.write Fd.stderr bytes) (fun _ => false) fun _ => .pure value)
  | finished {value} : Reporting (.pure value)

theorem reporting_finishing {report : Report} :
    Reporting (finishing scene.environment (.ok report)) := .writing

/-- What the destination of the last stage is, and what it holds if it is a file. -/
def Filled (scene : Scene) (dest : Handle) (sent : Bytes) (files : Files) : Prop :=
  match scene.target with
  | none => dest = scene.output
  | some (path, _) => ∃ id, dest.endpoint = .node id ∧ Files.Leads files scene.directory path id ∧
      files.bytesOf? id = some (scene.base ++ sent) ∧
      ∀ entry ∈ scene.before, entry.2.handle.endpoint ≠ .node id

theorem Sunk.filled {sent : Bytes} (h : Sunk scene dest sent s) : Filled scene dest sent s.files := by
  unfold Sunk at h
  unfold Filled
  cases htarget : scene.target with
  | none =>
      rw [htarget] at h
      exact h
  | some target =>
      rw [htarget] at h
      obtain ⟨id, hend, -, hleads, hbytes, -, -, -, hbefore⟩ := h
      exact ⟨id, hend, hleads, hbytes, hbefore⟩

/-- The shell has waited for the last stage, and the output has reached its destination. -/
structure Arrived (scene : Scene) (dest : Handle) (log : List Delivery) (s : System Answer) :
    Prop where
  gone : ∀ p ∈ s.processes, p.pid < scene.origin
  onShell : ∀ p ∈ s.processes, p.pid = scene.shell →
    Reporting p.program ∧ ∀ entry ∈ p.table, entry ∈ scene.before
  room : scene.first ≤ s.pipes.length
  received : received log (scene.origin + (scene.width - 1)) = scene.fed scene.width
  led : ∀ delivery ∈ log, ∃ stage, stage < scene.width ∧ delivery.pid = scene.origin + stage ∧
    scene.Writes dest stage delivery.handle
  filled : Filled scene dest (scene.fed scene.width) s.files

theorem lost_setProcess (hbelow : scene.shell < after.nextPid) (hpid : q.pid = scene.shell)
    {program : Prog Answer} (hprogram : q.program = program) (h : Forsaken program) :
    Lost scene.shell (after.setProcess q) := by
  refine ⟨hbelow, fun other hother hsame => ?_⟩
  rw [eq_of_mem_setProcess hother (hsame.trans hpid.symm), hprogram]
  exact h

/-- A stage whose process has ended has written everything. -/
theorem Flow.done_of_ended (h : Flow scene dest plumbing tally became log s)
    (hp : p ∈ s.processes) (hpid : p.pid = scene.origin + stage)
    (hended : p.ending.isSome = true) : (tally stage).phase = .done := by
  have hborn : scene.origin + stage < s.nextPid := hpid ▸ h.numbered.below p hp
  rcases h.onStage stage hborn with ⟨q, hq, hsame, halive, -⟩ | ⟨hdone, -⟩
  · rw [h.numbered.distinct.eq_of_pid hq hp (hpid.trans hsame.symm), halive] at hended
    exact absurd hended (by simp)
  · exact hdone

/-- A shell that has waited for the last stage reports what the line has come to. -/
theorem Flow.arrived (h : Flow scene dest plumbing tally became log s) (hfits : scene.Fits)
    (hdone : (tally (scene.width - 1)).phase = .done)
    (hgone : ∀ p ∈ after.processes, p.pid < scene.origin) (hstill : Still s after)
    (hroom : scene.first ≤ after.pipes.length)
    (hshell : ∀ p ∈ after.processes, p.pid = scene.shell →
      Reporting p.program ∧ ∀ entry ∈ p.table, entry ∈ scene.before) :
    Arrived scene dest log after := by
  have hlast : scene.width - 1 + 1 = scene.width := Nat.sub_add_cancel hfits.wide
  have hsent : (tally (scene.width - 1)).sent = scene.fed scene.width :=
    (h.streams.spent _ hdone).trans (congrArg scene.fed hlast)
  refine ⟨hgone, hshell, hroom, ?_, h.streams.led, ?_⟩
  · rw [h.streams.logged, hsent]
  · exact (hsent ▸ h.streams.sunk.still hstill).filled

/-- A shell that waits for a stage is told when it has ended, and forgets it then. It waits again,
goes on with the next stage, or gives up. -/
theorem step_waiting {codes : List Int} {child : Pid} {rest : List Pid} {text : String}
    {next : Except ExecFailure Report → Prog Answer} (hp : s.process? pid = some p)
    (hactive : p.active = true) (hprogram : p.program = waiting text next codes (child :: rest))
    (hstep : step launch s pid = some s') :
    ∃ after program, s' = after.setProcess { p with program := program } ∧
      (after = s ∨ (∃ q ∈ s.processes, q.pid = child ∧ q.ending.isSome = true) ∧
        after = s.forget child) ∧
      (program = p.program ∨ (after = s.forget child ∧
          (∃ q ∈ s.processes, q.pid = child ∧ q.ending.isSome = true) ∧
          ∃ code, program = waiting text next (codes ++ [code]) rest) ∨
        ∃ errno, program = next (.error (.wait errno))) := by
  have hask := hprogram
  rw [waiting_cons] at hask
  rw [step_answered hp hactive rfl hask] at hstep
  simp only [answer, Option.map_map, Option.map_eq_some_iff] at hstep
  obtain ⟨⟨reply, after⟩, hwait, rfl⟩ := hstep
  have hproceeds := waiting_proceeds text next codes child rest reply (hask.symm.trans hprogram).symm
  have hafter : after = s ∨ (∃ q ∈ s.processes, q.pid = child ∧ q.ending.isSome = true) ∧
      after = s.forget child := by
    rcases waitFor_child hwait with ⟨errno, -, hsame⟩ | hforgotten
    · exact .inl hsame
    · exact .inr hforgotten
  refine ⟨after, _, rfl, hafter, ?_⟩
  rcases hproceeds with hagain | ⟨_, _, code, hreply, -, hnext⟩ | hfailed
  · exact .inl (hagain.trans hprogram.symm)
  · rcases waitFor_child hwait with ⟨errno, herror, -⟩ | ⟨hended, hafter⟩
    · exact absurd (herror.symm.trans hreply) (by simp)
    · exact .inr (.inl ⟨hafter, hended, code, hnext⟩)
  · exact .inr (.inr hfailed)

/-- A step of a shell that waits keeps the line under way, unless it will not say that the line has
been run, or it has waited for the last stage. -/
theorem Flow.wait_step (h : Flow scene dest plumbing tally became log s) (hfits : scene.Fits)
    (hp : s.process? scene.shell = some p) (hactive : p.active = true) {codes : List Int}
    {collected count : Nat} (hprogram : p.program = waiting scene.text
      (finishing scene.environment) codes (List.range' (scene.origin + collected) (count + 1)))
    (htable : Restored scene.before [] p.table) (hnext : s.nextPid = scene.origin + scene.width)
    (hwidth : collected + (count + 1) = scene.width)
    (hcollected : ∀ q ∈ s.processes, scene.origin ≤ q.pid → scene.origin + collected ≤ q.pid)
    (hstep : step launch s scene.shell = some s') :
    (∃ later, Flow scene dest later tally became log s') ∨
      (∃ stage, stage < scene.width ∧ Doomed scene.origin became s' stage) ∨
      Lost scene.shell s' ∨ Arrived scene dest log s' := by
  have hpid := (mem_of_process? hp).2
  have halive := ending_of_active hactive
  have hbelow : scene.shell < s.nextPid := Nat.lt_of_lt_of_le hfits.shell h.began
  rw [List.range'_succ] at hprogram
  obtain ⟨after, program, rfl, hafter, hproceeds⟩ := step_waiting hp hactive hprogram hstep
  obtain ⟨hsub, hgone, hgrown, hpipes, hstill⟩ : after.processes.Sublist s.processes ∧
      (∀ old ∈ s.processes, old ∉ after.processes →
        scene.origin ≤ old.pid ∧ old.ending.isSome = true) ∧
      after.nextPid = s.nextPid ∧ after.pipes = s.pipes ∧ Still s after := by
    rcases hafter with rfl | ⟨⟨child, hchild, hsame, hended⟩, rfl⟩
    · exact ⟨.refl _, fun old hold hnot => absurd hold hnot, rfl, rfl, .refl⟩
    · refine ⟨List.filter_sublist, fun old hold hnot => ?_, rfl, rfl, still_forget⟩
      have hsameOld : old.pid = scene.origin + collected := by
        by_contra hne
        exact hnot (mem_forget.mpr ⟨hold, hne⟩)
      rw [h.numbered.distinct.eq_of_pid hchild hold (hsameOld.trans hsame.symm), hsame]
      exact ⟨Nat.le_add_right _ _, hended⟩
  -- Who is there beside the shell was there before.
  have hothers : ∀ q ∈ (after.setProcess { p with program := program }).processes,
      scene.origin ≤ q.pid → q ∈ after.processes := by
    intro q hq hge
    rcases mem_setProcess.mp hq with ⟨rfl, -⟩ | ⟨hq, -⟩
    · exact absurd hfits.shell (Nat.not_lt_of_le (hpid ▸ hge))
    · exact hq
  rcases hproceeds with rfl | ⟨rfl, ⟨child, hchild, hsame, hended⟩, code, rfl⟩ | ⟨errno, rfl⟩
  · refine .inl ⟨plumbing, h.of_shell hfits hp hactive rfl halive hsub hgone hgrown
      (Nat.le_of_eq (congrArg List.length hpipes).symm) hstill (shellIs_waiting (hprogram.trans
        (by rw [List.range'_succ])) htable (hgrown.trans hnext) hwidth ?_ (Nat.succ_ne_zero count))
      (.inl rfl)⟩
    exact fun q hq hge => hcollected q (hsub.subset (hothers q hq hge)) hge
  · have hpassed : ∀ q ∈ ((s.forget (scene.origin + collected)).setProcess { p with
        program := waiting scene.text (finishing scene.environment) (codes ++ [code])
          (List.range' (scene.origin + collected + 1) count) }).processes,
        scene.origin ≤ q.pid → scene.origin + (collected + 1) ≤ q.pid := by
      intro q hq hge
      obtain ⟨hq, hne⟩ := mem_forget.mp (hothers q hq hge)
      exact Nat.lt_of_le_of_ne (hcollected q hq hge) (Ne.symm hne)
    by_cases hlast : count = 0
    · subst hlast
      refine .inr (.inr (.inr (h.arrived hfits ?_ ?_ (hstill.trans still_setProcess) ?_ ?_)))
      · rw [show scene.width - 1 = collected by omega]
        exact h.done_of_ended hchild hsame hended
      · intro q hq
        by_contra hge
        have hlt := h.numbered.below q (hsub.subset (hothers q hq (Nat.le_of_not_lt hge)))
        rw [hnext, ← hwidth] at hlt
        exact absurd hlt (Nat.not_lt_of_le (hpassed q hq (Nat.le_of_not_lt hge)))
      · obtain ⟨-, hroom⟩ := h.room (hnext ▸ Nat.lt_add_of_pos_right hfits.wide)
        exact Nat.le_trans (Nat.le_add_right _ _) hroom
      · intro q hq hshell
        rw [eq_of_mem_setProcess hq (hshell.trans hpid.symm)]
        refine ⟨waiting_nil _ _ _ ▸ reporting_finishing, fun entry hentry => ?_⟩
        exact (htable.entries entry hentry).resolve_right List.not_mem_nil
    · exact .inl ⟨plumbing, h.of_shell hfits hp hactive rfl halive hsub hgone hgrown
        (Nat.le_of_eq (congrArg List.length hpipes).symm) hstill (shellIs_waiting rfl htable
          (hgrown.trans hnext) (by omega) hpassed hlast) (.inl rfl)⟩
  · exact .inr (.inr (.inl (lost_setProcess (hgrown ▸ hbelow) hpid rfl
      (forsaken_finishing scene.environment (.wait errno)))))

/-- A shell that lays the pipes lays one more, or gives the line up. -/
theorem Flow.laying_step (h : Flow scene dest plumbing tally became log s) (hfits : scene.Fits)
    (hp : s.process? scene.shell = some p) (hactive : p.active = true) {count : Nat}
    (hprogram : p.program = laying scene.text (finishing scene.environment) scene.programs
      (count + 1) plumbing)
    (htable : LaidOut scene dest plumbing p.table) (hpending : p.pending = [])
    (hcount : plumbing.pipes.length + (count + 1) = scene.width - 1)
    (hdirect : plumbing.target = none → dest = scene.output)
    (hlength : s.pipes.length = scene.first + plumbing.pipes.length)
    (horigin : s.nextPid = scene.origin) (hstep : step launch s scene.shell = some s') :
    (∃ later, Flow scene dest later tally became log s') ∨ Lost scene.shell s' := by
  have hpid := (mem_of_process? hp).2
  have halive := ending_of_active hactive
  rw [laying_succ] at hprogram
  rw [step_answered hp hactive rfl hprogram] at hstep
  simp only [answer, Option.map_some, Option.some.injEq] at hstep
  subst hstep
  rcases hmade : s.openPipe p with ⟨errno | ends, answered, after⟩
  · obtain ⟨rfl, rfl⟩ := openPipe_error hmade
    exact .inr (lost_setProcess (Nat.lt_of_lt_of_le hfits.shell h.began) hpid rfl
      (forsaken_closeAll (fun _ => forsaken_finishing _ _) _))
  · obtain ⟨hlaid, hgrown, hprocesses, hnext, -, hanswered⟩ := htable.pipe hlength hmade
    refine .inl ⟨{ plumbing with pipes := plumbing.pipes ++ [ends] },
      h.of_shell hfits hp hactive ?_ ?_ (by rw [hprocesses]) ?_ hnext ?_ (still_openPipe hmade)
        (shellIs_laying rfl hlaid ?_ ?_ hdirect ?_ ?_) (.inr horigin)⟩
    · rw [hanswered]
    · rw [hanswered]
      exact halive
    · exact fun old hold hnot => absurd (hprocesses ▸ hold) hnot
    · rw [hgrown, hlength]
      exact Nat.le_succ _
    · rw [hanswered]
      exact hpending
    · rw [List.length_append, List.length_singleton, ← hcount]
      omega
    · rw [setProcess_pipes, hgrown, List.length_append, List.length_singleton]
    · exact hnext.trans horigin

/-- A shell that starts the stages starts one more, which prepares itself or gives up. -/
theorem Flow.forking_step (h : Flow scene dest plumbing tally became log s) (hfits : scene.Fits)
    (hp : s.process? scene.shell = some p) (hactive : p.active = true) {arguments : List Bytes}
    {rest : List (List Bytes)} (hprogram : p.program = forking scene.text
      (finishing scene.environment) plumbing stage (arguments :: rest)
      (List.range' scene.origin stage))
    (htable : LaidOut scene dest plumbing p.table) (hcomplete : Complete scene dest plumbing)
    (hroom : scene.first + (scene.width - 1) ≤ s.pipes.length)
    (horigin : s.nextPid = scene.origin + stage) (hwidth : stage + (rest.length + 1) = scene.width)
    (hstep : step launch s scene.shell = some s') :
    Flow scene dest plumbing tally became log s' ∨
      stage < scene.width ∧ Doomed scene.origin became s' stage := by
  have halive := ending_of_active hactive
  have hnumbered := h.numbered.step hstep
  have hstage : stage < scene.width := by omega
  rw [forking_cons] at hprogram
  cases hstep.symm.trans (step_fork hp hactive hprogram)
  have hprepares := preparing_runStage (p := { p with
    pid := s.nextPid
    parent := scene.shell
    signals := p.signals.forChild
    program := runStage plumbing stage arguments }) hfits hcomplete hstage rfl htable
  rcases hprepares with hprepares | hgiving
  · have hchildren : List.range' scene.origin stage ++ [s.nextPid] =
        List.range' scene.origin (stage + 1) := by
      rw [List.range'_1_concat, horigin]
    refine .inl (h.of_fork hfits hp rfl rfl halive horigin hstage rfl halive hroom
      hcomplete hnumbered rfl rfl ?_ (shellIs_forking hfits
        (congrArg (forking _ _ plumbing (stage + 1) rest) hchildren) htable hcomplete hroom
        (congrArg (· + 1) horigin) (by omega)) hprepares)
    exact ⟨.refl, fun _ => rfl, rfl, fun _ => rfl, fun _ => rfl, Nat.le_refl _⟩
  · refine .inr ⟨hstage, doomed_of_mem hnumbered (fun hin => ?_)
      (List.mem_append_right _ (List.mem_singleton_self _)) horigin hgiving⟩
    exact absurd (h.known _ hin) (horigin ▸ Nat.lt_irrefl _)

/-- A step of the shell keeps the line under way, unless a stage will not become its filter, or the
shell will not say that the line has been run, or it has waited for the last stage. -/
theorem Flow.shell_step (h : Flow scene dest plumbing tally became log s) (hfits : scene.Fits)
    (hstep : step launch s scene.shell = some s') :
    (∃ later, Flow scene dest later tally became log s') ∨
      (∃ stage, stage < scene.width ∧ Doomed scene.origin became s' stage) ∨
      Lost scene.shell s' ∨ Arrived scene dest log s' := by
  obtain ⟨p, hp, hactive⟩ := process?_of_step hstep
  have halive := ending_of_active hactive
  obtain ⟨shell, hshell, hsame, -, his⟩ := h.onShell
  obtain rfl := h.eq_of_pid hp hshell hsame
  cases his with
  | laying hprogram htable hpending hcount hdirect hlength horigin =>
      rcases h.laying_step hfits hp hactive hprogram htable hpending hcount hdirect hlength horigin
        hstep with hflow | hlost
      · exact .inl hflow
      · exact .inr (.inr (.inl hlost))
  | flushing hprogram htable hpending hcomplete hroom horigin =>
      have hask : shell.program = .ask .flush (fun _ => false) fun _ => forking scene.text
        (finishing scene.environment) plumbing 0 scene.programs [] := hprogram
      cases hstep.symm.trans (step_flush_of_isEmpty hp hactive hask (by rw [hpending]; rfl))
      exact .inl ⟨plumbing, h.of_shell hfits hp hactive rfl halive (.refl _)
        (fun old hold hnot => absurd hold hnot) rfl (Nat.le_refl _) .refl
        (shellIs_forking hfits rfl htable hcomplete hroom horigin (Nat.zero_add _)) (.inl rfl)⟩
  | forking hprogram htable hcomplete hroom horigin hwidth =>
      rcases h.forking_step hfits hp hactive hprogram htable hcomplete hroom horigin hwidth hstep
        with hflow | ⟨hstage, hdoomed⟩
      · exact .inl ⟨plumbing, hflow⟩
      · exact .inr (.inl ⟨_, hstage, hdoomed⟩)
  | @releasing fd left hprogram htable horigin =>
      cases hstep.symm.trans (step_closeAll hp hactive hprogram)
      exact .inl ⟨plumbing, h.of_shell hfits hp hactive rfl halive (.refl _)
        (fun old hold hnot => absurd hold hnot) rfl (Nat.le_refl _) .refl
        (shellIs_releasing hfits rfl htable.erase horigin) (.inl rfl)⟩
  | waiting hprogram htable horigin hwidth hcollected =>
      exact h.wait_step hfits hp hactive hprogram htable horigin hwidth hcollected hstep

end LineShell.Dataflow
