import LineShell.Proofs.Pipeline.Opening
import Mathlib

/-!
# The output of a line of filters

In every order of steps, what a line of filters is given comes out as what the filters make of it
one after the other.

* **`Reached`** — where a line is that has been begun, or what it has failed for; every step
  preserves it (`Run.reached`);
* **`Begins`** — a shell is about to run a line of filters;
* **`output_of_completed`** — when the shell says that the line has been run, the whole output has
  been handed over to its destination once, and nothing else has been.
-/

namespace LineShell.Dataflow

open LineShell.System LineShell.Course Prog

variable {launch : Launcher} {scene : Scene} {dest : Handle} {plumbing : Plumbing} {tally : Tally}
  {became : List Pid} {log : List Delivery} {s s' after : System Answer} {stage : Nat}
  {p q : Process Answer} {sent : Bytes} {files later : Files}

/-! ## When time passes -/

theorem Early.tick (h : Early scene s) (time : Nat) : Early scene (s.setClock time) := by
  obtain ⟨p, hp, hpid, halive, hdirectory, hpending, hat⟩ := h.onShell
  refine ⟨⟨⟨h.numbered.distinct, h.numbered.below⟩, h.next, h.pipes, h.cells, h.bystanders,
    still_setClock.supply?.trans h.supplied, fun hnone => (h.direct hnone).alike Files.alike_setTime⟩,
    p, hp, hpid, halive, hdirectory, fun hne => (hpending hne).alike Files.alike_setTime, ?_⟩
  have haimed : Aimed scene s.files → Aimed scene (s.setClock time).files := fun haimed =>
    haimed.congr Files.alike_setTime fun _ _ => rfl
  cases hat with
  | probing htarget hprogram htable halike hnode =>
      exact .probing htarget hprogram htable (halike.trans Files.alike_setTime) hnode
  | closing hprogram htable hfree haim => exact .closing hprogram htable hfree (haimed haim)
  | flushing hprogram htable haim => exact .flushing hprogram htable (haimed haim)
  | opening htarget hprogram htable hnothing haim =>
      exact .opening htarget hprogram htable hnothing (haimed haim)

theorem Flow.tick (h : Flow scene dest plumbing tally became log s) (time : Nat) :
    Flow scene dest plumbing tally became log (s.setClock time) := by
  obtain ⟨p, hp, hpid, halive, hat⟩ := h.onShell
  exact ⟨⟨h.numbered.distinct, h.numbered.below⟩, h.known, h.began, h.bounded, h.bystanders, h.room,
    ⟨p, hp, hpid, halive, hat.congr rfl rfl fun q hq => ⟨q, hq, rfl⟩⟩, h.onStage, h.unborn,
    h.streams.still still_setClock⟩

/-! ## When the output has arrived -/

/-- Of a store, only the node of the destination matters to what the destination holds. -/
theorem Filled.congr (h : Filled scene dest sent files) (halike : Files.Alike files later)
    (hnode : ∀ id, scene.Spares id → later.node? id = files.node? id) :
    Filled scene dest sent later := by
  unfold Filled at h ⊢
  split at h
  · exact h
  · obtain ⟨id, hend, hleads, hbytes, hspares⟩ := h
    refine ⟨id, hend, hleads.alike halike, ?_, hspares⟩
    unfold Files.bytesOf?
    rw [hnode id hspares]
    exact hbytes

theorem Arrived.tick (h : Arrived scene dest log s) (time : Nat) :
    Arrived scene dest log (s.setClock time) :=
  ⟨h.gone, h.onShell, h.room, h.received, h.led,
    h.filled.congr Files.alike_setTime fun _ _ => rfl⟩

/-- What the shell reports goes to none of the files that the output goes to. -/
theorem Arrived.shell_step (h : Arrived scene dest log s) (hfits : scene.Fits)
    (hstep : step launch s scene.shell = some s') : Arrived scene dest log s' := by
  obtain ⟨p, hp, hactive⟩ := process?_of_step hstep
  obtain ⟨hmem, hpid⟩ := mem_of_process? hp
  obtain ⟨hreporting, htable⟩ := h.onShell p hmem hpid
  generalize hprogram : p.program = program at hreporting
  cases hreporting with
  | finished => exact absurd (hstep.symm.trans (step_pure hp hactive hprogram)) (by simp)
  | @writing bytes value =>
      rw [step_write hp hactive hprogram, Option.map_eq_some_iff] at hstep
      obtain ⟨⟨reply, after⟩, hwrite, rfl⟩ := hstep
      have hquiet := quiet_writeSome hwrite
      obtain ⟨halike, hnode⟩ : Files.Alike s.files after.files ∧
          ∀ id, scene.Spares id → after.files.node? id = s.files.node? id := by
        have hpipe : ∀ descriptor, p.table.get? Fd.stderr = some descriptor → ∀ pipe,
            descriptor.handle.endpoint = .pipeWriter pipe → pipe < s.pipes.length := by
          intro descriptor hget pipe hend
          have hentry := htable _ (Table.mem_of_get? hget)
          exact Nat.lt_of_lt_of_le (hfits.pipes _ hentry pipe (.inr hend)) h.room
        rcases writeSome_cases hpipe hwrite with rfl | ⟨descriptor, chunk, hget, hpoured⟩
        · exact ⟨.refl, fun _ _ => rfl⟩
        · refine ⟨hpoured.alike, fun id hspares => hpoured.node? id ?_⟩
          exact hspares _ (htable _ (Table.mem_of_get? hget))
      refine ⟨fun q hq => ?_, fun q hq hsame => ?_, hquiet.pipes ▸ h.room, h.received, h.led,
        h.filled.congr halike hnode⟩
      · rcases mem_setProcess.mp hq with ⟨rfl, -⟩ | ⟨hq, -⟩
        · exact h.gone p hmem
        · exact h.gone q (hquiet.processes ▸ hq)
      · rw [eq_of_mem_setProcess hq (hsame.trans hpid.symm)]
        refine ⟨?_, htable⟩
        rcases reply with errno | _ | ⟨byte, left⟩
        · exact .finished
        · exact .finished
        · exact .writing

/-! ## What every step preserves -/

theorem Run.numbered {filters : Nat → Filter} {shell : Pid} {start : System Answer}
    (hrun : Run launch filters shell start became log s) (h : Numbered start) : Numbered s := by
  induction hrun with
  | start => exact h
  | tick time _ ih => exact ⟨ih.distinct, ih.below⟩
  | shell _ hstep ih => exact ih.step hstep
  | stage _ _ hstep ih => exact ih.step hstep

/-- A shell that has left the way stays off it in every run. -/
theorem Run.lost {filters : Nat → Filter} {shell : Pid} {start : System Answer}
    (hrun : Run launch filters shell start became log s) (hnumbered : Numbered start)
    (h : Lost shell start) : Lost shell s := by
  have hother : ∀ stage, start.nextPid + stage ≠ shell := fun stage heq =>
    absurd h.1 (Nat.not_lt_of_le (heq ▸ Nat.le_add_right _ _))
  induction hrun with
  | start => exact h
  | tick time _ ih => exact ih
  | shell hrun hstep ih => exact ih.own (hrun.numbered hnumbered) hstep
  | @stage _ _ _ _ stage hrun _ hstep ih =>
      exact ih.other (hrun.numbered hnumbered) (hother stage) hstep

/-- Where the line is, or why the shell will not say that every filter has been run. -/
inductive Reached (scene : Scene) (became : List Pid) (log : List Delivery) (s : System Answer) : Prop
  | early : Early scene s → became = [] → log = [] → Reached scene became log s
  | flowing {dest : Handle} {plumbing : Plumbing} {tally : Tally} :
      Flow scene dest plumbing tally became log s → Reached scene became log s
  | arrived {dest : Handle} : Arrived scene dest log s → Reached scene became log s
  | lost : Lost scene.shell s → Reached scene became log s
  | doomed {stage : Nat} : stage < scene.width → Doomed scene.origin became s stage →
      Reached scene became log s

theorem Reached.tick (h : Reached scene became log s) (time : Nat) :
    Reached scene became log (s.setClock time) := by
  cases h with
  | early h hbecame hlog => exact .early (h.tick time) hbecame hlog
  | flowing h => exact .flowing (h.tick time)
  | arrived h => exact .arrived (h.tick time)
  | lost h => exact .lost h
  | doomed hstage h => exact .doomed hstage ⟨h.started, h.never, h.giving⟩

/-- A step of the shell preserves where the line is. -/
theorem Reached.shell_step (h : Reached scene became log s) (hready : scene.Ready)
    (hnumbered : Numbered s) (hstep : step launch s scene.shell = some s') :
    Reached scene became log s' := by
  cases h with
  | early h hbecame hlog =>
      subst hbecame hlog
      rcases h.shell_step hready hstep with h | h | ⟨dest, plumbing, h⟩
      · exact .early h rfl rfl
      · exact .lost h
      · exact .flowing h
  | flowing h =>
      rcases h.shell_step hready.toFits hstep with ⟨later, h⟩ | ⟨stage, hstage, h⟩ | h | h
      · exact .flowing h
      · exact .doomed hstage h
      · exact .lost h
      · exact .arrived h
  | arrived h => exact .arrived (h.shell_step hready.toFits hstep)
  | lost h => exact .lost (h.own hnumbered hstep)
  | doomed hstage h =>
      have hlater := h.step hnumbered hstep
      exact .doomed hstage ⟨hlater.started, h.never, hlater.giving⟩

/-- A step of a stage preserves where the line is. -/
theorem Reached.stage_step (h : Reached scene became log s) (hready : scene.Ready)
    (hnumbered : Numbered s)
    (hfilter : ∀ changed, successor? launch s (scene.origin + stage) = some changed →
      changed.program = (scene.filters stage).program.bind fun never => nomatch never)
    (hstep : step launch s (scene.origin + stage) = some s') :
    Reached scene
      (if (successor? launch s (scene.origin + stage)).isSome
        then (scene.origin + stage) :: became else became)
      (log ++ delivered s (scene.origin + stage)) s' := by
  obtain ⟨p, hp, -⟩ := process?_of_step hstep
  obtain ⟨hmem, hpid⟩ := mem_of_process? hp
  have hge : scene.origin ≤ p.pid := hpid ▸ Nat.le_add_right _ _
  cases h with
  | early h => exact absurd (h.next ▸ h.numbered.below p hmem) (Nat.not_lt_of_le hge)
  | flowing h =>
      obtain ⟨hstage, ⟨later, h⟩ | h⟩ := h.stage_step hready.toFits hfilter hstep
      · exact .flowing h
      · exact .doomed hstage h
  | arrived h => exact absurd (h.gone p hmem) (Nat.not_lt_of_le hge)
  | lost h =>
      refine .lost (h.other hnumbered ?_ hstep)
      exact Nat.ne_of_gt (Nat.lt_of_lt_of_le hready.shell (Nat.le_add_right _ _))
  | doomed hstage h => exact .doomed hstage (h.step hnumbered hstep)

/-- In every run the line is under way, or there is why the shell will not say that every filter has
been run. -/
theorem Run.reached (hrun : Run launch scene.filters scene.shell scene.start became log s)
    (hready : scene.Ready) (h : Early scene scene.start) : Reached scene became log s := by
  induction hrun with
  | start => exact .early h rfl rfl
  | tick time _ ih => exact ih.tick time
  | shell hrun hstep ih => exact ih.shell_step hready (hrun.numbered h.numbered) hstep
  | stage hrun hfilter hstep ih =>
      exact ih.stage_step hready (hrun.numbered h.numbered) hfilter hstep

/-! ## What the shell has still to do -/

/-- A shell on its way to the first pipe has something to ask. -/
theorem EarlyAt.unfinished (h : EarlyAt scene s p) : p.program.request?.isSome = true := by
  cases h with
  | probing _ hprogram | closing hprogram | flushing hprogram | opening _ hprogram =>
      rw [hprogram]
      rfl

/-- A shell on its way through the line has something to ask. -/
theorem ShellIs.unfinished (h : ShellIs scene dest plumbing s p) :
    p.program.request?.isSome = true := by
  cases h with
  | laying hprogram | flushing hprogram | forking hprogram | releasing hprogram
  | waiting hprogram =>
      rw [hprogram]
      rfl

/-- When the shell has come to say that the line has been run and every stage has become its filter,
the output has arrived. -/
theorem Reached.arrived_of_completed (h : Reached scene became log s) (hnumbered : Numbered s)
    (hbecame : ∀ stage, stage < scene.width → scene.origin + stage ∈ became)
    (hq : q ∈ s.processes) (hpid : q.pid = scene.shell) {report : Report} {environment : Environment}
    (hprogram : q.program = .pure (.ok (.completed report), environment)) :
    ∃ dest, Arrived scene dest log s := by
  have hsame : ∀ p ∈ s.processes, p.pid = scene.shell → p = q := by
    intro p hp hshell
    exact hnumbered.distinct.eq_of_pid hq hp (hshell.trans hpid.symm)
  have hover : ∀ p ∈ s.processes, p.pid = scene.shell → p.program.request?.isSome = false := by
    intro p hp hshell
    rw [hsame p hp hshell, hprogram]
    rfl
  cases h with
  | early h =>
      obtain ⟨p, hp, hshell, -, -, -, hat⟩ := h.onShell
      exact absurd (hat.unfinished.symm.trans (hover p hp hshell)) (by simp)
  | flowing h =>
      obtain ⟨p, hp, hshell, -, hat⟩ := h.onShell
      exact absurd (hat.unfinished.symm.trans (hover p hp hshell)) (by simp)
  | arrived h => exact ⟨_, h⟩
  | lost h =>
      have hforsaken := h.2 q hq hpid
      rw [hprogram] at hforsaken
      cases hforsaken with
      | finished hnot => exact absurd rfl (hnot report)
  | doomed hstage h => exact absurd (hbecame _ hstage) h.never

/-! ## Where a run begins -/

/-- A process of a sound machine is about to run a line that spells a pipeline of programs. Its
standard input can be read to an end, and what it holds back is not to come out of there. Where the
output is to go can be written: the standard output, which somebody can read if it is a pipe, or a
path that leads to nothing yet or to a regular file that is not open already. -/
structure Begins (shell : Shell) (environment : Environment) (line : String) (pipeline : Pipeline)
    (start : System Answer) (p : Process Answer) (input output : Handle) (supply : Bytes) :
    Prop where
  sound : start.Sound
  parsed : Pipeline.ofTokens shell.config.maxArguments (Token.ofLine (Text.trimString line)) =
    .ok pipeline
  programs : pipeline.simple?.bind shell.commands.find? = none
  mem : p ∈ start.processes
  program : p.program = shell.runLine environment line
  stdin : p.table.get? Fd.stdin = some ⟨input, false⟩
  stdout : p.table.get? Fd.stdout = some ⟨output, false⟩
  readable : input.access.read = true
  supplied : start.supply? input = some supply
  apart : p.pending ≠ [] → start.Apart input output
  takes : pipeline.target = none → start.Takes output ∧ ∀ pipe,
    output.endpoint = .pipeWriter pipe → start.held (.pipeReader pipe) = true
  target : ∀ target path, pipeline.target = some target → cleanBytes target.path = .ok path →
    ownFile? path = none ∧ ∀ id, start.files.find p.directory path = .ok id →
      (∃ bytes, start.files.bytesOf? id = some bytes) ∧
        ∀ entry ∈ p.table, entry.2.handle.endpoint ≠ .node id

/-- A line that has been parsed has a stage. -/
theorem stages_pos {limit : Nat} {tokens : List Token} {pipeline : Pipeline}
    (h : Pipeline.ofTokens limit tokens = .ok pipeline) : 0 < pipeline.stages.length := by
  obtain ⟨rest, -, -, harguments⟩ := Pipeline.parts_of_ofTokens h
  have hlength := congrArg List.length harguments
  rw [List.length_map, List.length_map, List.length_append, List.length_singleton] at hlength
  rw [hlength]
  exact Nat.succ_pos _

/-- The name of the target is a path, if there is one. -/
def Clean (pipeline : Pipeline) : Prop :=
  ∀ target, pipeline.target = some target → ∃ path, cleanBytes target.path = .ok path

section Whole

variable {shell : Shell} {environment : Environment} {line : String} {pipeline : Pipeline}
  {start : System Answer} {input output : Handle} {supply : Bytes} {filters : Nat → Filter}

/-- The scene in which a process runs a line. -/
def Begins.toScene (_ : Begins shell environment line pipeline start p input output supply)
    (filters : Nat → Filter) : Scene where
  start := start
  shell := p.pid
  environment := environment
  text := Text.trimString line
  pipeline := pipeline
  programs := match pipeline.stages.mapM Stage.argumentBytes with
    | .ok programs => programs
    | .error _ => List.replicate pipeline.stages.length []
  filters := filters
  before := p.table
  directory := p.directory
  input := input
  output := output
  supply := supply
  target := pipeline.target.bind fun target =>
    (cleanBytes target.path).toOption.map fun path => (path, target.mode)

variable (h : Begins shell environment line pipeline start p input output supply)

theorem Begins.width_toScene (filters : Nat → Filter) :
    (h.toScene filters).width = pipeline.stages.length := by
  unfold Scene.width toScene
  dsimp only
  cases hprograms : pipeline.stages.mapM Stage.argumentBytes with
  | ok programs => exact (forall₂_of_mapM_eq_ok hprograms).length_eq.symm
  | error word => exact List.length_replicate

theorem Begins.target_toScene_of_none (htarget : pipeline.target = none) :
    (h.toScene filters).target = none := by
  unfold toScene
  rw [htarget]
  rfl

theorem Begins.target_toScene {target : Target} (htarget : pipeline.target = some target)
    {path : Bytes} (hpath : cleanBytes target.path = .ok path) :
    (h.toScene filters).target = some (path, target.mode) := by
  unfold toScene
  dsimp only
  rw [htarget, Option.bind_some, hpath]
  rfl

include h

/-- A process that runs a line is alive. -/
theorem Begins.alive : p.ending = none := by
  cases hending : p.ending with
  | none => rfl
  | some ending =>
      have hnothing := h.sound.ended p h.mem (by rw [hending]; rfl)
      have hstdin := h.stdin
      rw [hnothing, Table.get?_nil] at hstdin
      exact absurd hstdin (by simp)

/-- Where the name of the target is no path, the line is refused. -/
theorem Begins.lost {target : Target} (htarget : pipeline.target = some target) {word : NulWord}
    (hpath : cleanBytes target.path = .error word) : Lost p.pid start := by
  refine ⟨h.sound.numbered p h.mem, fun q hq hsame => ?_⟩
  rw [h.sound.distinct.eq_of_pid h.mem hq hsame, h.program, runLine_eq h.parsed h.programs]
  unfold probing
  rw [htarget]
  dsimp only
  rw [hpath]
  exact forsaken_refusing _ _

theorem Begins.ready (hclean : Clean pipeline) : (h.toScene filters).Ready := by
  have haims : (pipeline.target = none ∧ (h.toScene filters).target = none) ∨ ∃ target path,
      pipeline.target = some target ∧ cleanBytes target.path = .ok path ∧
        (h.toScene filters).target = some (path, target.mode) := by
    cases htarget : pipeline.target with
    | none =>
        exact .inl ⟨rfl, h.target_toScene_of_none htarget⟩
    | some target =>
        obtain ⟨path, hpath⟩ := hclean target htarget
        exact .inr ⟨target, path, rfl, hpath, h.target_toScene htarget hpath⟩
  have htarget : ∀ path mode, (h.toScene filters).target = some (path, mode) → ownFile? path = none ∧
      ∀ id, start.files.find p.directory path = .ok id →
        (∃ bytes, start.files.bytesOf? id = some bytes) ∧
          ∀ entry ∈ p.table, entry.2.handle.endpoint ≠ .node id := by
    intro path mode hsome
    rcases haims with ⟨-, hnone⟩ | ⟨target, path', htarget, hpath, hsome'⟩
    · exact absurd (hsome.symm.trans hnone) (by simp)
    · cases hsome.symm.trans hsome'
      exact h.target target path htarget hpath
  have hheard : (h.toScene filters).target = none → ∀ pipe, output.endpoint = .pipeWriter pipe →
      p.table.holds (.pipeReader pipe) = true ∨ ∃ q ∈ start.processes,
        q.pid ≠ p.pid ∧ q.table.holds (.pipeReader pipe) = true := by
    intro hnone pipe hend
    have hpipeline : pipeline.target = none := by
      rcases haims with ⟨hpipeline, -⟩ | ⟨_, _, -, -, hsome⟩
      · exact hpipeline
      · exact absurd (hnone.symm.trans hsome) (by simp)
    obtain ⟨q, hq, hholds⟩ := List.any_eq_true.mp ((h.takes hpipeline).2 pipe hend)
    by_cases hsame : q.pid = p.pid
    · exact .inl (h.sound.distinct.eq_of_pid h.mem hq hsame ▸ hholds)
    · exact .inr ⟨q, hq, hsame, hholds⟩
  exact {
    wide := h.width_toScene filters ▸ stages_pos h.parsed
    shell := h.sound.numbered p h.mem
    numbered := h.sound.numbered
    ordered := h.sound.ordered p h.mem
    stdin := h.stdin
    stdout := h.stdout
    readable := h.readable
    pipes := h.sound.pipes p h.mem
    heard := hheard
    nodes := h.sound.nodes p h.mem
    cells := h.sound.cells p h.mem
    programs := by
      unfold toScene
      dsimp only
      cases pipeline.stages.mapM Stage.argumentBytes with
      | ok programs => exact .inl rfl
      | error word => exact .inr ⟨word, rfl⟩
    aims := haims
    own := fun path mode hsome => (htarget path mode hsome).1
    regular := fun path mode hsome => (htarget path mode hsome).2 }

theorem Begins.early (hclean : Clean pipeline) : Early (h.toScene filters) start := by
  have hprogram := h.program.trans (runLine_eq h.parsed h.programs)
  refine ⟨⟨⟨h.sound.distinct, h.sound.numbered⟩, rfl, rfl, Nat.le_refl _, fun q hq _ => hq,
    h.supplied, fun hnone => ?_⟩, p, h.mem, rfl, h.alive, rfl, h.apart, ?_⟩
  · refine (h.takes ?_).1
    cases htarget : pipeline.target with
    | none => rfl
    | some target =>
        obtain ⟨path, hpath⟩ := hclean target htarget
        exact absurd (hnone.symm.trans (h.target_toScene htarget hpath)) (by simp)
  · unfold probing at hprogram
    cases htarget : pipeline.target with
    | none =>
        rw [htarget] at hprogram
        refine .flushing hprogram rfl fun path mode hsome => ?_
        exact absurd (hsome.symm.trans (h.target_toScene_of_none htarget)) (by simp)
    | some target =>
        obtain ⟨path, hpath⟩ := hclean target htarget
        rw [htarget] at hprogram
        dsimp only at hprogram
        rw [hpath] at hprogram
        exact .probing (h.target_toScene htarget hpath) hprogram rfl .refl fun _ => rfl

/-- Whatever happens on the way, a line of filters for which every stage has become its filter and
which the shell says has been run is one whose output has arrived. -/
theorem Begins.arrived (hrun : Run launch filters p.pid start became log s)
    (hbecame : ∀ stage, stage < pipeline.stages.length → start.nextPid + stage ∈ became)
    (hq : q ∈ s.processes) (hpid : q.pid = p.pid) {report : Report} {later : Environment}
    (hprogram : q.program = .pure (.ok (.completed report), later)) :
    Clean pipeline ∧ ∃ dest, Arrived (h.toScene filters) dest log s := by
  have hnumbered : Numbered start := ⟨h.sound.distinct, h.sound.numbered⟩
  by_cases hclean : Clean pipeline
  · refine ⟨hclean, ?_⟩
    have hreached : Reached (h.toScene filters) became log s :=
      Run.reached hrun (h.ready hclean) (h.early hclean)
    refine hreached.arrived_of_completed (hrun.numbered hnumbered) ?_ hq hpid hprogram
    rw [h.width_toScene]
    exact hbecame
  · refine absurd (fun target htarget => ?_) hclean
    cases hpath : cleanBytes target.path with
    | ok path => exact ⟨path, rfl⟩
    | error word =>
        have hforsaken := (hrun.lost hnumbered (h.lost htarget hpath)).2 q hq hpid
        rw [hprogram] at hforsaken
        cases hforsaken with
        | finished hnot => exact absurd rfl (hnot report)

end Whole

/-! ## The output -/

/-- Where the last stage writes to: the standard output, or the file that the target of the line
leads to. -/
def Destination (pipeline : Pipeline) (files : Files) (directory : NodeId) (output handle : Handle) :
    Prop :=
  match pipeline.target with
  | none => handle = output
  | some target => ∃ path id, cleanBytes target.path = .ok path ∧
      files.find directory path = .ok id ∧ handle.endpoint = .node id

/-- When the shell says that a line has been run whose programs are filters, the last stage has
handed over what the filters make of the standard input one after the other, once. Every stage has
written to the pipe to the next stage, and the last one to the standard output or to the target and
to nothing else. The target holds the output, behind what it held before the line if it is not to be
truncated. -/
theorem output_of_completed {shell : Shell} {environment later : Environment} {line : String}
    {pipeline : Pipeline} {start : System Answer} {input output : Handle} {supply : Bytes}
    {filters : Nat → Filter} {report : Report}
    (hstart : Begins shell environment line pipeline start p input output supply)
    (hrun : Run launch filters p.pid start became log s)
    (hbecame : ∀ stage, stage < pipeline.stages.length → start.nextPid + stage ∈ became)
    (hq : q ∈ s.processes) (hpid : q.pid = p.pid)
    (hprogram : q.program = .pure (.ok (.completed report), later)) :
    received log (start.nextPid + (pipeline.stages.length - 1)) =
      through filters supply pipeline.stages.length ∧
    (∀ delivery ∈ log, ∃ stage, delivery.pid = start.nextPid + stage ∧
      (stage + 1 < pipeline.stages.length ∧
          delivery.handle.endpoint = .pipeWriter (start.pipes.length + stage) ∨
        stage + 1 = pipeline.stages.length ∧
          Destination pipeline s.files p.directory output delivery.handle)) ∧
    ∀ target, pipeline.target = some target → ∃ path, cleanBytes target.path = .ok path ∧
      s.files.contentOf p.directory path = (match target.mode with
        | .truncate => []
        | .append => start.files.contentOf p.directory path) ++
          through filters supply pipeline.stages.length := by
  obtain ⟨hclean, dest, harrived⟩ := hstart.arrived hrun hbecame hq hpid hprogram
  have hwidth := hstart.width_toScene filters
  have hfilled := harrived.filled
  rw [hwidth] at hfilled
  refine ⟨hwidth ▸ harrived.received, fun delivery hdelivery => ?_, fun target htarget => ?_⟩
  · obtain ⟨stage, -, hfrom, hwrites⟩ := harrived.led delivery hdelivery
    refine ⟨stage, hfrom, ?_⟩
    unfold Scene.Writes at hwrites
    rw [hwidth] at hwrites
    refine hwrites.imp (fun ⟨hlt, hend, _⟩ => ⟨hlt, hend⟩) fun ⟨hlast, hdest⟩ => ⟨hlast, ?_⟩
    unfold Destination
    unfold Filled at hfilled
    cases htarget : pipeline.target with
    | none =>
        rw [hstart.target_toScene_of_none htarget] at hfilled
        exact hdest.trans hfilled
    | some target =>
        obtain ⟨path, hpath⟩ := hclean target htarget
        rw [hstart.target_toScene htarget hpath] at hfilled
        obtain ⟨id, hend, hleads, -⟩ := hfilled
        exact ⟨path, id, hpath, hleads.find, hdest ▸ hend⟩
  · obtain ⟨path, hpath⟩ := hclean target htarget
    refine ⟨path, hpath, ?_⟩
    unfold Filled at hfilled
    rw [hstart.target_toScene htarget hpath] at hfilled
    obtain ⟨id, -, hleads, hbytes, -⟩ := hfilled
    rw [show s.files.contentOf p.directory path = _ from hleads.contentOf,
      Files.bytesAt_of_bytesOf? hbytes]
    unfold Scene.base
    rw [hstart.target_toScene htarget hpath]
    cases target.mode <;> rfl

/-! ## Following a schedule -/

/-- Who is next to make a step. -/
inductive Turn where
  /-- The time passes. -/
  | time
  /-- The shell. -/
  | shell
  /-- The process of a stage. -/
  | stage (stage : Nat)

/-- What a run has come to. -/
structure Trace where
  /-- The processes that have become other programs. -/
  became : List Pid
  /-- What the stages have handed over. -/
  log : List Delivery
  /-- The machine. -/
  last : System Answer

/-- Whose turn it is makes a step, if it can make one. -/
def Trace.next (launch : Launcher) (shell : Pid) (start : System Answer) (trace : Trace) :
    Turn → Trace
  | .time => { trace with last := trace.last.setClock (trace.last.clock + startingTime) }
  | .shell => { trace with last := (step launch trace.last shell).getD trace.last }
  | .stage stage =>
      match step launch trace.last (start.nextPid + stage) with
      | none => trace
      | some later => {
          became := if (successor? launch trace.last (start.nextPid + stage)).isSome
            then (start.nextPid + stage) :: trace.became else trace.became
          log := trace.log ++ delivered trace.last (start.nextPid + stage)
          last := later }

/-- A run goes on with every turn, where there is nothing to become but the filter of every
stage. -/
theorem Run.next {filter : Filter} {shell : Pid} {start : System Answer} {trace : Trace}
    (hlaunch : ∀ bytes arguments program, launch bytes arguments = some program →
      program = filter.program)
    (hrun : Run launch (fun _ => filter) shell start trace.became trace.log trace.last)
    (turn : Turn) :
    Run launch (fun _ => filter) shell start (trace.next launch shell start turn).became
      (trace.next launch shell start turn).log (trace.next launch shell start turn).last := by
  cases turn with
  | time => exact hrun.tick _
  | shell =>
      unfold Trace.next
      dsimp only
      cases hstep : step launch trace.last shell with
      | none => exact hrun
      | some later => exact hrun.shell hstep
  | stage stage =>
      unfold Trace.next
      dsimp only
      cases hstep : step launch trace.last (start.nextPid + stage) with
      | none => exact hrun
      | some later =>
          refine hrun.stage (fun changed hchanged => ?_) hstep
          obtain ⟨bytes, arguments, program, hprogram, hbecome⟩ := successor?_launched hchanged
          obtain rfl := hlaunch bytes arguments program hprogram
          exact hbecome

theorem Run.follow {filter : Filter} {shell : Pid} {start : System Answer} {trace : Trace}
    (hlaunch : ∀ bytes arguments program, launch bytes arguments = some program →
      program = filter.program)
    (hrun : Run launch (fun _ => filter) shell start trace.became trace.log trace.last)
    (turns : List Turn) :
    Run launch (fun _ => filter) shell start (turns.foldl (Trace.next launch shell start) trace).became
      (turns.foldl (Trace.next launch shell start) trace).log
      (turns.foldl (Trace.next launch shell start) trace).last := by
  induction turns generalizing trace with
  | nil => exact hrun
  | cons turn turns ih => exact ih (hrun.next hlaunch turn)

/-! ## Two filters -/

/-- Puts a star in front of what it is given. -/
def starring : Filter := ⟨fun input => 42 :: input, 0⟩

/-- A shell that runs no command itself. -/
def plainShell : Shell := ⟨{}, []⟩

/-- The same filter twice, and a file for the output to be put behind what it holds. -/
def couple : Pipeline := ⟨[⟨"./f", []⟩, ⟨"./f", []⟩], some ⟨"o", .append⟩⟩

/-- A shell at a terminal that is about to run the two filters. -/
def coupleShell : Process Answer where
  pid := 1
  parent := 0
  program := probing ⟨[47], false⟩ (Text.trimString "./f | ./f >> o") couple
  table := [Fd.stdin, Fd.stdout, Fd.stderr].map fun fd =>
    (fd, ⟨⟨.terminal, { read := true, write := true }, 0⟩, false⟩)
  limit := 64
  directory := Files.root
  bindings := []
  pending := []
  ending := none

/-- A file that can be run, and the file for the output, which holds two bytes. -/
def coupleFiles : Files where
  nodes := [
    { content := .directory Files.root [([102], 1), ([111], 2)], mode := 0o755 },
    { content := .regular [], mode := 0o755 },
    { content := .regular [1, 2], mode := 0o644 }]

/-- A machine with nothing but the shell, where a byte has been typed. -/
def coupleMachine : System Answer where
  files := coupleFiles
  cells := [0]
  pipes := []
  typed := [[7]]
  processes := [coupleShell]
  nextPid := 2

/-- Every file is the filter. -/
def launchStarring : Launcher := fun _ _ => some starring.program

/-- What the machine comes to in turns. -/
def coupleAfter (turns : List Turn) : Trace :=
  turns.foldl (Trace.next launchStarring 1 coupleMachine) ⟨[], [], coupleMachine⟩

/-- The shell starts both stages, these become filters and run, and the shell waits for them. -/
def coupleTurns : List Turn :=
  List.replicate 11 .shell ++ List.replicate 6 (.stage 0) ++ List.replicate 7 (.stage 1) ++
    .time :: List.replicate 5 (.stage 0) ++ List.replicate 5 (.stage 1) ++ List.replicate 3 .shell

theorem run_couple (turns : List Turn) : Run launchStarring (fun _ => starring) 1 coupleMachine
    (coupleAfter turns).became (coupleAfter turns).log (coupleAfter turns).last :=
  Run.follow (fun _ _ _ h => (Option.some.inj h).symm) .start turns

theorem parsed_couple : Pipeline.ofTokens plainShell.config.maxArguments
    (Token.ofLine (Text.trimString "./f | ./f >> o")) = .ok couple := by cbv

theorem name_couple : cleanBytes "o" = .ok [111] := rfl

theorem begins_couple : Begins plainShell ⟨[47], false⟩ "./f | ./f >> o" couple coupleMachine
    coupleShell ⟨.terminal, { read := true, write := true }, 0⟩
    ⟨.terminal, { read := true, write := true }, 0⟩ [7] := by
  have hprograms : couple.simple?.bind plainShell.commands.find? = none := rfl
  refine ⟨.of_terminal rfl (by decide) (by unfold Table.Ordered; decide) rfl (by decide),
    parsed_couple, hprograms, List.mem_cons_self, (runLine_eq parsed_couple hprograms).symm, rfl, rfl,
    rfl, rfl, fun hne => absurd rfl hne, fun hnone => absurd hnone (by simp [couple]), ?_⟩
  rintro target path ⟨⟩ hpath
  obtain rfl : [111] = path := Except.ok.inj (name_couple.symm.trans hpath)
  have hleads : coupleFiles.find Files.root [111] = .ok 2 := by cbv
  refine ⟨by cbv, fun id hfind => ?_⟩
  obtain rfl : 2 = id := Except.ok.inj (hleads.symm.trans hfind)
  exact ⟨⟨[1, 2], rfl⟩, by decide⟩

/-- The shell has come to say that the line has been run. -/
def saysCompleted (p : Process Answer) : Bool :=
  match p.program with
  | .pure (.ok (.completed _), _) => true
  | _ => false

theorem completed_of_says (h : saysCompleted p = true) : ∃ report later,
    p.program = .pure (.ok (.completed report), later) := by
  unfold saysCompleted at h
  split at h
  · rename_i report later hprogram
    exact ⟨report, later, hprogram⟩
  · exact absurd h (by simp)

/-- What has been typed gets two stars, and is put behind what the file held. -/
theorem couple_output :
    received (coupleAfter coupleTurns).log 3 = [42, 42, 7] ∧
      (coupleAfter coupleTurns).last.files.contentOf Files.root [111] = [1, 2, 42, 42, 7] := by
  have hends : ((coupleAfter coupleTurns).became, (coupleAfter coupleTurns).last.processes.map
      fun p => (p.pid, saysCompleted p)) = ([3, 2], [(1, true)]) := by cbv
  obtain ⟨hbecame, hprocesses⟩ := Prod.mk.inj hends
  obtain ⟨q, rest, hlast, hq, -⟩ := List.map_eq_cons_iff.mp hprocesses
  obtain ⟨hpid, hsays⟩ := Prod.mk.inj hq
  obtain ⟨report, later, hprogram⟩ := completed_of_says hsays
  have hstages : ∀ stage, stage < couple.stages.length →
      coupleMachine.nextPid + stage ∈ (coupleAfter coupleTurns).became := by
    rw [hbecame]
    decide
  obtain ⟨hreceived, -, htarget⟩ := output_of_completed begins_couple (run_couple coupleTurns)
    hstages (hlast ▸ List.mem_cons_self) hpid hprogram
  obtain ⟨path, hpath, hcontent⟩ := htarget _ rfl
  obtain rfl : [111] = path := Except.ok.inj (name_couple.symm.trans hpath)
  refine ⟨hreceived, hcontent.trans ?_⟩
  show coupleFiles.contentOf Files.root [111] ++ [42, 42, 7] = _
  cbv

end LineShell.Dataflow
