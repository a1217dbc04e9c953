import LineShell.Proofs.Pipeline.Flow

/-!
# A line of filters before its pipes are made

What holds in every state from when the shell begins with the line until it makes the first pipe.

* **`Aimed`** — the path of the target leads to a file that nothing else leads to;
* **`EarlyAt`** — where the shell is on its way: at the probe, or at the second opening;
* **`Early.shell_step`** — every step keeps it, unless the shell leaves the way, or is about to
  make the pipes (`Flow`).
-/

namespace LineShell.Dataflow

open LineShell.System LineShell.Course Prog

variable {launch : Launcher} {scene : Scene} {dest handle : Handle} {s s' after : System Answer}
  {pid : Pid} {p q : Process Answer} {files later : Files} {path : Bytes} {mode : WriteMode}
  {id : NodeId}

/-! ## The target -/

/-- Nothing that the shell had open before leads to a node. -/
def Scene.Spares (scene : Scene) (id : NodeId) : Prop :=
  ∀ entry ∈ scene.before, entry.2.handle.endpoint ≠ .node id

/-- The path of the target leads to a regular file that nothing else leads to. If more is to come
behind what it holds, it holds what it held in the beginning. -/
def Aimed (scene : Scene) (files : Files) : Prop :=
  ∀ path mode, scene.target = some (path, mode) → ∃ id old,
    Files.Leads files scene.directory path id ∧ files.bytesOf? id = some old ∧
      (mode = .append → old = scene.base) ∧ scene.Spares id

theorem Aimed.congr (h : Aimed scene files) (halike : Files.Alike files later)
    (hnode : ∀ id, scene.Spares id → later.node? id = files.node? id) : Aimed scene later := by
  intro path mode htarget
  obtain ⟨id, old, hleads, hold, hbase, hspares⟩ := h path mode htarget
  refine ⟨id, old, hleads.alike halike, ?_, hbase, hspares⟩
  unfold Files.bytesOf?
  rw [hnode id hspares]
  exact hold

/-- What a shell that begins with a line has, and what the line asks for. -/
structure Scene.Ready (scene : Scene) : Prop extends Scene.Fits scene where
  nodes : ∀ entry ∈ scene.before, ∀ id, entry.2.handle.endpoint = .node id →
    id < scene.start.files.nodes.length
  cells : ∀ entry ∈ scene.before, entry.2.handle.cell < scene.start.cells.length
  programs : scene.pipeline.stages.mapM Stage.argumentBytes = .ok scene.programs ∨
    ∃ word, scene.pipeline.stages.mapM Stage.argumentBytes = .error word
  aims : (scene.pipeline.target = none ∧ scene.target = none) ∨ ∃ target path,
    scene.pipeline.target = some target ∧ cleanBytes target.path = .ok path ∧
      scene.target = some (path, target.mode)
  own : ∀ path mode, scene.target = some (path, mode) → ownFile? path = none
  regular : ∀ path mode, scene.target = some (path, mode) → ∀ id,
    scene.start.files.find scene.directory path = .ok id →
      (∃ bytes, scene.start.files.bytesOf? id = some bytes) ∧ scene.Spares id

/-- A node that there was not yet is none that the shell had open. -/
theorem Scene.Ready.spares (hready : scene.Ready)
    (h : scene.start.files.node? id = none) : scene.Spares id := by
  intro entry hentry hend
  have hlt := hready.nodes entry hentry id hend
  exact absurd (List.getElem?_eq_none_iff.mp h) (Nat.not_le_of_lt hlt)

theorem access_create : mode.access.create = true ∧ mode.access.exclusive = false ∧
    mode.access.write = true := by
  cases mode <;> exact ⟨rfl, rfl, rfl⟩

/-- The probe leaves the path of the target leading to a file that nothing else leads to. -/
theorem aimed_of_openPath (hready : scene.Ready) (htarget : scene.target = some (path, mode))
    (halike : Files.Alike scene.start.files files)
    (hnode : ∀ id, files.node? id = scene.start.files.node? id) {mask : Nat}
    (h : files.openPath scene.directory path mode.access mask = .ok (id, later)) :
    Aimed scene later ∧ scene.Spares id := by
  have hbytes : ∀ id, files.bytesOf? id = scene.start.files.bytesOf? id := by
    intro id
    unfold Files.bytesOf?
    rw [hnode]
  have hbase : mode = .append → scene.base =
      scene.start.files.contentOf scene.directory path := by
    rintro rfl
    unfold Scene.base
    rw [htarget]
  rcases Files.openPath_leads access_create.1 access_create.2.1 h with
    ⟨hleads, rfl⟩ | ⟨hmissing, hleads, directory, entry, hentered⟩
  · have hfind : scene.start.files.find scene.directory path = .ok id :=
      halike.find.symm.trans hleads.find
    obtain ⟨⟨old, hold⟩, hspares⟩ := hready.regular path mode htarget id hfind
    refine ⟨?_, hspares⟩
    intro path' mode' htarget'
    cases htarget.symm.trans htarget'
    refine ⟨id, _, hleads.alike Files.alike_afterOpening,
      Files.bytesOf?_afterOpening ((hbytes id).trans hold), ?_, hspares⟩
    intro happend
    rw [hbase happend, happend]
    unfold Files.contentOf
    rw [hfind]
    exact (Files.bytesAt_of_bytesOf? hold).symm
  · have hspares := hready.spares ((hnode id).symm.trans hentered.fresh)
    refine ⟨?_, hspares⟩
    intro path' mode' htarget'
    cases htarget.symm.trans htarget'
    refine ⟨id, [], hleads, hentered.regular, ?_, hspares⟩
    intro happend
    rw [hbase happend]
    unfold Files.contentOf
    rw [show scene.start.files.find scene.directory path = .error .noEntry from
      halike.find.symm.trans hmissing]

/-! ## The invariant -/

/-- No stage has been started yet and no pipe has been made, and the standard input still gives what
it gave. -/
structure Calm (scene : Scene) (s : System Answer) : Prop where
  numbered : Numbered s
  next : s.nextPid = scene.origin
  pipes : s.pipes.length = scene.first
  cells : scene.start.cells.length ≤ s.cells.length
  bystanders : ∀ p ∈ scene.start.processes, p.pid ≠ scene.shell → p ∈ s.processes
  supplied : s.supply? scene.input = some scene.supply
  direct : scene.target = none → s.Takes scene.output

/-- Where the shell is on its way to the first pipe, and what is in its table there. -/
inductive EarlyAt (scene : Scene) (s : System Answer) (p : Process Answer) : Prop
  | probing {path : Bytes} {mode : WriteMode} : scene.target = some (path, mode) →
      p.program = .ask (.openPath path mode.access true) interrupted
        (probed scene.environment scene.text scene.pipeline) →
      p.table = scene.before → Files.Alike scene.start.files s.files →
      (∀ id, s.files.node? id = scene.start.files.node? id) → EarlyAt scene s p
  | closing {fd : Fd} {descriptor : Descriptor} : p.program = .ask (.close fd) (fun _ => false)
        (fun _ => running scene.environment scene.text scene.pipeline) →
      p.table = scene.before.set fd descriptor → scene.before.get? fd = none →
      Aimed scene s.files → EarlyAt scene s p
  | flushing : p.program = running scene.environment scene.text scene.pipeline →
      p.table = scene.before → Aimed scene s.files → EarlyAt scene s p
  | opening {path : Bytes} {mode : WriteMode} {failure : Errno → ExecFailure} :
      scene.target = some (path, mode) →
      p.program = .ask (.openPath path mode.access true) interrupted
        (opened scene.text (finishing scene.environment) scene.programs failure) →
      p.table = scene.before → p.pending = [] → Aimed scene s.files → EarlyAt scene s p

/-- What holds before the first pipe is made: of the shell, and of the streams that it hands to the
stages. -/
structure Early (scene : Scene) (s : System Answer) : Prop extends Calm scene s where
  onShell : ∃ p ∈ s.processes, p.pid = scene.shell ∧ p.ending = none ∧
    p.directory = scene.directory ∧
    (p.pending ≠ [] → s.Apart scene.input scene.output) ∧ EarlyAt scene s p

theorem Calm.move (h : Calm scene s) (hnumbered : Numbered (after.setProcess q))
    (hp : q.pid = scene.shell) (hprocesses : after.processes = s.processes)
    (hnext : after.nextPid = s.nextPid) (hpipes : after.pipes.length = s.pipes.length)
    (hcells : s.cells.length ≤ after.cells.length)
    (hsupply : after.supply? scene.input = s.supply? scene.input)
    (hdirect : scene.target = none → after.Takes scene.output) : Calm scene (after.setProcess q) := by
  refine ⟨hnumbered, hnext.trans h.next, hpipes.trans h.pipes, Nat.le_trans h.cells hcells,
    fun old hold hne => ?_, hsupply.trans h.supplied, hdirect⟩
  refine mem_setProcess.mpr (.inr ⟨?_, hp ▸ hne⟩)
  rw [hprocesses]
  exact h.bystanders old hold hne

/-- Nothing has changed but the shell. -/
theorem Calm.still (h : Calm scene s) (hnumbered : Numbered (s.setProcess q))
    (hp : q.pid = scene.shell) : Calm scene (s.setProcess q) :=
  h.move hnumbered hp rfl rfl rfl (Nat.le_refl _) rfl h.direct

/-- The machine in which a path has been opened. -/
def withOpened (s : System Answer) (files : Files) : System Answer :=
  { s with files := files, cells := s.cells ++ [0] }

/-- Opening the target leaves what the standard input leads to. -/
theorem node?_input (hready : scene.Ready) (h : Calm scene s) (hspares : scene.Spares id)
    {mask : Nat} (hopen : s.files.openPath scene.directory path mode.access mask = .ok (id, files))
    {other : NodeId} (hend : scene.input.endpoint = .node other) :
    files.node? other = s.files.node? other := by
  refine Files.node?_of_openPath access_create.1 access_create.2.1 hopen ?_ ?_
  · rintro rfl
    exact hspares _ (Table.mem_of_get? hready.stdin) hend
  · intro parent entries hcontent
    have hsupplied := h.supplied
    unfold supply? at hsupplied
    rw [hend] at hsupplied
    simp only [hcontent] at hsupplied
    exact absurd hsupplied (by simp)

/-- Opening the target leaves what the standard input gives. -/
theorem Calm.opened (h : Calm scene s) (hready : scene.Ready) (hspares : scene.Spares id)
    (htarget : scene.target = some (path, mode)) {mask : Nat}
    (hopen : s.files.openPath scene.directory path mode.access mask = .ok (id, files))
    (hnumbered : Numbered ((withOpened s files).setProcess q)) (hp : q.pid = scene.shell) :
    Calm scene ((withOpened s files).setProcess q) := by
  refine h.move hnumbered hp rfl rfl rfl ?_ ?_ fun hnone => ?_
  · show s.cells.length ≤ (s.cells ++ [0]).length
    simp
  · refine supply?_congr (fun other hend => ?_) (fun _ => rfl) (fun _ _ => rfl) fun _ _ _ => ?_
    · rw [show (withOpened s files).files.node? other = _ from
        node?_input hready h hspares hopen hend]
    · exact position_append rfl (by simp)
  · exact absurd (htarget.symm.trans hnone) (by simp)

/-! ## The first pipe -/

/-- Nothing has flowed when the shell is about to make the first pipe. -/
theorem flow_of_calm (hready : scene.Ready) (h : Calm scene s) {plumbing : Plumbing}
    (hp : p ∈ s.processes) (hpid : p.pid = scene.shell) (halive : p.ending = none)
    (hat : ShellIs scene dest plumbing s p) (htakes : s.Takes dest)
    (hsunk : Sunk scene dest [] s) :
    Flow scene dest plumbing (fun _ => .fresh) [] [] s := by
  have hcell : scene.input.cell < s.cells.length :=
    Nat.lt_of_lt_of_le (hready.cells _ (Table.mem_of_get? hready.stdin)) h.cells
  have hnone : ∀ stage, ¬scene.origin + stage < s.nextPid := by
    intro stage
    rw [h.next]
    exact Nat.not_lt_of_le (Nat.le_add_right _ _)
  refine ⟨h.numbered, fun pid hin => absurd hin List.not_mem_nil, Nat.le_of_eq h.next.symm, ?_,
    h.bystanders, fun hlt => absurd hlt (hnone 0), ⟨p, hp, hpid, halive, hat⟩,
    fun stage hlt => absurd hlt (hnone stage), fun _ _ => rfl, ?_⟩
  · rw [h.next]
    exact Nat.le_add_right _ _
  · refine ⟨fun stage _ => ?_, fun _ => ⟨_, h.supplied, rfl⟩, fun _ _ => rfl,
      fun _ hphase => absurd rfl hphase, fun _ hphase => absurd rfl hphase,
      fun _ hphase => absurd hphase (by simp [Progress.fresh]), fun _ => rfl,
      fun _ hin => absurd hin List.not_mem_nil, htakes, hcell, hsunk⟩
    show [] ++ s.queue (scene.first + stage) = []
    unfold queue
    rw [List.getD_eq_getElem?_getD, List.getElem?_eq_none]
    · rfl
    · rw [h.pipes]
      exact Nat.le_add_right _ _

/-- A shell that runs the pipeline is about to open the target or to make the pipes, or has left the
way. -/
theorem executing_cases (hready : scene.Ready) (h : Calm scene (after.setProcess q))
    (hself : q ∈ (after.setProcess q).processes) (hpid : q.pid = scene.shell)
    (halive : q.ending = none) (hdirectory : q.directory = scene.directory)
    (hprogram : q.program =
      ((execute scene.pipeline scene.text).bind (finishing scene.environment)))
    (htable : q.table = scene.before) (hpending : q.pending = []) (haimed : Aimed scene after.files) :
    Early scene (after.setProcess q) ∨ Lost scene.shell (after.setProcess q) ∨
      ∃ dest plumbing, Flow scene dest plumbing (fun _ => .fresh) [] [] (after.setProcess q) := by
  have hbelow : scene.shell < after.nextPid := hpid ▸ h.numbered.below q hself
  rw [execute_bind] at hprogram
  rcases hready.programs with hprograms | ⟨word, hprograms⟩
  · rw [hprograms] at hprogram
    rcases hready.aims with ⟨hnone, htarget⟩ | ⟨target, path, hsome, hpath, htarget⟩
    · rw [hnone] at hprogram
      have hlaid : LaidOut scene scene.output ⟨[], none⟩ q.table := by
        rw [htable]
        exact .of_none hready.ordered
      refine .inr (.inr ⟨scene.output, ⟨[], none⟩, flow_of_calm hready h hself hpid halive
        (shellIs_laying hprogram hlaid hpending (Nat.zero_add _) (fun _ => rfl) h.pipes h.next)
        (h.direct htarget) ?_⟩)
      unfold Sunk
      rw [htarget]
    · rw [hsome] at hprogram
      have hopening := hprogram.trans (opening_some scene.text _ scene.programs target)
      rw [hpath] at hopening
      exact .inl ⟨h, q, hself, hpid, halive, hdirectory, fun hne => absurd hpending hne,
        .opening htarget hopening htable hpending haimed⟩
  · rw [hprograms] at hprogram
    exact .inr (.inl (lost_setProcess hbelow hpid hprogram (forsaken_finishing _ _)))

/-- A target that has been opened is where the last stage is to write. -/
theorem sunk_of_opened (hready : scene.Ready) (h : Calm scene s)
    (htarget : scene.target = some (path, mode)) (haimed : Aimed scene s.files) {mask : Nat}
    (hopen : s.files.openPath scene.directory path mode.access mask = .ok (id, files)) :
    scene.Spares id ∧ Sunk scene ⟨.node id, mode.access, s.cells.length⟩ [] (withOpened s files) ∧
      (withOpened s files).Takes ⟨.node id, mode.access, s.cells.length⟩ := by
  obtain ⟨aimed, old, hleads, hold, hbase, hspares⟩ := haimed path mode htarget
  obtain ⟨rfl, rfl⟩ := Files.openPath_of_leads access_create.1 access_create.2.1 hleads hopen
  have hbytes : (s.files.afterOpening mode.access id).bytesOf? id =
      some (if mode.access.truncate then [] else old) := Files.bytesOf?_afterOpening hold
  have hcell : s.cells.length ≠ scene.input.cell := Nat.ne_of_gt (Nat.lt_of_lt_of_le
    (hready.cells _ (Table.mem_of_get? hready.stdin)) h.cells)
  refine ⟨hspares, ?_, access_create.2.2, .inl ⟨_, hbytes⟩⟩
  · unfold Sunk
    rw [htarget]
    refine ⟨id, rfl, rfl, hleads.alike Files.alike_afterOpening, ?_, fun _ => ?_, ?_, hcell, hspares⟩
    · rw [List.append_nil]
      refine hbytes.trans (congrArg some ?_)
      cases mode with
      | truncate =>
          show [] = scene.base
          unfold Scene.base
          rw [htarget]
      | append => exact hbase rfl
    · show (s.cells ++ [0]).getD s.cells.length 0 = 0
      simp
    · show s.cells.length < (s.cells ++ [0]).length
      simp

/-! ## Steps -/

/-- What the shell writes that it had held back leaves what the standard input gives. -/
theorem flushed_cases (hready : scene.Ready) (h : Calm scene s) (htable : p.table = scene.before)
    (hapart : s.Apart scene.input scene.output) {bytes : Bytes} {reply : Except Errno Bytes}
    (hwrite : s.writeSome p.table Fd.stdout bytes = some (reply, after)) :
    after.supply? scene.input = s.supply? scene.input ∧ Files.Alike s.files after.files ∧
      ∀ id, scene.Spares id → after.files.node? id = s.files.node? id := by
  rw [htable] at hwrite
  have hpipe : ∀ descriptor, scene.before.get? Fd.stdout = some descriptor → ∀ pipe,
      descriptor.handle.endpoint = .pipeWriter pipe → pipe < s.pipes.length := by
    intro descriptor hget pipe hend
    rw [h.pipes]
    exact hready.pipes _ (Table.mem_of_get? hget) pipe (.inr hend)
  rcases writeSome_cases hpipe hwrite with rfl | ⟨descriptor, chunk, hget, hpoured⟩
  · exact ⟨rfl, .refl, fun _ _ => rfl⟩
  · cases hready.stdout.symm.trans hget
    refine ⟨hpoured.supply? hapart, hpoured.alike, fun id hspares => hpoured.node? id ?_⟩
    exact hspares _ (Table.mem_of_get? hready.stdout)

section Shell

variable (h : Early scene s) (hready : scene.Ready) (hp : s.process? scene.shell = some p)
  (hactive : p.active = true) (hstep : step launch s scene.shell = some s')

include h hready hp hactive hstep

/-- The shell probes the target: it has a number for it then, asks once more, or refuses the
line. -/
theorem Early.probing_step (hdirectory : p.directory = scene.directory)
    (hpending : p.pending ≠ [] → s.Apart scene.input scene.output)
    (htarget : scene.target = some (path, mode))
    (hprogram : p.program = .ask (.openPath path mode.access true) interrupted
      (probed scene.environment scene.text scene.pipeline))
    (htable : p.table = scene.before) (halike : Files.Alike scene.start.files s.files)
    (hnode : ∀ id, s.files.node? id = scene.start.files.node? id) :
    Early scene s' ∨ Lost scene.shell s' := by
  obtain ⟨hmem, hpid⟩ := mem_of_process? hp
  have halive := ending_of_active hactive
  have hnumbered := h.numbered.step hstep
  obtain ⟨reply, answered, after, hopened, rfl⟩ := step_openPath hp hactive hstep hprogram
  cases hopened with
  | @refused errno =>
      cases hretry : interrupted (.error errno) with
      | true =>
          exact .inl ⟨h.still hnumbered hpid, _, mem_setProcess_self hmem rfl, hpid, halive,
            hdirectory, hpending, .probing htarget (if_pos hretry) htable halike hnode⟩
      | false =>
          exact .inr (lost_setProcess (hpid ▸ h.numbered.below p hmem) hpid
            (if_neg (by simp [hretry])) (forsaken_refusing _ _))
  | opened _ hendpoint =>
      obtain ⟨id, hfiles, rfl⟩ := endpointAt_of_ownFile? (hready.own path mode htarget) hendpoint
      rw [hdirectory] at hfiles
      obtain ⟨haimed, hspares⟩ := aimed_of_openPath hready htarget halike hnode hfiles
      refine .inl ⟨h.opened hready hspares htarget hfiles hnumbered hpid, _,
        mem_setProcess_self hmem rfl, hpid, halive, hdirectory, fun hne => ?_,
        .closing rfl (congrArg (Table.set _ _) htable) ?_ haimed⟩
      · refine (hpending hne).congr fun other hend hregular => ?_
        unfold Files.bytesOf? at hregular ⊢
        rw [← node?_input hready h.toCalm hspares hfiles hend]
        exact hregular
      · rw [htable]
        exact hready.ordered.get?_free

/-- The shell hands over what it has held back, and runs the pipeline once nothing is left. -/
theorem Early.flushing_step (hdirectory : p.directory = scene.directory)
    (hpending : p.pending ≠ [] → s.Apart scene.input scene.output)
    (hprogram : p.program = running scene.environment scene.text scene.pipeline)
    (htable : p.table = scene.before) (haimed : Aimed scene s.files) :
    Early scene s' ∨ Lost scene.shell s' ∨
      ∃ dest plumbing, Flow scene dest plumbing (fun _ => .fresh) [] [] s' := by
  obtain ⟨hmem, hpid⟩ := mem_of_process? hp
  have halive := ending_of_active hactive
  have hnumbered := h.numbered.step hstep
  cases hempty : p.pending.isEmpty with
  | true =>
      cases hstep.symm.trans (step_flush_of_isEmpty hp hactive hprogram hempty)
      exact executing_cases hready (h.still hnumbered hpid) (mem_setProcess_self hmem rfl) hpid
        halive hdirectory rfl htable (List.isEmpty_iff.mp hempty) haimed
  | false =>
      have hne : p.pending ≠ [] := by simpa using hempty
      rw [step_flush hp hactive hprogram hempty, Option.map_eq_some_iff] at hstep
      obtain ⟨⟨reply, after⟩, hwrite, rfl⟩ := hstep
      have hquiet := quiet_writeSome hwrite
      have hthere := hquiet.processes.symm ▸ hmem
      obtain ⟨hsupply, halike, hnode⟩ := flushed_cases hready h.toCalm htable (hpending hne) hwrite
      have hcalm : ∀ {changed : Process Answer}, changed.pid = scene.shell →
          Numbered (after.setProcess changed) → Calm scene (after.setProcess changed) :=
        fun hchanged hnumbered => h.move hnumbered hchanged hquiet.processes hquiet.nextPid
          hquiet.pipes (Nat.le_of_eq hquiet.cells.symm) hsupply
          fun hnone => (h.direct hnone).alike halike
      have haimed := haimed.congr halike hnode
      cases reply with
      | error errno =>
          exact executing_cases hready (hcalm hpid hnumbered) (mem_setProcess_self hthere rfl) hpid
            halive hdirectory rfl htable rfl haimed
      | ok left =>
          exact .inl ⟨hcalm hpid hnumbered, _, mem_setProcess_self hthere rfl, hpid, halive,
            hdirectory, fun _ => (hpending hne).alike halike, .flushing hprogram htable haimed⟩

/-- The shell opens the target for the last stage: it is about to make the pipes then, asks once
more, or fails. -/
theorem Early.opening_step (hdirectory : p.directory = scene.directory)
    (hpending : p.pending ≠ [] → s.Apart scene.input scene.output) {failure : Errno → ExecFailure}
    (htarget : scene.target = some (path, mode))
    (hprogram : p.program = .ask (.openPath path mode.access true) interrupted
      (opened scene.text (finishing scene.environment) scene.programs failure))
    (htable : p.table = scene.before) (hnothing : p.pending = []) (haimed : Aimed scene s.files) :
    Early scene s' ∨ Lost scene.shell s' ∨
      ∃ dest plumbing, Flow scene dest plumbing (fun _ => .fresh) [] [] s' := by
  obtain ⟨hmem, hpid⟩ := mem_of_process? hp
  have halive := ending_of_active hactive
  have hnumbered := h.numbered.step hstep
  obtain ⟨reply, answered, after, hopened, rfl⟩ := step_openPath hp hactive hstep hprogram
  cases hopened with
  | @refused errno =>
      cases hretry : interrupted (.error errno) with
      | true =>
          exact .inl ⟨h.still hnumbered hpid, _, mem_setProcess_self hmem rfl, hpid, halive,
            hdirectory, hpending, .opening htarget (if_pos hretry) htable hnothing haimed⟩
      | false =>
          exact .inr (.inl (lost_setProcess (hpid ▸ h.numbered.below p hmem) hpid
            (if_neg (by simp [hretry])) (forsaken_finishing _ _)))
  | opened _ hendpoint =>
      obtain ⟨id, hfiles, rfl⟩ := endpointAt_of_ownFile? (hready.own path mode htarget) hendpoint
      rw [hdirectory] at hfiles
      obtain ⟨hspares, hsunk, htakes⟩ := sunk_of_opened hready h.toCalm htarget haimed hfiles
      refine .inr (.inr ⟨_, ⟨[], some p.table.free⟩, flow_of_calm hready
        (h.opened hready hspares htarget hfiles hnumbered hpid) (mem_setProcess_self hmem rfl) hpid
        halive (shellIs_laying rfl ?_ hnothing (Nat.zero_add _)
          (fun hnone => absurd hnone (by simp)) h.pipes h.next) htakes hsunk⟩)
      rw [htable]
      exact .of_target hready.ordered hready.ordered.get?_free rfl

end Shell

/-- A step of the shell brings it further on its way, unless it leaves the way or is about to make
the pipes. -/
theorem Early.shell_step (h : Early scene s) (hready : scene.Ready)
    (hstep : step launch s scene.shell = some s') :
    Early scene s' ∨ Lost scene.shell s' ∨
      ∃ dest plumbing, Flow scene dest plumbing (fun _ => .fresh) [] [] s' := by
  obtain ⟨p, hp, hactive⟩ := process?_of_step hstep
  obtain ⟨hmem, hpid⟩ := mem_of_process? hp
  obtain ⟨q, hq, hsame, halive, hdirectory, hpending, hat⟩ := h.onShell
  obtain rfl : q = p := h.numbered.distinct.eq_of_process? hp hq hsame
  cases hat with
  | probing htarget hprogram htable halike hnode =>
      exact (h.probing_step hready hp hactive hstep hdirectory hpending htarget hprogram htable
        halike hnode).imp_right .inl
  | closing hprogram htable hfree haimed =>
      have hnumbered := h.numbered.step hstep
      cases hstep.symm.trans (step_close hp hactive hprogram)
      refine .inl ⟨h.still hnumbered hpid, _, mem_setProcess_self hmem rfl, hpid, halive, hdirectory,
        hpending, .flushing rfl ?_ haimed⟩
      show q.table.erase _ = _
      rw [htable, Table.erase_set hfree]
  | flushing hprogram htable haimed =>
      exact h.flushing_step hready hp hactive hstep hdirectory hpending hprogram htable haimed
  | opening htarget hprogram htable hnothing haimed =>
      exact h.opening_step hready hp hactive hstep hdirectory hpending htarget hprogram htable
        hnothing haimed

end LineShell.Dataflow
