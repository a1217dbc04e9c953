import LineShell.Proofs.Pipeline.Filters

/-!
# What has flowed

How far the stages of a line of filters have come, and what that says of the pipes and of the
files between them.

* **`Scene`** — what a line starts from, and what it is to do;
* **`Progress`** — what a stage has read and written, and whether it still does;
* **`Paced`** — a stage stops reading when the stage in front of it has written everything, and is
  done when it has written what it has to;
* **`Streams`** — what a stage has read, and what waits in its pipe, is what the stage in front of
  it has written;
* **`Streams.read`, `Streams.write`** — a stage that reads or writes keeps it so.
-/

namespace LineShell.Dataflow

open LineShell.System

/-! ## Scenes -/

/-- What a line of filters starts from, and what it is to do. -/
structure Scene where
  /-- The machine. -/
  start : System Course.Answer
  /-- The shell. -/
  shell : Pid
  /-- What lasts from earlier lines. -/
  environment : Environment
  /-- The text of the line. -/
  text : String
  /-- What the line spells. -/
  pipeline : Pipeline
  /-- The arguments of the stages. -/
  programs : List (List Bytes)
  /-- What the stages become. -/
  filters : Nat → Filter
  /-- The open files of the shell. -/
  before : Table
  /-- The directory of the shell. -/
  directory : NodeId
  /-- The standard input. -/
  input : Handle
  /-- The standard output. -/
  output : Handle
  /-- What the standard input gives. -/
  supply : Bytes
  /-- The file for the output: its path, and what becomes of what it holds. -/
  target : Option (Bytes × WriteMode)

namespace Scene

variable (scene : Scene)

/-- The number of the first stage. -/
def origin : Pid := scene.start.nextPid

/-- The first of the pipes. -/
def first : PipeId := scene.start.pipes.length

/-- How many stages there are. -/
def width : Nat := scene.programs.length

/-- What the file for the output holds before the stages write to it. -/
def base : Bytes :=
  match scene.target with
  | some (path, .append) => scene.start.files.contentOf scene.directory path
  | _ => []

/-- What a stage is to be given. -/
def fed (stage : Nat) : Bytes := through scene.filters scene.supply stage

/-- The open file that a stage reads. -/
def Reads (stage : Nat) (handle : Handle) : Prop :=
  handle.access.read = true ∧ match stage with
    | 0 => handle = scene.input
    | earlier + 1 => handle.endpoint = .pipeReader (scene.first + earlier)

/-- The open file that a stage writes to. -/
def Writes (dest : Handle) (stage : Nat) (handle : Handle) : Prop :=
  stage + 1 < scene.width ∧ handle.endpoint = .pipeWriter (scene.first + stage) ∧
      handle.access.write = true ∨
    stage + 1 = scene.width ∧ handle = dest

end Scene

/-! ## Progress -/

/-- What a stage is at. -/
inductive Phase where
  /-- It has not read everything yet, or has not even begun. -/
  | reading
  /-- It has read everything and writes. -/
  | writing
  /-- It has written everything. -/
  | done
  deriving DecidableEq

/-- How far a stage has come. -/
structure Progress where
  /-- What it has read. -/
  got : Bytes
  /-- What it has written. -/
  sent : Bytes
  /-- What it is at. -/
  phase : Phase

/-- A stage that has not begun. -/
def Progress.fresh : Progress := ⟨[], [], .reading⟩

/-- How far every stage has come. -/
abbrev Tally := Nat → Progress

/-- One stage has come further. -/
def Tally.set (tally : Tally) (stage : Nat) (progress : Progress) : Tally :=
  fun other => if other = stage then progress else tally other

section Set

variable {tally : Tally} {stage other : Nat} {progress : Progress}

@[simp] theorem Tally.set_self : tally.set stage progress stage = progress := if_pos rfl

theorem Tally.set_of_ne (h : other ≠ stage) : tally.set stage progress other = tally other :=
  if_neg h

theorem Tally.set_tally : tally.set stage (tally stage) = tally := by
  funext other
  by_cases h : other = stage
  · rw [h, set_self]
  · exact set_of_ne h

/-- What holds of a stage that has come further, and of the other stages, holds of all. -/
theorem Tally.forall_set {P : Nat → Progress → Prop} (hself : P stage progress)
    (hother : ∀ other, other ≠ stage → P other (tally other)) (other : Nat) :
    P other (tally.set stage progress other) := by
  by_cases h : other = stage
  · rw [h, set_self]
    exact hself
  · rw [set_of_ne h]
    exact hother other h

theorem Tally.sent_set (h : progress.sent = (tally stage).sent) :
    (tally.set stage progress other).sent = (tally other).sent := by
  by_cases hother : other = stage
  · rw [hother, set_self, h]
  · rw [set_of_ne hother]

theorem Tally.got_set (h : progress.got = (tally stage).got) :
    (tally.set stage progress other).got = (tally other).got := by
  by_cases hother : other = stage
  · rw [hother, set_self, h]
  · rw [set_of_ne hother]

end Set

/-! ## The pace of the stages -/

/-- A stage writes when it has read what it is to be given, which is when the stage in front of it
has written everything; it is done when it has written what it is to hand on. -/
structure Paced (scene : Scene) (tally : Tally) : Prop where
  unsent : ∀ stage, (tally stage).phase = .reading → (tally stage).sent = []
  whole : ∀ stage, (tally stage).phase ≠ .reading → (tally stage).got = scene.fed stage
  order : ∀ stage, (tally (stage + 1)).phase ≠ .reading → (tally stage).phase = .done
  spent : ∀ stage, (tally stage).phase = .done → (tally stage).sent = scene.fed (stage + 1)

section Paced

variable {scene : Scene} {tally : Tally} {stage : Nat} {progress : Progress}

/-- A stage that has stopped reading has the first one stop reading before it. -/
theorem Paced.drained (h : Paced scene tally) (hphase : (tally stage).phase ≠ .reading) :
    (tally 0).phase ≠ .reading := by
  induction stage with
  | zero => exact hphase
  | succ place ih =>
      refine ih ?_
      rw [h.order place hphase]
      simp

/-- A stage that was reading keeps the pace if it stops only when it has been given everything. -/
theorem Paced.of_reading (h : Paced scene tally) (hreading : (tally stage).phase = .reading)
    (hsent : progress.sent = (tally stage).sent) (hphase : progress.phase ≠ .done)
    (hwhole : progress.phase ≠ .reading → progress.got = scene.fed stage)
    (horder : progress.phase ≠ .reading → ∀ place, stage = place + 1 →
      (tally place).phase = .done) : Paced scene (tally.set stage progress) where
  unsent := Tally.forall_set
    (P := fun _ progress => progress.phase = .reading → progress.sent = [])
    (fun _ => hsent.trans (h.unsent stage hreading)) fun other _ => h.unsent other
  whole := Tally.forall_set
    (P := fun other progress => progress.phase ≠ .reading → progress.got = scene.fed other)
    hwhole fun other _ => h.whole other
  spent := Tally.forall_set
    (P := fun other progress => progress.phase = .done → progress.sent = scene.fed (other + 1))
    (fun hdone => absurd hdone hphase) fun other _ => h.spent other
  order := by
    intro place hplace
    by_cases hself : place + 1 = stage
    · rw [hself, Tally.set_self] at hplace
      rw [Tally.set_of_ne (fun heq => Nat.succ_ne_self place (hself.trans heq.symm))]
      exact horder hplace place hself.symm
    · rw [Tally.set_of_ne hself] at hplace
      have hdone := h.order place hplace
      have hne : place ≠ stage := by
        -- the stage behind would have stopped reading before this one
        rintro rfl
        exact absurd (hdone.symm.trans hreading) (by simp)
      rw [Tally.set_of_ne hne]
      exact hdone

/-- A stage that was writing keeps the pace if it stops only when it has handed on everything. -/
theorem Paced.of_writing (h : Paced scene tally) (hwriting : (tally stage).phase = .writing)
    (hgot : progress.got = (tally stage).got) (hphase : progress.phase ≠ .reading)
    (hspent : progress.phase = .done → progress.sent = scene.fed (stage + 1)) :
    Paced scene (tally.set stage progress) where
  unsent := Tally.forall_set
    (P := fun _ progress => progress.phase = .reading → progress.sent = [])
    (fun hreading => absurd hreading hphase) fun other _ => h.unsent other
  whole := Tally.forall_set
    (P := fun other progress => progress.phase ≠ .reading → progress.got = scene.fed other)
    (fun _ => hgot.trans (h.whole stage (by simp [hwriting]))) fun other _ => h.whole other
  spent := Tally.forall_set
    (P := fun other progress => progress.phase = .done → progress.sent = scene.fed (other + 1))
    hspent fun other _ => h.spent other
  order := by
    intro place hplace
    have hdone : (tally place).phase = .done := by
      refine h.order place fun hreading => ?_
      by_cases hself : place + 1 = stage
      · exact absurd ((hself ▸ hreading).symm.trans hwriting) (by simp)
      · rw [Tally.set_of_ne hself] at hplace
        exact hplace hreading
    have hne : place ≠ stage := by
      rintro rfl
      exact absurd (hdone.symm.trans hwriting) (by simp)
    rw [Tally.set_of_ne hne]
    exact hdone

end Paced

/-! ## The destination -/

/-- The file for the output holds what it held before and what the last stage has written. Nothing
that the shell had open before leads to it. -/
def Sunk (scene : Scene) (dest : Handle) (sent : Bytes) (s : System Course.Answer) : Prop :=
  match scene.target with
  | none => dest = scene.output
  | some (path, mode) => ∃ id, dest.endpoint = .node id ∧ dest.access = mode.access ∧
      Files.Leads s.files scene.directory path id ∧
      s.files.bytesOf? id = some (scene.base ++ sent) ∧
      (mode = .truncate → s.position dest = sent.length) ∧ dest.cell < s.cells.length ∧
      dest.cell ≠ scene.input.cell ∧ ∀ entry ∈ scene.before, entry.2.handle.endpoint ≠ .node id

section Sunk

variable {scene : Scene} {dest : Handle} {s after : System Course.Answer} {sent bytes : Bytes}

/-- What does not touch the destination leaves what has reached it. -/
theorem Sunk.elsewhere (h : Sunk scene dest sent s) (halike : Files.Alike s.files after.files)
    (hnode : ∀ id, dest.endpoint = .node id → after.files.node? id = s.files.node? id)
    (hposition : dest.cell ≠ scene.input.cell → after.position dest = s.position dest)
    (hcells : s.cells.length ≤ after.cells.length) : Sunk scene dest sent after := by
  unfold Sunk at h ⊢
  split at h
  · exact h
  · obtain ⟨id, hend, haccess, hleads, hbytes, hplace, hcell, hown, hbefore⟩ := h
    refine ⟨id, hend, haccess, hleads.alike halike, ?_, ?_, Nat.lt_of_lt_of_le hcell hcells, hown,
      hbefore⟩
    · unfold Files.bytesOf?
      rw [hnode id hend]
      exact hbytes
    · rw [hposition hown]
      exact hplace

theorem Sunk.still (h : Sunk scene dest sent s) (hstill : Still s after) :
    Sunk scene dest sent after :=
  h.elsewhere hstill.alike (fun id _ => hstill.node? id) (fun _ => hstill.position dest) hstill.cells

/-- What is written to the destination comes behind what has reached it. -/
theorem Sunk.poured (h : Sunk scene dest sent s) (hpoured : Poured s after dest bytes) :
    Sunk scene dest (sent ++ bytes) after := by
  unfold Sunk at h ⊢
  split at h
  · exact h
  · rename_i path mode htarget
    obtain ⟨id, hend, haccess, hleads, hbytes, hplace, hcell, hown, hbefore⟩ := h
    obtain ⟨hwritten, hmoved⟩ := hpoured.written id _ hend hbytes
    refine ⟨id, hend, haccess, hleads.alike hpoured.alike, ?_, ?_, ?_, hown, hbefore⟩
    · rw [hwritten, ← List.append_assoc]
      congr 1
      split
      · rename_i hnil
        rw [hnil, List.append_nil]
      · have hat : (if dest.access.append then (scene.base ++ sent).length else s.position dest) =
            (scene.base ++ sent).length := by
          rw [haccess]
          cases mode with
          | append => rfl
          | truncate =>
              have hbase : scene.base = [] := by
                unfold Scene.base
                rw [htarget]
              rw [hbase, List.nil_append]
              exact hplace rfl
        rw [hat, Files.overwrite_length]
    · rintro rfl
      rw [hmoved (by rw [haccess]; rfl) hcell, hplace rfl, List.length_append]
    · exact Nat.lt_of_lt_of_le hcell (Nat.le_of_eq hpoured.quiet.cells.symm)

end Sunk

/-! ## Streams -/

/-- The table of the shell has the standard streams in it, and leads to nothing that comes later.
Somebody other than the stages can read what is written to the standard output. -/
structure Scene.Fits (scene : Scene) : Prop where
  wide : 0 < scene.width
  shell : scene.shell < scene.origin
  numbered : ∀ p ∈ scene.start.processes, p.pid < scene.origin
  ordered : scene.before.Ordered
  stdin : scene.before.get? Fd.stdin = some ⟨scene.input, false⟩
  stdout : scene.before.get? Fd.stdout = some ⟨scene.output, false⟩
  readable : scene.input.access.read = true
  pipes : ∀ entry ∈ scene.before, ∀ pipe, entry.2.handle.endpoint = .pipeReader pipe ∨
    entry.2.handle.endpoint = .pipeWriter pipe → pipe < scene.first
  heard : scene.target = none → ∀ pipe, scene.output.endpoint = .pipeWriter pipe →
    scene.before.holds (.pipeReader pipe) = true ∨ ∃ p ∈ scene.start.processes,
      p.pid ≠ scene.shell ∧ p.table.holds (.pipeReader pipe) = true

/-- What a stage has read, and what waits in the pipe to it, is what the stage in front of it has
written. A stage stops reading when the one in front of it has written everything, and has then
read what it is to be given. -/
structure Streams (scene : Scene) (dest : Handle) (tally : Tally) (log : List Delivery)
    (s : System Course.Answer) : Prop where
  link : ∀ stage, stage + 1 < scene.width →
    (tally (stage + 1)).got ++ s.queue (scene.first + stage) = (tally stage).sent
  source : (tally 0).phase = .reading → ∃ rest, s.supply? scene.input = some rest ∧
    (tally 0).got ++ rest = scene.supply
  unsent : ∀ stage, (tally stage).phase = .reading → (tally stage).sent = []
  whole : ∀ stage, (tally stage).phase ≠ .reading → (tally stage).got = scene.fed stage
  order : ∀ stage, (tally (stage + 1)).phase ≠ .reading → (tally stage).phase = .done
  spent : ∀ stage, (tally stage).phase = .done → (tally stage).sent = scene.fed (stage + 1)
  logged : ∀ stage, received log (scene.origin + stage) = (tally stage).sent
  led : ∀ delivery ∈ log, ∃ stage, stage < scene.width ∧ delivery.pid = scene.origin + stage ∧
    scene.Writes dest stage delivery.handle
  takes : s.Takes dest
  cell : scene.input.cell < s.cells.length
  sunk : Sunk scene dest (tally (scene.width - 1)).sent s

variable {scene : Scene} {dest handle : Handle} {tally : Tally} {log : List Delivery}
  {s after : System Course.Answer} {bytes chunk : Bytes} {stage : Nat} {progress : Progress}

theorem Streams.paced (h : Streams scene dest tally log s) : Paced scene tally :=
  ⟨h.unsent, h.whole, h.order, h.spent⟩

theorem Streams.still (h : Streams scene dest tally log s) (hstill : Still s after) :
    Streams scene dest tally log after where
  link := fun stage hstage => by rw [hstill.queue]; exact h.link stage hstage
  source := fun hphase => by rw [hstill.supply?]; exact h.source hphase
  unsent := h.unsent
  whole := h.whole
  order := h.order
  spent := h.spent
  logged := h.logged
  led := h.led
  takes := h.takes.alike hstill.alike
  cell := Nat.lt_of_lt_of_le h.cell hstill.cells
  sunk := h.sunk.still hstill

theorem Scene.Fits.input_lt (h : scene.Fits) {pipe : PipeId}
    (hend : scene.input.endpoint = .pipeReader pipe) : pipe < scene.first :=
  h.pipes _ (Table.mem_of_get? h.stdin) pipe (.inl hend)

/-- The destination is none of the pipes of the line. -/
theorem Sunk.outside (h : Sunk scene dest bytes s) (hfits : scene.Fits) {pipe : PipeId}
    (hend : dest.endpoint = .pipeWriter pipe) : pipe < scene.first := by
  unfold Sunk at h
  split at h
  · exact hfits.pipes _ (Table.mem_of_get? hfits.stdout) pipe (.inr (h ▸ hend))
  · obtain ⟨id, hnode, -⟩ := h
    exact absurd (hend.symm.trans hnode) (by simp)

/-! ## Reading -/

/-- Of the pipes, a stage reads the one behind the stage in front of it. -/
theorem Scene.Fits.reads_iff (hfits : scene.Fits) (hreads : scene.Reads stage handle) {place : Nat}
    (hend : handle.endpoint = .pipeReader (scene.first + place)) : stage = place + 1 := by
  obtain ⟨-, hreads⟩ := hreads
  cases stage with
  | zero =>
      have hlt := hfits.input_lt (show scene.input.endpoint = _ from hreads ▸ hend)
      exact absurd hlt (Nat.not_lt_of_le (Nat.le_add_right _ _))
  | succ earlier =>
      have hsame : scene.first + earlier = scene.first + place := by simpa [hend] using hreads.symm
      rw [Nat.add_left_cancel hsame]

/-- A stage that reads has read more, or everything. -/
theorem Streams.of_drawn (hfits : scene.Fits) (h : Streams scene dest tally log s)
    (hdrawn : Drawn s after handle) (hreads : scene.Reads stage handle)
    (hreading : (tally stage).phase = .reading) (hsent : progress.sent = (tally stage).sent)
    (hphase : progress.phase ≠ .done)
    (hlink : ∀ place, stage = place + 1 →
      progress.got ++ after.queue (scene.first + place) = (tally place).sent)
    (hsource : stage = 0 → progress.phase = .reading → ∃ rest,
      after.supply? scene.input = some rest ∧ progress.got ++ rest = scene.supply)
    (hwhole : progress.phase ≠ .reading → progress.got = scene.fed stage)
    (horder : progress.phase ≠ .reading → ∀ place, stage = place + 1 →
      (tally place).phase = .done) :
    Streams scene dest (tally.set stage progress) log after := by
  have halike : Files.Alike s.files after.files := hdrawn.files ▸ .refl
  have hpaced := h.paced.of_reading hreading hsent hphase hwhole horder
  refine ⟨?_, ?_, hpaced.unsent, hpaced.whole, hpaced.order, hpaced.spent, ?_, h.led,
    h.takes.alike halike, hdrawn.quiet.cells ▸ h.cell, ?_⟩
  · intro place hplace
    rw [Tally.sent_set hsent]
    by_cases hself : place + 1 = stage
    · rw [hself, Tally.set_self]
      exact hlink place hself.symm
    · rw [Tally.set_of_ne hself, hdrawn.queue _ fun hend => hself (hfits.reads_iff hreads hend).symm]
      exact h.link place hplace
  · intro hzero
    by_cases hself : 0 = stage
    · rw [hself, Tally.set_self] at hzero ⊢
      exact hsource hself.symm hzero
    · rw [Tally.set_of_ne hself] at hzero ⊢
      obtain ⟨place, rfl⟩ := Nat.exists_eq_succ_of_ne_zero (Ne.symm hself)
      rw [hdrawn.supply? hreads.2 fun hend =>
        absurd (hfits.input_lt hend) (Nat.not_lt_of_le (Nat.le_add_right _ _))]
      exact h.source hzero
  · intro other
    rw [Tally.sent_set hsent]
    exact h.logged other
  · rw [Tally.sent_set hsent]
    refine h.sunk.elsewhere halike (fun id _ => by rw [hdrawn.files]) (fun hcell => ?_)
      (Nat.le_of_eq hdrawn.quiet.cells.symm)
    refine hdrawn.position dest ?_
    cases stage with
    | zero => exact .inr ((show handle = scene.input from hreads.2) ▸ hcell)
    | succ place => exact .inl fun id hend => absurd (hreads.2.symm.trans hend) (by simp)

/-- What a stage reads moves to it from the pipe or from the input. It finds the end when there is
nothing left and the stage in front of it has written everything. -/
theorem Streams.read (hfits : scene.Fits) (h : Streams scene dest tally log s)
    (hreading : (tally stage).phase = .reading) {table : Table} {fd : Fd} {closing : Bool}
    (hget : table.get? fd = some ⟨handle, closing⟩) (hreads : scene.Reads stage handle)
    (hlink : ∀ place, stage = place + 1 → place + 1 < scene.width)
    (hheld : ∀ place, stage = place + 1 → (tally place).phase ≠ .done →
      s.held (.pipeWriter (scene.first + place)) = true)
    {count : Nat} (hcount : 0 < count) {reply : Except Errno Bytes}
    (hread : s.readSome table fd count = some (reply, after)) :
    (reply = .ok [] ∧ Streams scene dest
      (tally.set stage { tally stage with phase := .writing }) log after) ∨
    ∃ chunk, chunk ≠ [] ∧ reply = .ok chunk ∧ Streams scene dest
      (tally.set stage { tally stage with got := (tally stage).got ++ chunk }) log after := by
  have hdrawn := readSome_drawn hget hread
  have hcell : ∀ id, handle.endpoint = .node id → handle.cell < s.cells.length := by
    intro id hend
    cases stage with
    | zero => exact (show handle = scene.input from hreads.2) ▸ h.cell
    | succ place => exact absurd (hreads.2.symm.trans hend) (by simp)
  -- All that the stage has read and will read.
  obtain ⟨rest, hsupply, hzero, hsucc⟩ : ∃ rest, s.supply? handle = some rest ∧
      (stage = 0 → (tally stage).got ++ rest = scene.supply) ∧
      ∀ place, stage = place + 1 → (tally stage).got ++ rest = (tally place).sent := by
    cases stage with
    | zero =>
        obtain ⟨rest, hsupply, hwhole⟩ := h.source hreading
        rw [← show handle = scene.input from hreads.2] at hsupply
        exact ⟨rest, hsupply, fun _ => hwhole, fun _ heq => absurd heq (by simp)⟩
    | succ place =>
        refine ⟨_, supply?_of_pipeReader hreads.2, fun heq => absurd heq (by simp), ?_⟩
        rintro other heq
        obtain rfl : place = other := Nat.succ.inj heq
        exact h.link place (hlink place rfl)
  cases readSome_draws hget hreads.1 hcount hread hcell hsupply with
  | ended hended =>
      -- whoever writes to the pipe holds it as long as there is more to come
      have hdone : ∀ place, stage = place + 1 → (tally place).phase = .done := by
        rintro place rfl
        by_contra hnot
        exact Bool.false_ne_true ((hended _ hreads.2).1.symm.trans (hheld place rfl hnot))
      refine .inl ⟨rfl, h.of_drawn hfits hdrawn hreads hreading rfl (by simp) ?_ ?_ ?_ ?_⟩
      · rintro place rfl
        rw [(hended _ hreads.2).2]
        exact h.link place (hlink place rfl)
      · exact fun _ hphase => absurd hphase (by simp)
      · intro _
        rw [List.append_nil] at hzero hsucc
        cases stage with
        | zero => exact hzero rfl
        | succ place => exact (hsucc place rfl).trans (h.spent place (hdone place rfl))
      · exact fun _ => hdone
  | @front chunk left hne hafter =>
      refine .inr ⟨chunk, hne, rfl, h.of_drawn hfits hdrawn hreads hreading rfl
        (by simp [hreading]) ?_ ?_ (fun hphase => absurd hreading hphase)
        (fun hphase => absurd hreading hphase)⟩
      · rintro place rfl
        rw [supply?_of_pipeReader hreads.2] at hafter
        rw [Option.some.inj hafter, List.append_assoc]
        exact hsucc place rfl
      · rintro rfl -
        rw [show handle = scene.input from hreads.2] at hafter
        refine ⟨left, hafter, ?_⟩
        rw [List.append_assoc]
        exact hzero rfl

/-! ## Writing -/

theorem received_append {delivery : Delivery} {pid : Pid} : received (log ++ [delivery]) pid =
    received log pid ++ if delivery.pid = pid then delivery.bytes else [] := by
  unfold received
  rw [List.filter_append, List.flatMap_append]
  by_cases h : delivery.pid = pid <;> simp [h]

/-- Of the pipes, a stage writes to the one in front of the next stage. -/
theorem Scene.Fits.writes_iff (hfits : scene.Fits) (hsunk : Sunk scene dest bytes s)
    (hwrites : scene.Writes dest stage handle) {place : Nat}
    (hend : handle.endpoint = .pipeWriter (scene.first + place)) :
    stage = place ∧ stage + 1 < scene.width := by
  rcases hwrites with ⟨hlt, hwriter, -⟩ | ⟨-, rfl⟩
  · have hsame : scene.first + stage = scene.first + place := by simpa [hend] using hwriter.symm
    exact ⟨Nat.add_left_cancel hsame, hlt⟩
  · exact absurd (hsunk.outside hfits hend) (Nat.not_lt_of_le (Nat.le_add_right _ _))

/-- What a stage has handed on has reached the pipe to the next stage, or the destination. -/
theorem Streams.of_poured (hfits : scene.Fits) (h : Streams scene dest tally log s)
    (hpoured : Poured s after handle chunk) (hwrites : scene.Writes dest stage handle)
    (hstage : stage < scene.width) (hwriting : (tally stage).phase = .writing)
    (hgot : progress.got = (tally stage).got) (hsent : progress.sent = (tally stage).sent ++ chunk)
    (hphase : progress.phase ≠ .reading)
    (hspent : progress.phase = .done → progress.sent = scene.fed (stage + 1)) :
    Streams scene dest (tally.set stage progress)
      (log ++ [⟨scene.origin + stage, handle, chunk⟩]) after := by
  have hpaced := h.paced.of_writing hwriting hgot hphase hspent
  -- No stage writes while the first one reads.
  have hstopped : (tally.set stage progress stage).phase ≠ .reading := by rwa [Tally.set_self]
  have hfirst := hpaced.drained hstopped
  refine ⟨?_, fun hzero => absurd hzero hfirst, hpaced.unsent, hpaced.whole, hpaced.order,
    hpaced.spent, ?_, ?_, h.takes.alike hpoured.alike, hpoured.quiet.cells ▸ h.cell, ?_⟩
  · intro place hplace
    rw [Tally.got_set hgot, hpoured.queue]
    by_cases hself : place = stage
    · rw [hself, Tally.set_self, hsent, ← h.link stage (hself ▸ hplace), List.append_assoc]
      rcases hwrites with ⟨-, hwriter, -⟩ | ⟨hlast, -⟩
      · rw [if_pos hwriter]
      · exact absurd (hself ▸ hplace) (Nat.not_lt_of_le (Nat.le_of_eq hlast.symm))
    · rw [Tally.set_of_ne hself,
        if_neg fun hend => hself (hfits.writes_iff h.sunk hwrites hend).1.symm]
      exact h.link place hplace
  · intro other
    rw [received_append, h.logged]
    by_cases hself : other = stage
    · rw [hself, Tally.set_self, hsent, if_pos rfl]
    · rw [Tally.set_of_ne hself, if_neg fun heq => hself (Nat.add_left_cancel heq).symm,
        List.append_nil]
  · intro delivery hdelivery
    rcases List.mem_append.mp hdelivery with hold | hnew
    · exact h.led delivery hold
    · cases List.mem_singleton.mp hnew
      exact ⟨stage, hstage, rfl, hwrites⟩
  · rcases hwrites with ⟨hlt, hwriter, -⟩ | ⟨hlast, rfl⟩
    · rw [Tally.set_of_ne (show scene.width - 1 ≠ stage by omega)]
      exact h.sunk.elsewhere hpoured.alike (fun id hend => hpoured.node? id (by simp [hwriter]))
        (fun _ => hpoured.position dest (.inl (by simp [hwriter])))
        (Nat.le_of_eq hpoured.quiet.cells.symm)
    · rw [show scene.width - 1 = stage from by omega, Tally.set_self, hsent]
      refine Sunk.poured ?_ hpoured
      rw [show stage = scene.width - 1 from by omega]
      exact h.sunk

/-- A stage that writes is not refused, and hands on a part of its bytes. It is done when none are
left. -/
theorem Streams.write (hfits : scene.Fits) (h : Streams scene dest tally log s)
    (hstage : stage < scene.width) (hwriting : (tally stage).phase = .writing) {table : Table}
    {fd : Fd} {closing : Bool} (hget : table.get? fd = some ⟨handle, closing⟩)
    (hwrites : scene.Writes dest stage handle)
    (hheld : ∀ pipe, handle.endpoint = .pipeWriter pipe → s.held (.pipeReader pipe) = true)
    (hroom : scene.first + (scene.width - 1) ≤ s.pipes.length)
    (hleft : (tally stage).sent ++ bytes = (scene.filters stage).convert (tally stage).got)
    {reply : Except Errno Bytes} (hwrite : s.writeSome table fd bytes = some (reply, after)) :
    ∃ chunk left, reply = .ok left ∧ bytes = chunk ++ left ∧
      Streams scene dest (tally.set stage { tally stage with
          sent := (tally stage).sent ++ chunk
          phase := if left = [] then .done else .writing })
        (log ++ [⟨scene.origin + stage, handle, chunk⟩]) after := by
  have htakes : s.Takes handle := by
    rcases hwrites with ⟨-, hwriter, hwrite⟩ | ⟨-, rfl⟩
    · refine ⟨hwrite, ?_⟩
      rw [hwriter]
      trivial
    · exact h.takes
  have hpipe : ∀ pipe, handle.endpoint = .pipeWriter pipe → pipe < s.pipes.length := by
    intro pipe hend
    rcases hwrites with ⟨hlt, hwriter, -⟩ | ⟨-, rfl⟩
    · have hsame : pipe = scene.first + stage := by simpa [hend] using hwriter
      rw [hsame]
      exact Nat.lt_of_lt_of_le (Nat.add_lt_add_left (Nat.lt_sub_of_add_lt hlt) _) hroom
    · exact Nat.lt_of_lt_of_le (h.sunk.outside hfits hend)
        (Nat.le_trans (Nat.le_add_right _ _) hroom)
  obtain ⟨left, rfl⟩ := writeSome_of_takes hget htakes hheld hwrite
  rcases writeSome_poured hget hpipe hwrite with ⟨errno, heq, -⟩ | ⟨chunk, left', heq, rfl, hpoured⟩
  · exact absurd heq (by simp)
  · cases heq
    refine ⟨chunk, left, rfl, rfl, h.of_poured hfits hpoured hwrites hstage hwriting rfl rfl ?_ ?_⟩
    · dsimp only
      split <;> simp
    · intro hdone
      have hnil : left = [] := by
        by_contra hne
        exact absurd (hdone.symm.trans (if_neg hne)) (by simp)
      show (tally stage).sent ++ chunk = (scene.filters stage).convert (scene.fed stage)
      rw [hnil, List.append_nil] at hleft
      rw [hleft, h.whole stage (by simp [hwriting])]

end LineShell.Dataflow
