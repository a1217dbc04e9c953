import LineShell.Proofs.Line.Chunks
import LineShell.Proofs.Pipeline.Plumbing
import LineShell.Proofs.System.Ledgers

/-!
# The open files of the shell

The shell runs one pipeline after another while all other processes move as they like. Whatever a
pipeline comes to, the shell has the open files afterwards that it had before.

* **`Fitted`**, **`Draining`** — what the shell has taken for a pipeline, and what it has still to
  give up;
* **`ShellAt`** — where the shell is on its way, kept by each of its steps (`ShellAt.step`);
* **`Foretold`** — what a pipeline comes to, told by the room in the table alone;
* **`table_restored`** — over any number of pipelines.
-/

namespace LineShell.Descriptors

open LineShell.System LineShell.Course Prog

/-- What comes of a pipeline. -/
abbrev Outcome := Except ExecFailure Report

variable {launch : Launcher} {s s' after : System Outcome} {shell : Pid}
  {p q changed : Process Outcome}

/-! ## What has been taken -/

section Way

variable (before : Table) (limit : Nat) (goal : Option Bytes)

/-- The numbers stand for the ends of a pipe. -/
def Joins (table : Table) (pipe : PipeId) (ends : Fd × Fd) : Prop :=
  (∃ descriptor, table.get? ends.1 = some descriptor ∧
    descriptor.handle.endpoint = .pipeReader pipe ∧ descriptor.handle.access.read = true) ∧
  ∃ descriptor, table.get? ends.2 = some descriptor ∧
    descriptor.handle.endpoint = .pipeWriter pipe ∧ descriptor.handle.access.write = true

/-- Under the numbers of the plumbing stand the pipes and the target that the shell has opened, and
without them the table is as before. -/
structure Fitted (ledger : Ledger) (plumbing : Plumbing) (table : Table) : Prop where
  ordered : table.Ordered
  strip : table.without plumbing.descriptors = before
  taken : (ledger.taken.map Prod.fst).Perm plumbing.descriptors
  once : plumbing.descriptors.Nodup
  closed : ledger.closed = []
  room : table.room limit + plumbing.descriptors.length = before.room limit
  pipes : List.Forall₂ (Joins table) ledger.pipes plumbing.pipes
  target : plumbing.target.isSome = goal.isSome
  opened : ∀ fd, plumbing.target = some fd → ∃ path descriptor, goal = some path ∧
    table.get? fd = some descriptor ∧ ledger.opened = [(path, descriptor.handle)]

/-- What the shell has taken it has given up once, or has still to give up; without that the table
is as before. -/
structure Draining (ledger : Ledger) (left : List Fd) (table : Table) : Prop where
  strip : table.without left = before
  paid : (ledger.closed ++ left).Perm (ledger.taken.map Prod.fst)
  once : (ledger.taken.map Prod.fst).Nodup

end Way

/-- How many numbers a pipeline takes that has so many targets and stages. -/
def need (targets stages : Nat) : Nat := targets + 2 * (stages - 1)

/-- What a pipeline comes to, told by the room in the table. -/
def Foretold (room targets stages : Nat) (outcome : Outcome) (children : List Pid) : Prop :=
  ((∃ path cause, outcome = .error (.target path cause)) ↔ room < targets) ∧
  ((∃ errno, outcome = .error (.pipe errno)) ↔ targets ≤ room ∧ room < need targets stages) ∧
  (need targets stages ≤ room → children.length = stages)

section Way

variable (before : Table) (limit : Nat) (goal : Option Bytes) (programs : List (List Bytes))
  (command : String) (fair idle : Prop)

/-- Where the shell is on its way through a pipeline, what it has taken by then and how long that
has taken. -/
inductive ShellAt (ledger : Ledger) (plumbing : Plumbing) (laid : Table) (p : Process Outcome) :
    Prop
  | opening {path : Bytes} {access : Access} {failure : Errno → ExecFailure} :
      goal = some path → (∀ errno, ∃ name cause, failure errno = .target name cause) →
      p.program = .ask (.openPath path access true) interrupted
        (opened command .pure programs failure) →
      p.table = before → ledger = { rounds := ledger.rounds } → (fair → ledger.rounds = 0) →
      ShellAt ledger plumbing laid p
  | laying {count : Nat} : p.program = laying command .pure programs (count + 1) plumbing →
      Fitted before limit goal ledger plumbing p.table →
      plumbing.pipes.length + (count + 1) = programs.length - 1 → ledger.children = [] →
      (fair → ledger.rounds ≤ goal.toList.length + plumbing.pipes.length) →
      ShellAt ledger plumbing laid p
  | abandoning {fd : Fd} {left : List Fd} {failure : ExecFailure} :
      p.program = ((Plumbing.closeAll (fd :: left)).bind fun _ => .pure (.error failure)) →
      Draining before ledger (fd :: left) p.table →
      (fair → Foretold (before.room limit) goal.toList.length programs.length (.error failure)
        ledger.children) →
      (fair → ledger.rounds + (left.length + 1) ≤ 4 * programs.length) →
      ShellAt ledger plumbing laid p
  | flushing : p.program = flushing command .pure programs plumbing →
      Fitted before limit goal ledger plumbing p.table → p.table = laid →
      plumbing.pipes.length = programs.length - 1 → ledger.children = [] →
      (fair → idle → ledger.rounds ≤ goal.toList.length + (programs.length - 1)) →
      ShellAt ledger plumbing laid p
  | forking {stage : Nat} {arguments : List Bytes} {left : List (List Bytes)}
      {children : List Pid} :
      p.program = forking command .pure plumbing stage (arguments :: left) children →
      Fitted before limit goal ledger plumbing p.table → p.table = laid →
      plumbing.pipes.length = programs.length - 1 → ledger.children.length = stage →
      stage + (left.length + 1) = programs.length →
      (fair → idle → ledger.rounds ≤ goal.toList.length + programs.length + stage) →
      ShellAt ledger plumbing laid p
  | releasing {children : List Pid} {fd : Fd} {left : List Fd} :
      p.program = releasing command .pure children (fd :: left) →
      Draining before ledger (fd :: left) p.table →
      need goal.toList.length programs.length ≤ before.room limit →
      ledger.children.length = programs.length → ShellAt ledger plumbing laid p
  | waiting {codes : List Int} {child : Pid} {left : List Pid} :
      p.program = waiting command .pure codes (child :: left) →
      Draining before ledger [] p.table →
      need goal.toList.length programs.length ≤ before.room limit →
      ledger.children.length = programs.length → ShellAt ledger plumbing laid p
  | finished {outcome : Outcome} : p.program = .pure outcome →
      Draining before ledger [] p.table →
      (fair → Foretold (before.room limit) goal.toList.length programs.length outcome
        ledger.children) →
      (fair → idle → ledger.children.length < programs.length →
        ledger.rounds ≤ 4 * programs.length) → ShellAt ledger plumbing laid p

end Way

section Laying

variable {before table : Table} {limit : Nat} {goal : Option Bytes} {ledger : Ledger}
  {plumbing : Plumbing}

theorem Fitted.draining (h : Fitted before limit goal ledger plumbing table) :
    Draining before ledger plumbing.descriptors table where
  strip := h.strip
  paid := by
    rw [h.closed, List.nil_append]
    exact h.taken.symm
  once := h.taken.nodup_iff.mpr h.once

/-- What is opened for the pipeline stands for nothing in the table before. -/
theorem Fitted.fresh (h : Fitted before limit goal ledger plumbing table) {fd : Fd}
    (hfd : fd ∈ plumbing.descriptors) : before.get? fd = none := by
  rw [← h.strip, Table.get?_without, if_pos hfd]

/-- Everything else is as before. -/
theorem Fitted.kept (h : Fitted before limit goal ledger plumbing table) {fd : Fd}
    (hfd : fd ∉ plumbing.descriptors) : table.get? fd = before.get? fd := by
  rw [← h.strip, Table.get?_without, if_neg hfd]

theorem length_descriptors (plumbing : Plumbing) :
    plumbing.descriptors.length = 2 * plumbing.pipes.length + plumbing.target.toList.length := by
  unfold Plumbing.descriptors
  rw [List.length_append, List.length_flatMap]
  simp [Nat.mul_comm]

theorem Fitted.length (h : Fitted before limit goal ledger plumbing table) :
    plumbing.descriptors.length = goal.toList.length + 2 * plumbing.pipes.length := by
  have htarget : plumbing.target.toList.length = goal.toList.length := by
    have hsome := h.target
    cases hplumbed : plumbing.target <;> cases hgoal : goal <;> simp [hplumbed, hgoal] at hsome ⊢
  rw [length_descriptors, htarget, Nat.add_comm]

theorem exists_of_getElem? {α β : Type} {R : α → β → Prop} {xs : List α} {ys : List β}
    (h : List.Forall₂ R xs ys) {place : Nat} {y : β} (hy : ys[place]? = some y) :
    ∃ x, xs[place]? = some x ∧ R x y := by
  induction h generalizing place with
  | nil => cases hy
  | cons hxy _ ih =>
      cases place with
      | zero =>
          cases hy
          exact ⟨_, rfl, hxy⟩
      | succ place => exact ih hy

/-- What is opened for the pipeline stands for something. -/
theorem Fitted.stands (h : Fitted before limit goal ledger plumbing table) {fd : Fd}
    (hfd : fd ∈ plumbing.descriptors) : ∃ descriptor, table.get? fd = some descriptor := by
  rcases List.mem_append.mp hfd with hpipe | htarget
  · obtain ⟨ends, hends, hmem⟩ := List.mem_flatMap.mp hpipe
    obtain ⟨place, hplace⟩ := List.getElem?_of_mem hends
    obtain ⟨pipe, -, ⟨reader, hreader, -⟩, writer, hwriter, -⟩ := exists_of_getElem? h.pipes hplace
    simp only [List.mem_cons, List.not_mem_nil, or_false] at hmem
    rcases hmem with rfl | rfl
    · exact ⟨reader, hreader⟩
    · exact ⟨writer, hwriter⟩
  · obtain ⟨path, descriptor, -, hget, -⟩ := h.opened fd (Option.mem_toList.mp htarget)
    exact ⟨descriptor, hget⟩

/-- Before anything is opened. -/
theorem fitted_of_none (hordered : before.Ordered) {rounds : Nat} :
    Fitted before limit none { rounds := rounds } ⟨[], none⟩ before where
  ordered := hordered
  strip := Table.without_nil
  taken := .refl _
  once := List.nodup_nil
  closed := rfl
  room := rfl
  pipes := .nil
  target := rfl
  opened := fun fd hfd => by cases hfd

/-- The target is the first to be opened. -/
theorem fitted_of_target (hordered : before.Ordered) {fd : Fd} {descriptor : Descriptor}
    (hfree : before.get? fd = none) (hlimit : fd < limit) {path : Bytes} {rounds : Nat} :
    Fitted before limit (some path) {
      taken := [(fd, descriptor)]
      opened := [(path, descriptor.handle)]
      rounds := rounds } ⟨[], some fd⟩ (before.set fd descriptor) where
  ordered := hordered.set
  strip := by
    show (before.set fd descriptor).without [fd] = before
    rw [← Table.without_erase, Table.without_nil, Table.erase_set hfree]
  taken := .refl _
  once := List.nodup_singleton fd
  closed := rfl
  room := Table.room_set descriptor hlimit hfree
  pipes := .nil
  target := rfl
  opened := by
    rintro other ⟨rfl⟩
    exact ⟨path, descriptor, rfl, Table.get?_set_self, rfl⟩

theorem Joins.set {pipe : PipeId} {ends : Fd × Fd} (h : Joins table pipe ends) {fd : Fd}
    {descriptor : Descriptor} (hfree : table.get? fd = none) :
    Joins (table.set fd descriptor) pipe ends := by
  obtain ⟨⟨reader, hreader, hreads⟩, writer, hwriter, hwrites⟩ := h
  exact ⟨⟨reader, Table.get?_set_of_free hfree hreader, hreads⟩, writer,
    Table.get?_set_of_free hfree hwriter, hwrites⟩

theorem descriptors_append_perm (plumbing : Plumbing) (ends : Fd × Fd) :
    ({ plumbing with pipes := plumbing.pipes ++ [ends] } : Plumbing).descriptors.Perm
      (plumbing.descriptors ++ [ends.1, ends.2]) := by
  unfold Plumbing.descriptors
  dsimp only
  rw [List.flatMap_append, List.flatMap_singleton, List.append_assoc, List.append_assoc]
  exact List.perm_append_comm.append_left _

/-- A pipe whose ends stand under numbers that stood for nothing is laid behind the others. -/
theorem Fitted.append (h : Fitted before limit goal ledger plumbing table) {reader writer : Fd}
    {readerHandle writerHandle : Descriptor} {pipe : PipeId}
    (hreader : table.get? reader = none) (hwriter : table.get? writer = none)
    (hlt : reader < writer) (hlimit : writer < limit)
    (hreads : readerHandle.handle.endpoint = .pipeReader pipe ∧
      readerHandle.handle.access.read = true)
    (hwrites : writerHandle.handle.endpoint = .pipeWriter pipe ∧
      writerHandle.handle.access.write = true) :
    let later := (table.set reader readerHandle).set writer writerHandle
    Fitted before limit goal { ledger with
      taken := ledger.taken ++ table.gained later
      pipes := ledger.pipes ++ [pipe]
      rounds := ledger.rounds + 1 }
      { plumbing with pipes := plumbing.pipes ++ [(reader, writer)] } later := by
  intro later
  have hne : writer ≠ reader := Nat.ne_of_gt hlt
  have hwriter' : (table.set reader readerHandle).get? writer = none := by
    rw [Table.get?_set, if_neg hne, hwriter]
  have hother : ∀ {fd : Fd} {descriptor : Descriptor}, table.get? fd = some descriptor →
      later.get? fd = some descriptor :=
    fun hget => Table.get?_set_of_free hwriter' (Table.get?_set_of_free hreader hget)
  have hperm := descriptors_append_perm plumbing (reader, writer)
  have hgained : (table.gained later).Perm [(writer, writerHandle), (reader, readerHandle)] := by
    refine (Table.gained_set_perm writerHandle hwriter hwriter').trans ?_
    rw [Table.gained_set hreader]
  have hfresh : ∀ fd ∈ [reader, writer], table.get? fd = none := by
    simp only [List.mem_cons, List.not_mem_nil, or_false]
    rintro fd (rfl | rfl)
    · exact hreader
    · exact hwriter
  refine ⟨h.ordered.set.set, ?_, ?_, ?_, h.closed, ?_, ?_, h.target, ?_⟩
  · calc later.without _ = later.without (plumbing.descriptors ++ [reader, writer]) :=
        Table.without_congr fun entry _ => hperm.mem_iff
      _ = table.without (plumbing.descriptors ++ [reader, writer]) := by
        rw [Table.without_set (by simp), Table.without_set (by simp)]
      _ = before := by rw [Table.without_append hfresh, h.strip]
  · rw [List.map_append]
    refine (h.taken.append (hgained.map Prod.fst)).trans ?_
    exact ((List.Perm.swap reader writer []).append_left _).trans hperm.symm
  · refine hperm.nodup_iff.mpr (List.nodup_append.mpr ⟨h.once, ?_, ?_⟩)
    · simp [hne.symm]
    · -- the numbers of the plumbing stand for something
      rintro fd hfd other hfree rfl
      obtain ⟨descriptor, hget⟩ := h.stands hfd
      exact absurd ((hfresh fd hfree).symm.trans hget) (by simp)
  · have hwide := Table.room_set readerHandle (Nat.lt_trans hlt hlimit) hreader
    have hnarrow := Table.room_set writerHandle hlimit hwriter'
    have hlength := hperm.length_eq
    have hroom := h.room
    simp only [List.length_append, List.length_cons, List.length_nil] at hlength
    show (((table.set reader readerHandle).set writer writerHandle).room limit) + _ = _
    omega
  · have hjoins : Joins later pipe (reader, writer) :=
      ⟨⟨readerHandle, Table.get?_set_of_free hwriter' Table.get?_set_self, hreads⟩,
        writerHandle, Table.get?_set_self, hwrites⟩
    have hlaid : List.Forall₂ (Joins later) ledger.pipes plumbing.pipes :=
      h.pipes.imp fun _ _ hold => (hold.set hreader).set hwriter'
    exact List.rel_append hlaid (.cons hjoins .nil)
  · intro fd htarget
    obtain ⟨path, descriptor, hgoal, hget, hopened⟩ := h.opened fd htarget
    exact ⟨path, descriptor, hgoal, hother hget, hopened⟩

end Laying

/-! ## Arriving at a place on the way -/

section Arriving

variable {before laid : Table} {limit : Nat} {goal : Option Bytes} {programs : List (List Bytes)}
  {command : String} {fair idle : Prop} {ledger : Ledger} {plumbing : Plumbing}

theorem Draining.close {fd : Fd} {left : List Fd} {table : Table}
    (h : Draining before ledger (fd :: left) table) : Draining before { ledger with
      closed := ledger.closed ++ [fd]
      rounds := ledger.rounds + 1 } left (table.erase fd) where
  strip := Table.without_erase.trans h.strip
  paid := by
    rw [List.append_assoc]
    exact h.paid
  once := h.once

theorem Draining.congr {later : Ledger} {left : List Fd} {table : Table}
    (h : Draining before ledger left table) (htaken : later.taken = ledger.taken)
    (hclosed : later.closed = ledger.closed) : Draining before later left table where
  strip := h.strip
  paid := by
    rw [hclosed, htaken]
    exact h.paid
  once := htaken ▸ h.once

theorem Fitted.congr {later : Ledger} {table : Table}
    (h : Fitted before limit goal ledger plumbing table) (htaken : later.taken = ledger.taken)
    (hclosed : later.closed = ledger.closed) (hpipes : later.pipes = ledger.pipes)
    (hopened : later.opened = ledger.opened) : Fitted before limit goal later plumbing table where
  ordered := h.ordered
  strip := h.strip
  taken := htaken ▸ h.taken
  once := h.once
  closed := hclosed.trans h.closed
  room := h.room
  pipes := hpipes ▸ h.pipes
  target := h.target
  opened := hopened ▸ h.opened

/-- With room for what it needs a pipeline forks all its stages, and fails for neither reason. -/
theorem foretold_of_room {outcome : Outcome} {children : List Pid}
    (hroom : need goal.toList.length programs.length ≤ before.room limit)
    (hchildren : children.length = programs.length)
    (htarget : ∀ path cause, outcome ≠ .error (.target path cause))
    (hpipe : ∀ errno, outcome ≠ .error (.pipe errno)) :
    Foretold (before.room limit) goal.toList.length programs.length outcome children := by
  have hneed : goal.toList.length ≤ need goal.toList.length programs.length := Nat.le_add_right _ _
  refine ⟨⟨?_, fun hlt => by omega⟩, ⟨?_, fun hlt => by omega⟩, fun _ => hchildren⟩
  · rintro ⟨path, cause, heq⟩
    exact absurd heq (htarget path cause)
  · rintro ⟨errno, heq⟩
    exact absurd heq (hpipe errno)

/-- With no room left a target cannot be opened, and the pipeline fails for it. -/
theorem foretold_of_unopened {path : Bytes} {name : String} {cause : OpenFailure}
    {children : List Pid} (hroom : before.room limit = 0) (hgoal : goal = some path) :
    Foretold (before.room limit) goal.toList.length programs.length
      (.error (.target name cause)) children := by
  unfold Foretold need
  rw [hroom, hgoal]
  refine ⟨⟨fun _ => Nat.one_pos, fun _ => ⟨name, cause, rfl⟩⟩, ⟨?_, ?_⟩, ?_⟩
  · rintro ⟨other, heq⟩
    cases heq
  · rintro ⟨hle, -⟩
    exact absurd hle (by simp)
  · intro hle
    exact absurd hle (by simp)

theorem shellAt_waiting {codes : List Int} {left : List Pid}
    (hprogram : p.program = waiting command .pure codes left)
    (hdrained : Draining before ledger [] p.table)
    (hroom : need goal.toList.length programs.length ≤ before.room limit)
    (hchildren : ledger.children.length = programs.length) :
    ShellAt before limit goal programs command fair idle ledger plumbing laid p := by
  cases left with
  | nil =>
      refine .finished (hprogram.trans (waiting_nil _ _ _)) hdrained (fun _ => ?_) fun _ _ hlt => ?_
      · exact foretold_of_room hroom hchildren (by simp) (by simp)
      · omega
  | cons child left => exact .waiting hprogram hdrained hroom hchildren

theorem shellAt_releasing {children : List Pid} {left : List Fd}
    (hprogram : p.program = releasing command .pure children left)
    (hdraining : Draining before ledger left p.table)
    (hroom : need goal.toList.length programs.length ≤ before.room limit)
    (hchildren : ledger.children.length = programs.length) :
    ShellAt before limit goal programs command fair idle ledger plumbing laid p := by
  cases left with
  | nil => exact shellAt_waiting hprogram hdraining hroom hchildren
  | cons fd left => exact .releasing hprogram hdraining hroom hchildren

theorem shellAt_abandoning {left : List Fd} {failure : ExecFailure}
    (hprogram : p.program = ((Plumbing.closeAll left).bind fun _ => .pure (.error failure)))
    (hdraining : Draining before ledger left p.table)
    (hforetold : fair → Foretold (before.room limit) goal.toList.length programs.length
      (.error failure) ledger.children)
    (hrounds : fair → ledger.rounds + left.length ≤ 4 * programs.length) :
    ShellAt before limit goal programs command fair idle ledger plumbing laid p := by
  cases left with
  | nil => exact .finished hprogram hdraining hforetold fun hfair _ _ => hrounds hfair
  | cons fd left => exact .abandoning hprogram hdraining hforetold hrounds

/-- All pipes that are needed have found room. -/
theorem Fitted.need_le {table : Table} (h : Fitted before limit goal ledger plumbing table)
    (hcount : plumbing.pipes.length = programs.length - 1) :
    need goal.toList.length programs.length ≤ before.room limit := by
  have hroom := h.room
  have hlength := h.length
  unfold need
  omega

theorem shellAt_forking {stage : Nat} {left : List (List Bytes)} {children : List Pid}
    (hprogram : p.program = forking command .pure plumbing stage left children)
    (hfitted : Fitted before limit goal ledger plumbing p.table) (hlaid : p.table = laid)
    (hcount : plumbing.pipes.length = programs.length - 1)
    (hchildren : ledger.children.length = stage) (hleft : stage + left.length = programs.length)
    (hrounds : left ≠ [] → fair → idle →
      ledger.rounds ≤ goal.toList.length + programs.length + stage) :
    ShellAt before limit goal programs command fair idle ledger plumbing laid p := by
  cases left with
  | nil =>
      exact shellAt_releasing hprogram hfitted.draining (hfitted.need_le hcount)
        (hchildren.trans hleft)
  | cons arguments left =>
      exact .forking hprogram hfitted hlaid hcount hchildren hleft (hrounds (by simp))

theorem shellAt_laying {count : Nat}
    (hprogram : p.program = laying command .pure programs count plumbing)
    (hfitted : Fitted before limit goal ledger plumbing p.table)
    (hcount : plumbing.pipes.length + count = programs.length - 1)
    (hchildren : ledger.children = [])
    (hrounds : fair → ledger.rounds ≤ goal.toList.length + plumbing.pipes.length) :
    ShellAt before limit goal programs command fair idle ledger plumbing p.table p := by
  cases count with
  | zero =>
      refine .flushing hprogram hfitted rfl hcount hchildren fun hfair _ => ?_
      exact hcount ▸ hrounds hfair
  | succ count => exact .laying hprogram hfitted hcount hchildren hrounds

/-! ## Steps of the shell -/

/-- The shell has come to a place on its way, with the limit and, if it is idle, with nothing held
back. It has no more children unless it forks. Once it forks, or has forked, what it has taken for
the pipeline is settled. -/
def Arrives (before : Table) (limit : Nat) (goal : Option Bytes) (programs : List (List Bytes))
    (command : String) (fair idle forks : Prop) (plumbing : Plumbing) (laid : Table)
    (ledger later : Ledger) (q : Process Outcome) : Prop :=
  q.limit = limit ∧ (idle → q.pending = []) ∧ (¬forks → later.children = ledger.children) ∧
    ∃ plumbing' laid',
      ShellAt before limit goal programs command fair idle later plumbing' laid' q ∧
      (ledger.children ≠ [] ∨ forks → plumbing' = plumbing ∧ laid' = laid ∧
        later.taken = ledger.taken ∧ later.pipes = ledger.pipes ∧ later.opened = ledger.opened)

section Step

variable (hordered : before.Ordered) (hp : s.process? shell = some p) (hactive : p.active = true)
  (hlimit : p.limit = limit) (hpending : idle → p.pending = [])
  (hstep : step launch s shell = some s') (hq : s'.process? shell = some q)

include hp hq in
theorem eq_of_stepped (heq : s' = after.setProcess changed) (hpid : changed.pid = p.pid) :
    q = changed := by
  obtain ⟨hmem, hsame⟩ := mem_of_process? hq
  rw [heq] at hmem
  exact eq_of_own hp hmem hsame hpid

include hp hactive hlimit hpending hstep hq in
/-- A number is given up. -/
theorem step_closing {forks : Prop} {fd : Fd} {left : List Fd} {rest : Unit → Prog Outcome}
    (hprogram : p.program = (Plumbing.closeAll (fd :: left)).bind rest)
    (hat : ∀ {q : Process Outcome}, q.program = (Plumbing.closeAll left).bind rest →
      q.table = p.table.erase fd → ShellAt before limit goal programs command fair idle
        { ledger with closed := ledger.closed ++ [fd], rounds := ledger.rounds + 1 }
        plumbing laid q) :
    Arrives before limit goal programs command fair idle forks plumbing laid
      ledger (ledger.note s s' p q) q := by
  have hafter := Option.some.inj (hstep.symm.trans (step_closeAll hp hactive hprogram))
  have hsame := eq_of_stepped hp hq hafter rfl
  have hrequest : p.program.request? = some (.close fd) := by
    rw [hprogram]
    rfl
  have hgained : Table.gained p.table q.table = [] := by
    rw [hsame]
    exact Table.gained_erase
  rw [Ledger.note_still hrequest hgained (by rw [hafter]; rfl) (by rw [hafter]; rfl), hsame]
  exact ⟨hlimit, hpending, fun _ => rfl, plumbing, laid, hat rfl rfl,
    fun _ => ⟨rfl, rfl, rfl, rfl, rfl⟩⟩

include hordered hp hactive hlimit hpending hstep hq in
/-- The target is opened, or it is not. -/
theorem step_opening {forks : Prop} (hfirst : ¬(ledger.children ≠ [] ∨ forks)) {path : Bytes}
    {access : Access} {failure : Errno → ExecFailure}
    (hgoal : goal = some path)
    (hfailure : ∀ errno, ∃ name cause, failure errno = .target name cause)
    (hprogram : p.program = .ask (.openPath path access true) interrupted
      (opened command .pure programs failure)) (htable : p.table = before)
    (hledger : ledger = { rounds := ledger.rounds }) (hrounds : fair → ledger.rounds = 0)
    (hopens : fair → ∃ endpoint files, s.endpointAt p path access = .ok (endpoint, files)) :
    Arrives before limit goal programs command fair idle forks plumbing laid
      ledger (ledger.note s s' p q) q := by
  have hrequest : p.program.request? = some (.openPath path access true) := by
    rw [hprogram]
    rfl
  have hfree : p.table.get? p.table.free = none := htable ▸ hordered.get?_free
  obtain ⟨reply, answered, after, hopened, hafter⟩ := step_openPath hp hactive hstep hprogram
  cases hopened with
  | @refused errno hwhy =>
      have hsame := eq_of_stepped hp hq hafter rfl
      -- what can be opened is refused for want of room only
      have hroom : fair → errno = .tooManyFiles ∧ before.room limit = 0 := by
        intro hfair
        obtain ⟨endpoint, files, hendpoint⟩ := hopens hfair
        rcases hwhy with ⟨hle, herrno⟩ | herror
        · have hfull := mt hordered.free_lt_iff.mpr (Nat.not_lt_of_le (htable ▸ hlimit ▸ hle))
          exact ⟨herrno, by omega⟩
        · cases hendpoint.symm.trans herror
      rw [Ledger.note_kept hrequest (by rw [hsame]) (by rw [hafter]; rfl)
        (by rw [hafter]; rfl), hsame]
      refine ⟨hlimit, hpending, fun _ => rfl, plumbing, laid, ?_, fun h => absurd h hfirst⟩
      rw [hledger]
      by_cases hretry : interrupted (.error errno) = true
      · refine .opening hgoal hfailure (if_pos hretry) htable rfl fun hfair => ?_
        obtain ⟨rfl, -⟩ := hroom hfair
        exact absurd hretry (by decide)
      · have hdrained : Draining before { rounds := ledger.rounds + 1 } [] p.table :=
          ⟨Table.without_nil.trans htable, .refl _, List.nodup_nil⟩
        refine .finished (if_neg hretry) hdrained (fun hfair => ?_) fun hfair _ hlt => ?_
        · obtain ⟨-, hzero⟩ := hroom hfair
          obtain ⟨name, cause, hname⟩ := hfailure errno
          exact hname ▸ foretold_of_unopened hzero hgoal
        · rw [hrounds hfair]
          exact Nat.le_trans (by omega : 0 + 1 ≤ 4) (Nat.le_mul_of_pos_right 4 (Nat.pos_of_ne_zero
            fun hzero => by simp [hzero] at hlt))
  | opened hbelow =>
      have hsame := eq_of_stepped hp hq hafter rfl
      rw [Ledger.note_opened hrequest hfree (by rw [hsame]) (by rw [hafter]; rfl)
        (by rw [hafter]; rfl), hsame, hledger]
      refine ⟨hlimit, hpending, fun _ => rfl, ⟨[], some p.table.free⟩, _,
        shellAt_laying rfl ?_ (Nat.zero_add _) rfl ?_,
        fun h => absurd (.inr (h.resolve_left fun hne => hne rfl)) hfirst⟩
      · rw [hgoal, ← htable]
        exact fitted_of_target (htable ▸ hordered) hfree (hlimit ▸ hbelow)
      · intro hfair
        rw [hrounds hfair, hgoal]
        exact Nat.le_refl _

include hp hactive hlimit hpending hstep hq in
/-- A pipe is made, or there is no room for it. -/
theorem step_laying {forks : Prop} (hfirst : ¬(ledger.children ≠ [] ∨ forks)) {count : Nat}
    (hprogram : p.program = laying command .pure programs (count + 1) plumbing)
    (hfitted : Fitted before limit goal ledger plumbing p.table)
    (hcount : plumbing.pipes.length + (count + 1) = programs.length - 1)
    (hchildren : ledger.children = [])
    (hrounds : fair → ledger.rounds ≤ goal.toList.length + plumbing.pipes.length) :
    Arrives before limit goal programs command fair idle forks plumbing laid
      ledger (ledger.note s s' p q) q := by
  have hlength := hfitted.length
  have hroom := hfitted.room
  have hgoal : goal.toList.length ≤ 1 := by cases goal <;> simp
  rw [laying_succ] at hprogram
  have hrequest : p.program.request? = some .pipe := by
    rw [hprogram]
    rfl
  rw [step_answered hp hactive rfl hprogram] at hstep
  simp only [answer, Option.map_some, Option.some.injEq] at hstep
  unfold openPipe at hstep
  dsimp only at hstep
  split at hstep
  case isTrue hle =>
    have hsame := eq_of_stepped hp hq hstep.symm rfl
    have hfull := mt hfitted.ordered.freeFrom_lt_iff.mpr (Nat.not_lt_of_le (hlimit ▸ hle))
    rw [Ledger.note_kept hrequest (by rw [hsame]) (by rw [← hstep]; rfl)
      (by rw [← hstep]; rfl), hsame]
    refine ⟨hlimit, hpending, fun _ => rfl, plumbing, laid,
      shellAt_abandoning rfl ?_ (fun hfair => ?_) (fun hfair => ?_), fun h => absurd h hfirst⟩
    · exact hfitted.draining.congr rfl (List.append_nil _)
    · unfold Foretold need
      refine ⟨⟨?_, fun hlt => by omega⟩, ⟨fun _ => by omega, fun _ => ⟨_, rfl⟩⟩,
        fun hle => by omega⟩
      rintro ⟨path, cause, heq⟩
      cases heq
    · have hpace := hrounds hfair
      dsimp only
      omega
  case isFalse hlt =>
    have hsame := eq_of_stepped hp hq hstep.symm rfl
    have hpipes : s'.pipes.length = s.pipes.length + 1 := by
      rw [← hstep]
      simp [install]
    rw [Ledger.note_piped hrequest hpipes (by rw [← hstep]; rfl), hsame]
    refine ⟨hlimit, hpending, fun _ => rfl, _, _, shellAt_laying rfl ?_ ?_ hchildren ?_,
      fun h => absurd h hfirst⟩
    · exact hfitted.append hfitted.ordered.get?_free hfitted.ordered.get?_freeFrom
        Table.lt_freeFrom_succ (hlimit ▸ Nat.lt_of_not_le hlt) ⟨rfl, rfl⟩ ⟨rfl, rfl⟩
    · rw [List.length_append, List.length_singleton]
      omega
    · intro hfair
      have hpace := hrounds hfair
      rw [List.length_append, List.length_singleton]
      dsimp only
      omega

include hp hactive hlimit hpending hstep hq in
/-- What is held back is written, in one step or in several. -/
theorem step_flushing {forks : Prop}
    (hprogram : p.program = flushing command .pure programs plumbing)
    (hfitted : Fitted before limit goal ledger plumbing p.table) (hlaid : p.table = laid)
    (hcount : plumbing.pipes.length = programs.length - 1) (hchildren : ledger.children = [])
    (hrounds : fair → idle → ledger.rounds ≤ goal.toList.length + (programs.length - 1)) :
    Arrives before limit goal programs command fair idle forks plumbing laid
      ledger (ledger.note s s' p q) q := by
  have hask : p.program = .ask .flush (fun _ => false) fun _ =>
    forking command .pure plumbing 0 programs [] := hprogram
  have hrequest : p.program.request? = some .flush := by
    rw [hask]
    rfl
  have hforking : ∀ {q : Process Outcome}, q.table = p.table →
      q.program = forking command .pure plumbing 0 programs [] →
      ShellAt before limit goal programs command fair idle { ledger with
        closed := ledger.closed ++ (closing? .flush).toList
        rounds := ledger.rounds + 1 } plumbing laid q := by
    intro q htable hprogram
    refine shellAt_forking hprogram ?_ (htable.trans hlaid) hcount (by rw [hchildren]; rfl)
      (Nat.zero_add _) fun hne hfair hidle => ?_
    · rw [htable]
      exact hfitted.congr rfl (List.append_nil _) rfl rfl
    · have hpace := hrounds hfair hidle
      have hsome := List.length_pos_iff.mpr hne
      dsimp only
      omega
  cases hnone : p.pending.isEmpty with
  | true =>
      have hafter :=
        Option.some.inj (hstep.symm.trans (step_flush_of_isEmpty hp hactive hask hnone))
      have hsame := eq_of_stepped hp hq hafter rfl
      rw [Ledger.note_kept hrequest (by rw [hsame]) (by rw [hafter]; rfl)
        (by rw [hafter]; rfl), hsame]
      exact ⟨hlimit, hpending, fun _ => rfl, plumbing, laid, hforking rfl rfl,
        fun _ => ⟨rfl, rfl, rfl, rfl, rfl⟩⟩
  | false =>
      have hbusy : ¬idle := fun hidle => by simp [hpending hidle] at hnone
      rw [step_flush hp hactive hask hnone, Option.map_eq_some_iff] at hstep
      obtain ⟨⟨reply, after⟩, hwrite, hafter⟩ := hstep
      have hquiet := quiet_writeSome hwrite
      cases reply with
      | error errno =>
          have hsame := eq_of_stepped hp hq hafter.symm rfl
          rw [Ledger.note_kept hrequest (by rw [hsame]) (by rw [← hafter]; exact hquiet.pipes)
            (by rw [← hafter]; exact hquiet.nextPid), hsame]
          exact ⟨hlimit, fun _ => rfl, fun _ => rfl, plumbing, laid, hforking rfl rfl,
            fun _ => ⟨rfl, rfl, rfl, rfl, rfl⟩⟩
      | ok left =>
          have hsame := eq_of_stepped hp hq hafter.symm rfl
          rw [Ledger.note_kept hrequest (by rw [hsame]) (by rw [← hafter]; exact hquiet.pipes)
            (by rw [← hafter]; exact hquiet.nextPid), hsame]
          refine ⟨hlimit, fun hidle => absurd hidle hbusy, fun _ => rfl, plumbing, laid, ?_,
            fun _ => ⟨rfl, rfl, rfl, rfl, rfl⟩⟩
          exact .flushing hprogram (hfitted.congr rfl (List.append_nil _) rfl rfl) hlaid hcount
            hchildren fun _ hidle => absurd hidle hbusy

include hp hactive hlimit hpending hstep hq in
/-- The next stage gets a process. -/
theorem step_forking {forks : Prop} (hforks : forks) {stage : Nat} {arguments : List Bytes}
    {left : List (List Bytes)} {children : List Pid}
    (hnumbered : ∀ p ∈ s.processes, p.pid < s.nextPid)
    (hprogram : p.program = forking command .pure plumbing stage (arguments :: left) children)
    (hfitted : Fitted before limit goal ledger plumbing p.table) (hlaid : p.table = laid)
    (hcount : plumbing.pipes.length = programs.length - 1)
    (hchildren : ledger.children.length = stage)
    (hleft : stage + (left.length + 1) = programs.length)
    (hrounds : fair → idle → ledger.rounds ≤ goal.toList.length + programs.length + stage) :
    Arrives before limit goal programs command fair idle forks plumbing laid
      ledger (ledger.note s s' p q) q := by
  rw [forking_cons] at hprogram
  have hrequest : p.program.request? = some .fork := by
    rw [hprogram]
    rfl
  have hafter := Option.some.inj (hstep.symm.trans (step_fork hp hactive hprogram))
  obtain ⟨hmem, hpid⟩ := mem_of_process? hp
  have hsame : q = { p with
      program := forking command .pure plumbing (stage + 1) left (children ++ [s.nextPid]) } := by
    obtain ⟨hin, hown⟩ := mem_of_process? hq
    rw [hafter] at hin
    rcases List.mem_append.mp hin with hin | hin
    · exact eq_of_own hp hin hown rfl
    · -- the child has the next number, and the shell an earlier one
      have hchild : q.pid = s.nextPid := congrArg Process.pid (List.mem_singleton.mp hin)
      have hlt := hnumbered p hmem
      rw [hpid, ← hown, hchild] at hlt
      exact absurd hlt (Nat.lt_irrefl _)
  rw [Ledger.note_forked hrequest (by rw [hsame]) (by rw [hafter]; rfl) (by rw [hafter]), hsame]
  refine ⟨hlimit, hpending, fun hnot => absurd hforks hnot, plumbing, laid, ?_,
    fun _ => ⟨rfl, rfl, rfl, rfl, rfl⟩⟩
  refine shellAt_forking rfl (hfitted.congr rfl rfl rfl rfl) hlaid hcount ?_ ?_ ?_
  · rw [List.length_append, hchildren]
    rfl
  · omega
  · intro _ hfair hidle
    have hpace := hrounds hfair hidle
    dsimp only
    omega

include hp hactive hlimit hpending hstep hq in
/-- The shell is told of a child, or of something else. -/
theorem step_waiting {forks : Prop} {codes : List Int} {child : Pid} {left : List Pid}
    (hprogram : p.program = waiting command .pure codes (child :: left))
    (hdrained : Draining before ledger [] p.table)
    (hroom : need goal.toList.length programs.length ≤ before.room limit)
    (hchildren : ledger.children.length = programs.length) :
    Arrives before limit goal programs command fair idle forks plumbing laid
      ledger (ledger.note s s' p q) q := by
  have hask := hprogram
  rw [waiting_cons] at hask
  have hrequest : p.program.request? = some (.wait (some child)) := by
    rw [hask]
    rfl
  rw [step_answered hp hactive rfl hask] at hstep
  simp only [answer, Option.map_map, Option.map_eq_some_iff] at hstep
  obtain ⟨⟨reply, after⟩, hwait, hafter⟩ := hstep
  obtain ⟨hnext, hpipes, -⟩ := waitFor_effect hwait
  have hsame := eq_of_stepped hp hq hafter.symm rfl
  rw [Ledger.note_kept hrequest (by rw [hsame])
    (by rw [← hafter]; exact congrArg List.length hpipes)
    (by rw [← hafter]; exact hnext), hsame]
  refine ⟨hlimit, hpending, fun _ => rfl, plumbing, laid, ?_, fun _ => ⟨rfl, rfl, rfl, rfl, rfl⟩⟩
  have hstill : Draining before { ledger with
      closed := ledger.closed ++ (closing? (.wait (some child))).toList
      rounds := ledger.rounds + 1 } [] p.table := hdrained.congr rfl (List.append_nil _)
  rcases waiting_proceeds command .pure codes child left reply (hask.symm.trans hprogram).symm
    with hgoes | ⟨-, -, code, -, -, hgoes⟩ | ⟨errno, hgoes⟩
  · exact shellAt_waiting hgoes hstill hroom hchildren
  · exact shellAt_waiting hgoes hstill hroom hchildren
  · refine .finished hgoes hstill (fun _ => ?_) fun _ _ hlt => ?_
    · exact foretold_of_room hroom hchildren (by simp) (by simp)
    · dsimp only at hlt
      omega

include hordered hp hactive hlimit hpending hstep hq in
/-- Each step of the shell takes it on its way. -/
theorem ShellAt.step (hnumbered : ∀ p ∈ s.processes, p.pid < s.nextPid)
    (hopens : fair → ∀ path access closeOnExec,
      p.program.request? = some (.openPath path access closeOnExec) →
      ∃ endpoint files, s.endpointAt p path access = .ok (endpoint, files))
    (h : ShellAt before limit goal programs command fair idle ledger plumbing laid p) :
    Arrives before limit goal programs command fair idle (p.program.request? = some .fork) plumbing
      laid ledger (ledger.note s s' p q) q := by
  cases h with
  | opening hgoal hfailure hprogram htable hledger hrounds =>
      have hfirst : ¬(ledger.children ≠ [] ∨ p.program.request? = some .fork) := by
        rintro (hne | hfork)
        · rw [hledger] at hne
          exact hne rfl
        · rw [hprogram] at hfork
          cases hfork
      exact step_opening hordered hp hactive hlimit hpending hstep hq hfirst hgoal hfailure hprogram
        htable hledger hrounds fun hfair => hopens hfair _ _ true (by rw [hprogram]; rfl)
  | laying hprogram hfitted hcount hchildren hrounds =>
      have hfirst : ¬(ledger.children ≠ [] ∨ p.program.request? = some .fork) := by
        rintro (hne | hfork)
        · exact hne hchildren
        · rw [hprogram, laying_succ] at hfork
          cases hfork
      exact step_laying hp hactive hlimit hpending hstep hq hfirst hprogram hfitted hcount hchildren
        hrounds
  | abandoning hprogram hdraining hforetold hrounds =>
      refine step_closing hp hactive hlimit hpending hstep hq hprogram fun hgoes htable => ?_
      refine shellAt_abandoning hgoes (htable ▸ hdraining.close) hforetold fun hfair => ?_
      have hpace := hrounds hfair
      dsimp only
      omega
  | flushing hprogram hfitted hlaid hcount hchildren hrounds =>
      exact step_flushing hp hactive hlimit hpending hstep hq hprogram hfitted hlaid hcount
        hchildren hrounds
  | forking hprogram hfitted hlaid hcount hchildren hleft hrounds =>
      have hforks : p.program.request? = some .fork := by
        rw [hprogram, forking_cons]
        rfl
      exact step_forking hp hactive hlimit hpending hstep hq hforks hnumbered hprogram hfitted hlaid
        hcount hchildren hleft hrounds
  | releasing hprogram hdraining hroom hchildren =>
      refine step_closing hp hactive hlimit hpending hstep hq hprogram fun hgoes htable => ?_
      exact shellAt_releasing hgoes (htable ▸ hdraining.close) hroom hchildren
  | waiting hprogram hdrained hroom hchildren =>
      exact step_waiting hp hactive hlimit hpending hstep hq hprogram hdrained hroom hchildren
  | finished hprogram =>
      exact absurd (hstep.symm.trans (step_pure hp hactive hprogram)) (by simp)

end Step

/-- Where the shell is concerns its program and its table alone. -/
theorem ShellAt.congr
    (h : ShellAt before limit goal programs command fair idle ledger plumbing laid p)
    (hprogram : q.program = p.program) (htable : q.table = p.table) :
    ShellAt before limit goal programs command fair idle ledger plumbing laid q := by
  cases h with
  | opening hgoal hfailure hopening hbefore hledger hrounds =>
      exact .opening hgoal hfailure (hprogram.trans hopening) (htable.trans hbefore) hledger hrounds
  | laying hlaying hfitted hcount hchildren hrounds =>
      exact .laying (hprogram.trans hlaying) (htable ▸ hfitted) hcount hchildren hrounds
  | abandoning habandoning hdraining hforetold hrounds =>
      exact .abandoning (hprogram.trans habandoning) (htable ▸ hdraining) hforetold hrounds
  | flushing hflushing hfitted hlaid hcount hchildren hrounds =>
      exact .flushing (hprogram.trans hflushing) (htable ▸ hfitted) (htable.trans hlaid) hcount
        hchildren hrounds
  | forking hforking hfitted hlaid hcount hchildren hleft hrounds =>
      exact .forking (hprogram.trans hforking) (htable ▸ hfitted) (htable.trans hlaid) hcount
        hchildren hleft hrounds
  | releasing hreleasing hdraining hroom hchildren =>
      exact .releasing (hprogram.trans hreleasing) (htable ▸ hdraining) hroom hchildren
  | waiting hwaiting hdrained hroom hchildren =>
      exact .waiting (hprogram.trans hwaiting) (htable ▸ hdrained) hroom hchildren
  | finished hfinished hdrained hforetold hrounds =>
      exact .finished (hprogram.trans hfinished) (htable ▸ hdrained) hforetold hrounds

end Arriving

/-! ## One pipeline -/

section Whole

variable {before : Table} {limit : Nat} {goal : Option Bytes} {programs : List (List Bytes)}
  {command : String} {fair idle : Prop} {plumbing : Plumbing} {laid : Table} {ledger : Ledger}
  {became : List Pid} {start m : System Outcome} {first : Process Outcome} {pipeline : Pipeline}

/-- The shell is somewhere on its way, with the limit and, if it is idle, with nothing held back. -/
def OnWay (before : Table) (limit : Nat) (goal : Option Bytes) (programs : List (List Bytes))
    (command : String) (fair idle : Prop) (ledger : Ledger) (p : Process Outcome) : Prop :=
  p.limit = limit ∧ (idle → p.pending = []) ∧ ∃ plumbing laid,
    ShellAt before limit goal programs command fair idle ledger plumbing laid p

/-- The shell stays on its way. -/
theorem onWay_of_course (hordered : before.Ordered) (hstart : start.Orderly)
    (hfirst : start.process? shell = some first)
    (hbegins : OnWay before limit goal programs command fair idle {} first)
    (hopens : fair → ∀ {ledger became s p}, Course launch shell start ledger became s →
      s.process? shell = some p → p.active = true → ∀ path access closeOnExec,
      p.program.request? = some (.openPath path access closeOnExec) →
      ∃ endpoint files, s.endpointAt p path access = .ok (endpoint, files))
    (hcourse : Course launch shell start ledger became s) (hq : s.process? shell = some q)
    (halive : q.ending = none) :
    OnWay before limit goal programs command fair idle ledger q := by
  refine hcourse.keeps hstart hfirst (OnWay before limit goal programs command fair idle) hbegins
    ?_ ?_ hq halive
  · rintro ledger p q ⟨hlimit, hpending, plumbing, laid, hat⟩ hundisturbed halive
    obtain ⟨-, htable, hsame⟩ := hundisturbed.underway halive
    exact ⟨hundisturbed.limit.trans hlimit, fun hidle => hsame.trans (hpending hidle), plumbing,
      laid, hat.congr hundisturbed.program htable⟩
  · rintro ledger became s s' p q hcourse hp hactive ⟨hlimit, hpending, plumbing, laid, hat⟩
      hstep hq
    obtain ⟨hlimit', hpending', -, plumbing', laid', hat', -⟩ :=
      hat.step hordered hp hactive hlimit hpending hstep hq (hcourse.orderly hstart).numbered
        fun hfair => hopens hfair hcourse hp hactive
    exact ⟨hlimit', hpending', plumbing', laid', hat'⟩

/-- The words of a pipeline hold no NUL, nor does the name of its target. -/
structure Clean (pipeline : Pipeline) : Prop where
  arguments : ∀ stage ∈ pipeline.stages, ∀ argument ∈ stage.arguments, 0 ∉ Text.bytesOf argument
  name : ∀ target, pipeline.target = some target → 0 ∉ Text.bytesOf target.path

theorem cleanBytes_eq {text : String} (h : 0 ∉ Text.bytesOf text) :
    cleanBytes text = .ok (Text.bytesOf text) := by
  unfold cleanBytes
  exact if_neg (by simpa using h)

theorem Clean.mapM_eq_ok (h : Clean pipeline) :
    ∃ programs, pipeline.stages.mapM Stage.argumentBytes = .ok programs := by
  refine exists_mapM_eq_ok fun stage hstage => exists_mapM_eq_ok fun argument hargument => ?_
  exact ⟨_, cleanBytes_eq (h.arguments stage hstage argument hargument)⟩

/-- The name that is opened for a pipeline, and the words of its stages, as bytes. -/
structure Means (pipeline : Pipeline) (goal : Option Bytes) (programs : List (List Bytes)) :
    Prop where
  target : ∀ target, pipeline.target = some target →
    ∃ path, cleanBytes target.path = .ok path ∧ goal = some path
  bare : pipeline.target = none → goal = none
  stages : programs.length = pipeline.stages.length

theorem Means.targets (h : Means pipeline goal programs) :
    goal.toList.length = pipeline.target.toList.length := by
  cases htarget : pipeline.target with
  | none =>
      rw [h.bare htarget]
      rfl
  | some target =>
      obtain ⟨path, -, hgoal⟩ := h.target target htarget
      rw [hgoal]
      rfl

variable (limit fair idle) in
/-- A shell that is about to open what a pipeline needs is at the beginning of its way. -/
theorem shellAt_opening (hprogram : p.program = opening command .pure programs pipeline.target)
    (hlength : programs.length = pipeline.stages.length)
    (hname : ∀ target, pipeline.target = some target → ∃ path, cleanBytes target.path = .ok path)
    (htable : p.table = before) (hordered : before.Ordered) :
    ∃ goal, Means pipeline goal programs ∧
      ShellAt before limit goal programs command fair idle {} ⟨[], none⟩ before p := by
  cases htarget : pipeline.target with
  | none =>
      rw [htarget] at hprogram
      have hfitted : Fitted before limit none {} ⟨[], none⟩ p.table :=
        htable.symm ▸ fitted_of_none hordered
      have hat : ShellAt before limit none programs command fair idle {} ⟨[], none⟩ p.table p :=
        shellAt_laying hprogram hfitted (Nat.zero_add _) rfl fun _ => Nat.zero_le _
      rw [htable] at hat
      exact ⟨none, ⟨by simp [htarget], fun _ => rfl, hlength⟩, hat⟩
  | some target =>
      obtain ⟨path, hpath⟩ := hname target htarget
      rw [htarget, opening_some, hpath] at hprogram
      refine ⟨some path, ⟨?_, by simp [htarget], hlength⟩, ?_⟩
      · rintro other hother
        obtain rfl := Option.some.inj (htarget.symm.trans hother)
        exact ⟨path, hpath, rfl⟩
      · exact .opening rfl (fun errno => ⟨_, _, rfl⟩) hprogram htable rfl fun _ => rfl

variable (limit fair idle) in
/-- A shell that is about to run a pipeline is at the beginning of its way, or at its end if the
pipeline holds a NUL. -/
theorem shellAt_execute (hprogram : p.program = execute pipeline command)
    (htable : p.table = before) (hordered : before.Ordered) (hclean : fair → Clean pipeline) :
    ∃ goal programs,
      (Means pipeline goal programs ∨ ¬fair ∧ goal = none ∧ programs = []) ∧
      ShellAt before limit goal programs command fair idle {} ⟨[], none⟩ before p := by
  have hdrained : Draining before {} [] p.table :=
    ⟨Table.without_nil.trans htable, .refl _, List.nodup_nil⟩
  have hover : ∀ {outcome : Outcome}, p.program = .pure outcome → ¬fair → ∃ goal programs,
      (Means pipeline goal programs ∨ ¬fair ∧ goal = none ∧ programs = []) ∧
      ShellAt before limit goal programs command fair idle {} ⟨[], none⟩ before p :=
    fun hpure hunfair => ⟨none, [], .inr ⟨hunfair, rfl, rfl⟩, .finished hpure hdrained
      (fun hfair => absurd hfair hunfair) fun hfair => absurd hfair hunfair⟩
  rw [← bind_pure (execute pipeline command), execute_bind] at hprogram
  cases hprograms : pipeline.stages.mapM Stage.argumentBytes with
  | error word =>
      rw [hprograms] at hprogram
      refine hover hprogram fun hfair => ?_
      obtain ⟨programs, hok⟩ := (hclean hfair).mapM_eq_ok
      exact absurd (hprograms.symm.trans hok) (by simp)
  | ok programs =>
      rw [hprograms] at hprogram
      have hlength := (forall₂_of_mapM_eq_ok hprograms).length_eq.symm
      by_cases hname : ∀ target, pipeline.target = some target →
        ∃ path, cleanBytes target.path = .ok path
      · obtain ⟨goal, hmeans, hat⟩ :=
          shellAt_opening limit fair idle hprogram hlength hname htable hordered
        exact ⟨goal, programs, .inl hmeans, hat⟩
      · push Not at hname
        obtain ⟨target, htarget, hnot⟩ := hname
        dsimp only at hprogram
        rw [htarget, opening_some] at hprogram
        cases hpath : cleanBytes target.path with
        | ok path => exact absurd hpath (hnot path)
        | error word =>
            rw [hpath] at hprogram
            refine hover hprogram fun hfair => ?_
            exact hnot _ (cleanBytes_eq ((hclean hfair).name target htarget))

/-- The machine when a process begins to run a pipeline. -/
def begun (s : System Outcome) (p : Process Outcome) (pipeline : Pipeline) (command : String) :
    System Outcome :=
  s.setProcess { p with program := execute pipeline command }

theorem process?_begun (horderly : s.Orderly) (hp : s.process? shell = some p) :
    (begun s p pipeline command).process? shell =
      some { p with program := execute pipeline command } :=
  horderly.process?_setProcess hp (mem_of_process? hp).2

/-- Nothing but want of room is against a pipeline: its words hold no NUL, and its target can be
opened whenever the shell comes to open it. -/
structure Openable (launch : Launcher) (shell : Pid) (start : System Outcome)
    (pipeline : Pipeline) : Prop where
  clean : Clean pipeline
  opens : ∀ {ledger became s p}, Course launch shell start ledger became s →
    s.process? shell = some p → p.active = true → ∀ path access closeOnExec,
      p.program.request? = some (.openPath path access closeOnExec) →
      ∃ endpoint files, s.endpointAt p path access = .ok (endpoint, files)

/-- A shell that opens something has a target. -/
theorem ShellAt.goal_of_opens
    (h : ShellAt before limit goal programs command fair idle ledger plumbing laid p)
    {path : Bytes} {access : Access} {closeOnExec : Bool}
    (hrequest : p.program.request? = some (.openPath path access closeOnExec)) :
    goal.isSome = true := by
  cases h with
  | opening hgoal => rw [hgoal]; rfl
  | laying hprogram => rw [hprogram, laying_succ] at hrequest; cases hrequest
  | abandoning hprogram => rw [hprogram] at hrequest; cases hrequest
  | flushing hprogram => rw [hprogram] at hrequest; cases hrequest
  | forking hprogram => rw [hprogram, forking_cons] at hrequest; cases hrequest
  | releasing hprogram => rw [hprogram] at hrequest; cases hrequest
  | waiting hprogram => rw [hprogram, waiting_cons] at hrequest; cases hrequest
  | finished hprogram => rw [hprogram] at hrequest; cases hrequest

/-- Nothing is against a pipeline of clean words without a target. -/
theorem openable_of_unredirected (horderly : m.Orderly) (hp : m.process? shell = some p)
    (hordered : p.table.Ordered) (hclean : Clean pipeline) (htarget : pipeline.target = none) :
    Openable launch shell (begun m p pipeline command) pipeline := by
  refine ⟨hclean, fun {ledger became s q} hcourse hq hactive path access closeOnExec hopens => ?_⟩
  have hprogram : ({ p with program := execute pipeline command } : Process Outcome).program =
    execute pipeline command := rfl
  obtain ⟨goal, programs, hmeans, hat⟩ :=
    shellAt_execute p.limit False False hprogram rfl hordered False.elim
  have hgoal : goal = none := hmeans.elim (fun h => h.bare htarget) fun h => h.2.1
  obtain ⟨-, -, plumbing, laid, hat⟩ := onWay_of_course hordered horderly.setProcess
    (process?_begun horderly hp) ⟨rfl, False.elim, _, _, hat⟩ False.elim hcourse hq
    (ending_of_active hactive)
  have hsome := hat.goal_of_opens hopens
  rw [hgoal] at hsome
  exact absurd hsome (by simp)

/-- A shell that has not forked all stages yet can make its next step, unless it is done. -/
theorem ShellAt.moves
    (h : ShellAt before limit goal programs command fair idle ledger plumbing laid p)
    (hp : s.process? shell = some p) (hactive : p.active = true) (hpending : p.pending = [])
    (hfew : ledger.children.length < programs.length) :
    (∃ outcome, p.program = .pure outcome) ∨ (System.step launch s shell).isSome = true := by
  have hanswered : ∀ {call : Call} {again next}, call.isSpecial = false →
      p.program = .ask call again next → (s.answer p call).isSome = true →
      (System.step launch s shell).isSome = true := by
    intro call again next hcall hprogram hanswer
    rw [step_answered hp hactive hcall hprogram, Option.isSome_map]
    exact hanswer
  cases h with
  | opening _ _ hprogram => exact .inr (hanswered rfl hprogram rfl)
  | laying hprogram => exact .inr (hanswered rfl (hprogram.trans (laying_succ _ _ _ _ _)) rfl)
  | abandoning hprogram =>
      rw [step_closeAll hp hactive hprogram]
      exact .inr rfl
  | flushing hprogram =>
      have hask : p.program = .ask .flush (fun _ => false) fun _ =>
        Course.forking command .pure plumbing 0 programs [] := hprogram
      rw [step_flush_of_isEmpty hp hactive hask (by rw [hpending]; rfl)]
      exact .inr rfl
  | forking hprogram =>
      rw [step_fork hp hactive (hprogram.trans (forking_cons _ _ _ _ _ _ _))]
      exact .inr rfl
  | releasing _ _ _ hchildren => exact absurd hchildren (Nat.ne_of_lt hfew)
  | waiting _ _ _ hchildren => exact absurd hchildren (Nat.ne_of_lt hfew)
  | finished hprogram => exact .inl ⟨_, hprogram⟩

/-- And it has not made many. -/
theorem ShellAt.rounds_le
    (h : ShellAt before limit goal programs command fair idle ledger plumbing laid p)
    (hfair : fair) (hidle : idle) (hfew : ledger.children.length < programs.length) :
    ledger.rounds ≤ 4 * programs.length := by
  have hgoal : goal.toList.length ≤ 1 := by cases goal <;> simp
  cases h with
  | opening _ _ _ _ _ hrounds =>
      have hpace := hrounds hfair
      omega
  | laying _ _ hcount _ hrounds =>
      have hpace := hrounds hfair
      omega
  | abandoning _ _ _ hrounds =>
      have hpace := hrounds hfair
      omega
  | flushing _ _ _ _ _ hrounds =>
      have hpace := hrounds hfair hidle
      omega
  | forking _ _ _ _ _ _ hrounds =>
      have hpace := hrounds hfair hidle
      omega
  | releasing _ _ _ hchildren => exact absurd hchildren (Nat.ne_of_lt hfew)
  | waiting _ _ _ hchildren => exact absurd hchildren (Nat.ne_of_lt hfew)
  | finished _ _ _ hrounds => exact hrounds hfair hidle hfew

/-- A shell that has come to an outcome has given everything up. -/
theorem ShellAt.of_pure
    (h : ShellAt before limit goal programs command fair idle ledger plumbing laid p)
    {outcome : Outcome} (hpure : p.program = .pure outcome) :
    Draining before ledger [] p.table ∧
      (fair → Foretold (before.room limit) goal.toList.length programs.length outcome
        ledger.children) := by
  cases h with
  | opening _ _ hprogram => exact absurd (hprogram.symm.trans hpure) (by simp)
  | laying hprogram => exact absurd (hprogram.symm.trans hpure) (by rw [laying_succ]; simp)
  | abandoning hprogram => exact absurd (hprogram.symm.trans hpure) nofun
  | flushing hprogram => exact absurd (hprogram.symm.trans hpure) nofun
  | forking hprogram => exact absurd (hprogram.symm.trans hpure) (by rw [forking_cons]; simp)
  | releasing hprogram => exact absurd (hprogram.symm.trans hpure) nofun
  | waiting hprogram => exact absurd (hprogram.symm.trans hpure) (by rw [waiting_cons]; nofun)
  | finished hprogram hdrained hforetold =>
      cases hprogram.symm.trans hpure
      exact ⟨hdrained, hforetold⟩

/-! ## Pipelines one after another -/

/-- The shell has run pipelines one after another, any number of them, to whatever they came. -/
inductive Calls (launch : Launcher) (shell : Pid) (start : System Outcome) :
    System Outcome → Prop
  | start : Calls launch shell start start
  | call {s m p q pipeline command ledger became outcome} : Calls launch shell start s →
      s.process? shell = some p →
      Course launch shell (begun s p pipeline command) ledger became m →
      m.process? shell = some q → q.ending = none → q.program = .pure outcome →
      Calls launch shell start m

/-- One more pipeline leaves the table, the limit and what is held back, and comes to what the room
in the table tells. -/
theorem restored_of_course (horderly : m.Orderly) (hp : m.process? shell = some p)
    (hordered : p.table.Ordered)
    (hcourse : Course launch shell (begun m p pipeline command) ledger became s)
    (hq : s.process? shell = some q) (halive : q.ending = none) :
    q.limit = p.limit ∧ (p.pending = [] → q.pending = []) ∧ ∃ goal programs plumbing laid,
      (Openable launch shell (begun m p pipeline command) pipeline → Means pipeline goal programs) ∧
      ShellAt p.table p.limit goal programs command
        (Openable launch shell (begun m p pipeline command) pipeline) (p.pending = []) ledger
        plumbing laid q := by
  have hclean : Openable launch shell (begun m p pipeline command) pipeline → Clean pipeline :=
    fun hopenable => hopenable.clean
  have hprogram : ({ p with program := execute pipeline command } : Process Outcome).program =
    execute pipeline command := rfl
  obtain ⟨goal, programs, hmeans, hat⟩ :=
    shellAt_execute p.limit _ (p.pending = []) hprogram rfl hordered hclean
  obtain ⟨hlimit, hpending, plumbing, laid, hat⟩ := onWay_of_course hordered horderly.setProcess
    (process?_begun horderly hp) ⟨rfl, id, _, _, hat⟩ (fun hopenable => hopenable.opens) hcourse hq
    halive
  exact ⟨hlimit, hpending, goal, programs, plumbing, laid,
    fun hopenable => hmeans.resolve_right fun h => h.1 hopenable, hat⟩

/-- The shell has after any number of pipelines what it had before them. -/
theorem Calls.restored (hstart : start.Orderly) (hfirst : start.process? shell = some first)
    (hlive : first.ending = none) (hordered : first.table.Ordered)
    (hcalls : Calls launch shell start m) :
    m.Orderly ∧ ∃ p, m.process? shell = some p ∧ p.ending = none ∧ p.table = first.table ∧
      p.limit = first.limit ∧ (first.pending = [] → p.pending = []) := by
  induction hcalls with
  | start => exact ⟨hstart, first, hfirst, hlive, rfl, rfl, id⟩
  | call _ hp hcourse hq halive hpure ih =>
      obtain ⟨horderly, p, hsame, -, htable, hlimit, hpending⟩ := ih
      cases hp.symm.trans hsame
      obtain ⟨hlimit', hpending', goal, programs, plumbing, laid, -, hat⟩ :=
        restored_of_course horderly hp (htable ▸ hordered) hcourse hq halive
      have hstrip := (hat.of_pure hpure).1.strip
      rw [Table.without_nil] at hstrip
      exact ⟨hcourse.orderly horderly.setProcess, _, hq, halive, hstrip.trans htable,
        hlimit'.trans hlimit, fun hnone => hpending' (hpending hnone)⟩

/-- **Open files of the shell.** Whatever pipelines the shell has run, to whatever they came, and
whatever others do meanwhile: when the next pipeline is over, the shell has the open files and the
limit that it had before all of them, and every number that it took for the pipeline it has given up
once. Where nothing but want of room is against the pipeline, the room that there was in the
beginning tells whether it fails for its target, for a pipe, or not so and all its stages have been
forked; and a shell that holds nothing back and has not been stopped comes to that without waiting
for anything, in four steps a stage at most. -/
theorem table_restored (hstart : start.Orderly) (hfirst : start.process? shell = some first)
    (hlive : first.ending = none) (hordered : first.table.Ordered)
    (hcalls : Calls launch shell start m) (hp : m.process? shell = some p)
    (hcourse : Course launch shell (begun m p pipeline command) ledger became s)
    (hq : s.process? shell = some q) (halive : q.ending = none) :
    p.table = first.table ∧ p.limit = first.limit ∧
    (∀ outcome, q.program = .pure outcome →
      q.table = first.table ∧ q.limit = first.limit ∧
      ledger.closed.Perm (ledger.taken.map Prod.fst) ∧ ledger.closed.Nodup ∧
      (Openable launch shell (begun m p pipeline command) pipeline →
        Foretold (first.table.room first.limit) pipeline.target.toList.length
          pipeline.stages.length outcome ledger.children)) ∧
    (Openable launch shell (begun m p pipeline command) pipeline → first.pending = [] →
      ledger.children.length < pipeline.stages.length →
      ledger.rounds ≤ 4 * pipeline.stages.length ∧
        (q.active = true → (∃ outcome, q.program = .pure outcome) ∨
          (step launch s shell).isSome = true)) := by
  obtain ⟨horderly, p', hsame, -, htable, hlimit, hpending⟩ :=
    hcalls.restored hstart hfirst hlive hordered
  cases hp.symm.trans hsame
  obtain ⟨hlimit', hpending', goal, programs, plumbing, laid, hmeans, hat⟩ :=
    restored_of_course horderly hp (htable ▸ hordered) hcourse hq halive
  refine ⟨htable, hlimit, fun outcome hpure => ?_, fun hopenable hidle hfew => ?_⟩
  · obtain ⟨hdrained, hforetold⟩ := hat.of_pure hpure
    have hstrip := hdrained.strip
    have hpaid := hdrained.paid
    rw [Table.without_nil] at hstrip
    rw [List.append_nil] at hpaid
    refine ⟨hstrip.trans htable, hlimit'.trans hlimit, hpaid, hpaid.nodup_iff.mpr hdrained.once,
      fun hopenable => ?_⟩
    rw [← htable, ← hlimit, ← (hmeans hopenable).targets, ← (hmeans hopenable).stages]
    exact hforetold hopenable
  · rw [← (hmeans hopenable).stages] at hfew ⊢
    refine ⟨hat.rounds_le hopenable (hpending hidle) hfew, fun hactive => ?_⟩
    exact hat.moves hq hactive (hpending' (hpending hidle)) hfew

end Whole

/-! ## Room for one number -/

/-- A shell that is done with something, with room for one more open file. -/
def crammedShell : Process Outcome where
  pid := 1
  parent := 0
  program := .pure (.ok ⟨"", []⟩)
  table := [Fd.stdin, Fd.stdout, Fd.stderr].map fun fd =>
    (fd, ⟨⟨.terminal, { read := true, write := true }, 0⟩, false⟩)
  limit := 4
  directory := Files.root
  bindings := []
  pending := []
  ending := none

/-- A machine with nothing but the shell. -/
def crammed : System Outcome where
  files := .empty
  cells := [0]
  pipes := []
  typed := []
  processes := [crammedShell]
  nextPid := 2

/-- The shell when it has been refused a pipe. -/
def refusedShell : Process Outcome :=
  { crammedShell with program := .pure (.error (.pipe .tooManyFiles)) }

/-- Two programs, the first one feeding the second one. -/
def joint : Pipeline := ⟨[⟨"yes", []⟩, ⟨"head", []⟩], none⟩

/-- The second of two pipelines is refused a pipe like the first one, for want of room for two
numbers, and leaves the table as it was. -/
theorem crammed_restored :
    crammedShell.table.room crammedShell.limit = 1 ∧
    ∃ outcome, refusedShell.program = .pure outcome ∧ (∃ errno, outcome = .error (.pipe errno)) ∧
      refusedShell.table = crammedShell.table := by
  have hroom : crammedShell.table.room crammedShell.limit = 1 := by decide
  have hsound : crammed.Sound := .of_terminal rfl (by decide) (by unfold Table.Ordered; decide) rfl
    (by decide)
  have hordered : crammedShell.table.Ordered := hsound.ordered _ List.mem_cons_self
  have hrefused : (crammed.setProcess refusedShell).process? 1 = some refusedShell := rfl
  -- one step is all that either pipeline takes
  obtain ⟨ledger, hfirst⟩ : ∃ ledger, Course (fun _ _ => none) 1
      (begun crammed crammedShell joint "yes | head") ledger [] (crammed.setProcess refusedShell) :=
    ⟨_, .own .start rfl rfl hrefused⟩
  obtain ⟨later, hsecond⟩ : ∃ ledger, Course (fun _ _ => none) 1
      (begun (crammed.setProcess refusedShell) refusedShell joint "yes | head") ledger []
      (crammed.setProcess refusedShell) :=
    ⟨_, .own .start rfl rfl hrefused⟩
  have hcalls : Calls (fun _ _ => none) 1 crammed (crammed.setProcess refusedShell) :=
    .call .start rfl hfirst hrefused rfl rfl
  obtain ⟨-, -, hover, -⟩ :=
    table_restored hsound.orderly rfl rfl hordered hcalls hrefused hsecond hrefused rfl
  obtain ⟨htable, -, -, -, hforetold⟩ := hover _ rfl
  have hclean : Clean joint := ⟨by decide, fun target htarget => by cases htarget⟩
  obtain ⟨-, hpipe, -⟩ :=
    hforetold (openable_of_unredirected hsound.orderly.setProcess hrefused hordered hclean rfl)
  rw [hroom] at hpipe
  exact ⟨hroom, _, rfl, hpipe.mpr ⟨by decide, by decide⟩, htable⟩

end LineShell.Descriptors
