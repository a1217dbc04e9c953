import LineShell.Proofs.Pipeline.Course
import LineShell.Proofs.System.Requests

/-!
# The plumbing of a pipeline

What the numbers of the shell stand for once pipes have been made for a pipeline.

* **`Laid`** — every pipe's ends and the target stand where the plumbing says, and everything else
  is as it was before;
* **`Laid.pipe`** — a further pipe keeps it so;
* **`Laid.input`, `Laid.output`** — what replaces the standard streams of a stage.
-/

namespace LineShell

open LineShell.System

/-- A table in which the ends of the pipes from `first` on, and the file for the output, stand under
the numbers of a plumbing, and nothing else has been added to what was there before. -/
structure Laid (before : Table) (first : PipeId) (suits : Handle → Prop) (plumbing : Plumbing)
    (table : Table) : Prop where
  ordered : table.Ordered
  entries : ∀ entry ∈ table, entry ∈ before ∨ entry.1 ∈ plumbing.descriptors
  kept : ∀ fd descriptor, before.get? fd = some descriptor → table.get? fd = some descriptor
  fresh : ∀ fd ∈ plumbing.descriptors, before.get? fd = none
  reader : ∀ place ends, plumbing.pipes[place]? = some ends → ∃ descriptor,
    table.get? ends.1 = some descriptor ∧
      descriptor.handle.endpoint = .pipeReader (first + place) ∧
      descriptor.handle.access.read = true
  writer : ∀ place ends, plumbing.pipes[place]? = some ends → ∃ descriptor,
    table.get? ends.2 = some descriptor ∧
      descriptor.handle.endpoint = .pipeWriter (first + place) ∧
      descriptor.handle.access.write = true
  target : ∀ fd, plumbing.target = some fd → ∃ descriptor,
    table.get? fd = some descriptor ∧ suits descriptor.handle

/-- Numbers are given up one after the other. -/
theorem step_closeAll {α : Type} {launch : Launcher} {s : System α} {pid : Pid} {p : Process α}
    (hp : s.process? pid = some p) (hactive : p.active = true) {fd : Fd} {left : List Fd}
    {rest : Unit → Prog α} (hprogram : p.program = (Plumbing.closeAll (fd :: left)).bind rest) :
    step launch s pid = some (s.setProcess { p with
      table := p.table.erase fd
      program := (Plumbing.closeAll left).bind rest }) := step_close hp hactive hprogram

namespace Laid

variable {before table : Table} {first : PipeId} {suits : Handle → Prop} {plumbing : Plumbing}

/-- Before any pipe is made there is nothing but the target. -/
theorem of_target (hordered : before.Ordered) {fd : Fd} {descriptor : Descriptor}
    (hfree : before.get? fd = none) (hsuits : suits descriptor.handle) :
    Laid before first suits ⟨[], some fd⟩ (before.set fd descriptor) where
  ordered := hordered.set
  entries := by
    intro entry hentry
    rcases Table.mem_set hentry with rfl | hentry
    · exact .inr List.mem_cons_self
    · exact .inl hentry
  kept := by
    intro other held hget
    exact Table.get?_set_of_free hfree hget
  fresh := by
    intro other hother
    obtain rfl : other = fd := by simpa [Plumbing.descriptors] using hother
    exact hfree
  reader := fun place ends h => absurd h (by simp)
  writer := fun place ends h => absurd h (by simp)
  target := by
    rintro other ⟨rfl⟩
    exact ⟨descriptor, Table.get?_set_self, hsuits⟩

/-- Without a target there is nothing at all. -/
theorem of_none (hordered : before.Ordered) : Laid before first suits ⟨[], none⟩ before where
  ordered := hordered
  entries := fun entry hentry => .inl hentry
  kept := fun fd descriptor h => h
  fresh := fun fd h => absurd h List.not_mem_nil
  reader := fun place ends h => absurd h (by simp)
  writer := fun place ends h => absurd h (by simp)
  target := fun fd h => absurd h (by simp)

theorem mem_descriptors_append {ends : Fd × Fd} {fd : Fd} :
    fd ∈ ({ plumbing with pipes := plumbing.pipes ++ [ends] } : Plumbing).descriptors ↔
      fd ∈ plumbing.descriptors ∨ fd = ends.1 ∨ fd = ends.2 := by
  simp only [Plumbing.descriptors, List.flatMap_append, List.mem_append, List.flatMap_singleton,
    List.mem_cons, List.not_mem_nil, or_false]
  tauto

/-- A further pipe, whose ends stand under numbers that stood for nothing, is laid behind the
others. -/
theorem append (h : Laid before first suits plumbing table) {reader writer : Fd}
    {readerHandle writerHandle : Descriptor} (hreader : table.get? reader = none)
    (hwriter : table.get? writer = none) (hne : reader ≠ writer)
    (hreads : readerHandle.handle.endpoint = .pipeReader (first + plumbing.pipes.length))
    (hwrites : writerHandle.handle.endpoint = .pipeWriter (first + plumbing.pipes.length))
    (hread : readerHandle.handle.access.read = true)
    (hwrite : writerHandle.handle.access.write = true) :
    Laid before first suits { plumbing with pipes := plumbing.pipes ++ [(reader, writer)] }
      ((table.set reader readerHandle).set writer writerHandle) := by
  have hwriter' : (table.set reader readerHandle).get? writer = none := by
    rw [Table.get?_set, if_neg hne.symm, hwriter]
  have hget : ∀ {fd : Fd} {descriptor : Descriptor}, table.get? fd = some descriptor →
      ((table.set reader readerHandle).set writer writerHandle).get? fd = some descriptor :=
    fun hfd => Table.get?_set_of_free hwriter' (Table.get?_set_of_free hreader hfd)
  have hbefore : ∀ {fd : Fd}, table.get? fd = none → before.get? fd = none := by
    intro fd hfd
    cases hsome : before.get? fd with
    | none => rfl
    | some descriptor => exact absurd (hfd.symm.trans (h.kept fd _ hsome)) (by simp)
  refine ⟨h.ordered.set.set, ?_, fun fd _ hfd => hget (h.kept fd _ hfd), ?_, ?_, ?_, ?_⟩
  · intro entry hentry
    rw [mem_descriptors_append]
    rcases Table.mem_set hentry with rfl | hentry
    · exact .inr (.inr (.inr rfl))
    · rcases Table.mem_set hentry with rfl | hentry
      · exact .inr (.inr (.inl rfl))
      · exact (h.entries entry hentry).imp_right .inl
  · intro fd hfd
    rcases mem_descriptors_append.mp hfd with hfd | rfl | rfl
    · exact h.fresh fd hfd
    · exact hbefore hreader
    · exact hbefore hwriter
  · intro place ends hends
    rcases getElem?_concat_cases hends with hends | ⟨rfl, rfl⟩
    · obtain ⟨descriptor, hfd, hrest⟩ := h.reader place ends hends
      exact ⟨descriptor, hget hfd, hrest⟩
    · exact ⟨readerHandle, Table.get?_set_of_free hwriter' Table.get?_set_self, hreads, hread⟩
  · intro place ends hends
    rcases getElem?_concat_cases hends with hends | ⟨rfl, rfl⟩
    · obtain ⟨descriptor, hfd, hrest⟩ := h.writer place ends hends
      exact ⟨descriptor, hget hfd, hrest⟩
    · exact ⟨writerHandle, Table.get?_set_self, hwrites, hwrite⟩
  · intro fd htarget
    obtain ⟨descriptor, hfd, hsuits⟩ := h.target fd htarget
    exact ⟨descriptor, hget hfd, hsuits⟩

variable {α : Type} {s after : System α} {p answered : Process α}

/-- The ends of a pipe that the system makes for the shell stand behind those that are there. -/
theorem pipe (h : Laid before first suits plumbing p.table)
    (hpipes : s.pipes.length = first + plumbing.pipes.length) {ends : Fd × Fd}
    (hmade : s.openPipe p = (.ok ends, answered, after)) :
    Laid before first suits { plumbing with pipes := plumbing.pipes ++ [ends] } answered.table ∧
      after.pipes.length = first + (plumbing.pipes.length + 1) ∧
      after.processes = s.processes ∧ after.nextPid = s.nextPid ∧ after.files = s.files ∧
      answered = { p with table := answered.table } := by
  obtain ⟨rfl, rfl, rfl⟩ := openPipe_ok hmade
  refine ⟨?_, ?_, rfl, rfl, rfl, rfl⟩
  · exact h.append h.ordered.get?_free h.ordered.get?_freeFrom
      (Nat.ne_of_lt Table.lt_freeFrom_succ) (by rw [← hpipes])
      (by rw [← hpipes]) rfl rfl
  · simp [hpipes, Nat.add_assoc]

/-- What replaces the standard input of a stage is the end of the pipe from the stage before. -/
theorem input (h : Laid before first suits plumbing table) {stage : Nat} {fd : Fd}
    (hfd : plumbing.inputOf stage = some fd) : ∃ earlier descriptor, stage = earlier + 1 ∧
      fd ∈ plumbing.descriptors ∧ table.get? fd = some descriptor ∧
      descriptor.handle.endpoint = .pipeReader (first + earlier) ∧
      descriptor.handle.access.read = true := by
  cases stage with
  | zero => exact absurd hfd (by simp [Plumbing.inputOf])
  | succ earlier =>
      simp only [Plumbing.inputOf, Option.map_eq_some_iff] at hfd
      obtain ⟨ends, hends, rfl⟩ := hfd
      obtain ⟨descriptor, hget, hrest⟩ := h.reader earlier ends hends
      refine ⟨earlier, descriptor, rfl, ?_, hget, hrest⟩
      refine List.mem_append_left _ (List.mem_flatMap.mpr ⟨ends, List.mem_of_getElem? hends, ?_⟩)
      exact List.mem_cons_self

/-- What replaces the standard output of a stage is the end of the pipe to the next stage, or for
the last one the target. -/
theorem output (h : Laid before first suits plumbing table) {stage : Nat} {fd : Fd}
    (hfd : plumbing.outputOf stage = some fd) :
    fd ∈ plumbing.descriptors ∧ ∃ descriptor, table.get? fd = some descriptor ∧
      (stage < plumbing.pipes.length ∧
          descriptor.handle.endpoint = .pipeWriter (first + stage) ∧
          descriptor.handle.access.write = true ∨
        plumbing.pipes.length ≤ stage ∧ plumbing.target = some fd ∧ suits descriptor.handle) := by
  unfold Plumbing.outputOf at hfd
  cases hends : plumbing.pipes[stage]? with
  | some ends =>
      rw [hends] at hfd
      obtain rfl : ends.2 = fd := Option.some.inj hfd
      obtain ⟨descriptor, hget, hrest⟩ := h.writer stage ends hends
      refine ⟨?_, descriptor, hget, .inl ⟨(List.getElem?_eq_some_iff.mp hends).1, hrest⟩⟩
      refine List.mem_append_left _ (List.mem_flatMap.mpr ⟨ends, List.mem_of_getElem? hends, ?_⟩)
      exact List.mem_cons_of_mem _ List.mem_cons_self
  | none =>
      rw [hends] at hfd
      obtain ⟨descriptor, hget, hsuits⟩ := h.target fd hfd
      refine ⟨?_, descriptor, hget, .inr ⟨List.getElem?_eq_none_iff.mp hends, hfd, hsuits⟩⟩
      have htarget : plumbing.target.toList = [fd] := by rw [show plumbing.target = some fd from hfd]; rfl
      unfold Plumbing.descriptors
      rw [htarget]
      exact List.mem_append_right _ List.mem_cons_self

end Laid

end LineShell
