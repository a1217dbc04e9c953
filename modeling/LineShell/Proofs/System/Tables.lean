import LineShell.System.Process
import Mathlib.Tactic.Common

/-!
# Tables of open files

What the operations on a table of open files do to what its numbers stand for.

* **`get?_set`, `get?_erase`, `get?_afterExec`** — each operation, number by number;
* **`Ordered`** — the numbers of a table stand in their order, which every operation keeps;
* **`get?_freeFrom`** — in an ordered table, the number that is found to be free is free.
-/

namespace LineShell.Table

variable {table : Table} {fd other least : Fd} {descriptor : Descriptor}

/-- The numbers of a table stand in their order, each of them once. -/
def Ordered (table : Table) : Prop := table.Pairwise fun a b => a.1 < b.1

/-! ## Number by number -/

theorem get?_nil : get? [] fd = none := rfl

theorem get?_cons {entry : Fd × Descriptor} :
    get? (entry :: table) fd = if fd = entry.1 then some entry.2 else get? table fd := by
  unfold get?
  rw [List.lookup_cons]
  by_cases h : fd = entry.1
  · simp [h]
  · rw [if_neg h, beq_false_of_ne h]

@[simp] theorem get?_set :
    (table.set fd descriptor).get? other = if other = fd then some descriptor else table.get? other := by
  induction table with
  | nil => rw [set, get?_cons]
  | cons entry rest ih =>
      obtain ⟨first, held⟩ := entry
      unfold set
      split
      · rw [get?_cons]
      · split
        · rename_i heq
          rw [get?_cons, get?_cons, heq]
          by_cases h : other = first <;> simp [h]
        · rename_i hne
          rw [get?_cons, get?_cons, ih]
          by_cases h : other = first
          · have hother : ¬other = fd := fun heq => hne (heq.symm.trans h)
            simp [h, Ne.symm hne]
          · simp [h]

theorem get?_set_self : (table.set fd descriptor).get? fd = some descriptor := by
  rw [get?_set, if_pos rfl]

/-- A number that is taken when it stands for nothing takes nothing from the others. -/
theorem get?_set_of_free {held : Descriptor} (hfree : table.get? fd = none)
    (hget : table.get? other = some held) : (table.set fd descriptor).get? other = some held := by
  rw [get?_set, if_neg, hget]
  rintro rfl
  exact absurd (hfree.symm.trans hget) (by simp)

@[simp] theorem get?_erase :
    (table.erase fd).get? other = if other = fd then none else table.get? other := by
  unfold erase
  induction table with
  | nil => simp [get?_nil]
  | cons entry rest ih =>
      rw [List.filter_cons]
      by_cases h : entry.1 = fd
      · rw [if_neg (by simp [h]), ih, get?_cons]
        by_cases hother : other = fd <;> simp [h, hother]
      · rw [if_pos (by simp [h]), get?_cons, get?_cons, ih]
        by_cases hother : other = entry.1
        · have hne : ¬other = fd := fun heq => h (hother.symm.trans heq)
          simp [hother, h]
        · simp [hother]

/-! ## Entries -/

theorem mem_of_get? (h : table.get? fd = some descriptor) : (fd, descriptor) ∈ table := by
  induction table with
  | nil => exact absurd h (by simp [get?_nil])
  | cons entry rest ih =>
      rw [get?_cons] at h
      split at h
      · rename_i heq
        cases h
        rw [heq]
        exact List.mem_cons_self
      · exact List.mem_cons_of_mem _ (ih h)

theorem mem_set {entry : Fd × Descriptor} (h : entry ∈ table.set fd descriptor) :
    entry = (fd, descriptor) ∨ entry ∈ table := by
  induction table with
  | nil => exact .inl (by simpa [set] using h)
  | cons first rest ih =>
      obtain ⟨number, held⟩ := first
      unfold set at h
      split at h
      · exact (List.mem_cons.mp h)
      · split at h
        · exact (List.mem_cons.mp h).imp_right (List.mem_cons_of_mem _)
        · rcases List.mem_cons.mp h with rfl | h
          · exact .inr List.mem_cons_self
          · exact (ih h).imp_right (List.mem_cons_of_mem _)

theorem mem_erase {entry : Fd × Descriptor} :
    entry ∈ table.erase fd ↔ entry ∈ table ∧ entry.1 ≠ fd := by
  simp [erase]

theorem mem_afterExec {entry : Fd × Descriptor} :
    entry ∈ table.afterExec ↔ entry ∈ table ∧ entry.2.closeOnExec = false := by
  simp [afterExec]

/-- To give up a number that stands for nothing changes nothing. -/
theorem erase_of_get?_eq_none (h : table.get? fd = none) : table.erase fd = table := by
  refine List.filter_eq_self.mpr fun entry hentry => ?_
  induction table with
  | nil => exact absurd hentry List.not_mem_nil
  | cons first rest ih =>
      rw [get?_cons] at h
      split at h
      · exact absurd h (by simp)
      · rename_i hne
        rcases List.mem_cons.mp hentry with rfl | hentry
        · exact bne_iff_ne.mpr (Ne.symm hne)
        · exact ih h hentry

/-- To give up a number that stood for nothing before undoes that it stands for something. -/
theorem erase_set (h : table.get? fd = none) : (table.set fd descriptor).erase fd = table := by
  induction table with
  | nil =>
      unfold set erase
      rw [List.filter_cons_of_neg (by simp), List.filter_nil]
  | cons entry rest ih =>
      obtain ⟨number, held⟩ := entry
      have hrest := h
      rw [get?_cons] at h
      split at h
      · exact absurd h (by simp)
      · rename_i hne
        unfold set
        split
        · show List.filter _ _ = _
          rw [List.filter_cons_of_neg (by simp)]
          exact erase_of_get?_eq_none hrest
        · show List.filter _ _ = _
          rw [List.filter_cons_of_pos (by simpa using Ne.symm hne)]
          exact congrArg _ (ih h)

theorem holds_of_get? (h : table.get? fd = some descriptor) :
    table.holds descriptor.handle.endpoint = true :=
  List.any_eq_true.mpr ⟨_, mem_of_get? h, beq_self_eq_true _⟩

/-- A number that stood for nothing adds what it stands for. -/
theorem holds_set {endpoint : Endpoint} (h : table.get? fd = none) :
    (table.set fd descriptor).holds endpoint =
      (descriptor.handle.endpoint == endpoint || table.holds endpoint) := by
  unfold holds
  rw [Bool.eq_iff_iff, Bool.or_eq_true, List.any_eq_true, List.any_eq_true]
  constructor
  · rintro ⟨entry, hentry, hend⟩
    rcases mem_set hentry with rfl | hentry
    · exact .inl hend
    · exact .inr ⟨entry, hentry, hend⟩
  · rintro (hend | ⟨entry, hentry, hend⟩)
    · have hget : (table.set fd descriptor).get? fd = some descriptor := by
        rw [get?_set, if_pos rfl]
      exact ⟨_, mem_of_get? hget, hend⟩
    · have herase : (table.set fd descriptor).erase fd = table := erase_set h
      rw [← herase] at hentry
      exact ⟨entry, (mem_erase.mp hentry).1, hend⟩

/-! ## Order -/

theorem Ordered.get?_of_mem (h : Ordered table) {entry : Fd × Descriptor} (hentry : entry ∈ table) :
    table.get? entry.1 = some entry.2 := by
  induction table with
  | nil => exact absurd hentry List.not_mem_nil
  | cons first rest ih =>
      obtain ⟨hfirst, hrest⟩ := List.pairwise_cons.mp h
      rw [get?_cons]
      rcases List.mem_cons.mp hentry with rfl | hentry
      · rw [if_pos rfl]
      · have hlt := hfirst entry hentry
        rw [if_neg (Nat.ne_of_gt hlt), ih hrest hentry]

theorem Ordered.set (h : Ordered table) : Ordered (table.set fd descriptor) := by
  -- the number stands before the first one, in its place, or behind it
  induction table with
  | nil => exact List.pairwise_singleton _ _
  | cons first rest ih =>
      obtain ⟨number, held⟩ := first
      obtain ⟨hfirst, hrest⟩ := List.pairwise_cons.mp h
      unfold Table.set
      split
      · rename_i hlt
        refine List.pairwise_cons.mpr ⟨?_, h⟩
        intro entry hentry
        rcases List.mem_cons.mp hentry with rfl | hentry
        · exact hlt
        · exact Nat.lt_trans hlt (hfirst entry hentry)
      · split
        · rename_i heq
          refine List.pairwise_cons.mpr ⟨?_, hrest⟩
          intro entry hentry
          rw [heq]
          exact hfirst entry hentry
        · rename_i hge hne
          refine List.pairwise_cons.mpr ⟨?_, ih hrest⟩
          intro entry hentry
          rcases mem_set hentry with rfl | hentry
          · exact Nat.lt_of_le_of_ne (Nat.le_of_not_lt hge) (Ne.symm hne)
          · exact hfirst entry hentry

theorem Ordered.erase (h : Ordered table) : Ordered (table.erase fd) := List.Pairwise.filter _ h

theorem Ordered.afterExec (h : Ordered table) : Ordered table.afterExec := List.Pairwise.filter _ h

/-- A process that becomes another program keeps the files that are not to be closed then. -/
theorem Ordered.get?_afterExec (h : Ordered table) :
    table.afterExec.get? fd = (table.get? fd).filter fun descriptor => !descriptor.closeOnExec := by
  cases hget : table.get? fd with
  | none =>
      cases hafter : table.afterExec.get? fd with
      | none => rfl
      | some descriptor =>
          have hmem := (mem_afterExec.mp (mem_of_get? hafter)).1
          exact absurd (hget.symm.trans (h.get?_of_mem hmem)) (by simp)
  | some descriptor =>
      cases hafter : table.afterExec.get? fd with
      | none =>
          cases hclose : descriptor.closeOnExec with
          | true => rw [Option.filter_some, if_neg (by simp [hclose])]
          | false =>
              have hmem := mem_afterExec.mpr ⟨mem_of_get? hget, hclose⟩
              exact absurd (hafter.symm.trans (h.afterExec.get?_of_mem hmem)) (by simp)
      | some other =>
          obtain ⟨hmem, hclose⟩ := mem_afterExec.mp (mem_of_get? hafter)
          cases hget.symm.trans (h.get?_of_mem hmem)
          rw [Option.filter_some, if_pos (by simpa using hclose)]

/-! ## Free numbers -/

theorem le_freeFrom : least ≤ freeFrom least table := by
  induction table generalizing least with
  | nil => exact Nat.le_refl _
  | cons entry rest ih =>
      unfold freeFrom
      split
      · exact Nat.le_of_succ_le ih
      · exact ih

theorem lt_freeFrom_succ : least < freeFrom (least + 1) table := le_freeFrom

theorem freeFrom_of_forall_lt (h : ∀ entry ∈ table, least < entry.1) :
    freeFrom least table = least := by
  induction table with
  | nil => rfl
  | cons entry rest ih =>
      have hlt := h entry List.mem_cons_self
      unfold freeFrom
      rw [if_neg (Nat.ne_of_gt hlt)]
      exact ih fun other hother => h other (List.mem_cons_of_mem _ hother)

/-- In an ordered table, the number that is found to be free stands for nothing. -/
theorem Ordered.get?_freeFrom (h : Ordered table) : table.get? (freeFrom least table) = none := by
  induction table generalizing least with
  | nil => rfl
  | cons entry rest ih =>
      obtain ⟨number, held⟩ := entry
      obtain ⟨hfirst, hrest⟩ := List.pairwise_cons.mp h
      unfold freeFrom
      rw [get?_cons]
      split
      · rename_i heq
        have hle : least + 1 ≤ freeFrom (least + 1) rest := le_freeFrom
        rw [if_neg fun hsame : freeFrom (least + 1) rest = number =>
          absurd (hsame ▸ hle) (heq ▸ Nat.not_succ_le_self least)]
        exact ih hrest
      · rename_i hne
        rw [if_neg ?_]
        · exact ih hrest
        · intro heq
          by_cases hlt : least < number
          · -- Everything else stands behind the number that was passed.
            have hfree : freeFrom least rest = least :=
              freeFrom_of_forall_lt fun other hother => Nat.lt_trans hlt (hfirst other hother)
            exact hne (heq.symm.trans hfree)
          · have hle : least ≤ freeFrom least rest := le_freeFrom
            exact hne (Nat.le_antisymm (Nat.le_of_not_lt hlt) (Nat.le_trans hle (Nat.le_of_eq heq)))

theorem Ordered.get?_free (h : Ordered table) : table.get? table.free = none := h.get?_freeFrom

end LineShell.Table
