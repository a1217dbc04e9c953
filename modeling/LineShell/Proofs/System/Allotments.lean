import LineShell.Proofs.System.Tables
import Mathlib

/-!
# How many numbers are left

What a table of open files has room for, and what is left of it without some numbers.

* **`without`** — the table in which some numbers stand for nothing;
* **`gained`** — the entries that were not in another table;
* **`room`** — how many numbers below a limit stand for nothing: `free_lt_iff` and
  `freeFrom_lt_iff` say what can be taken of them, `room_set` what is left then.
-/

namespace LineShell.Table

variable {table before : Table} {fd other least limit : Fd} {descriptor : Descriptor}
  {fds more : List Fd}

/-! ## Without some numbers -/

/-- The table in which the numbers stand for nothing. -/
def without (table : Table) (fds : List Fd) : Table := table.filter fun entry => entry.1 ∉ fds

@[simp] theorem without_nil : table.without [] = table := List.filter_eq_self.mpr (by simp)

theorem without_erase : (table.erase fd).without fds = table.without (fd :: fds) := by
  unfold without erase
  rw [List.filter_filter]
  refine List.filter_congr fun entry _ => ?_
  by_cases h : entry.1 = fd <;> simp [h]

theorem without_congr (h : ∀ entry ∈ table, entry.1 ∈ fds ↔ entry.1 ∈ more) :
    table.without fds = table.without more :=
  List.filter_congr fun entry hentry => by simp [h entry hentry]

theorem get?_isSome_of_mem {entry : Fd × Descriptor} (h : entry ∈ table) :
    (table.get? entry.1).isSome = true := by
  by_contra hnone
  have hkept := erase_of_get?_eq_none (Option.not_isSome_iff_eq_none.mp hnone)
  rw [← hkept] at h
  exact (mem_erase.mp h).2 rfl

/-- Numbers that stand for nothing make no difference. -/
theorem without_append (h : ∀ fd ∈ more, table.get? fd = none) :
    table.without (fds ++ more) = table.without fds := by
  refine without_congr fun entry hentry => ?_
  have hnot : entry.1 ∉ more := by
    intro hmem
    have hsome := get?_isSome_of_mem hentry
    rw [h _ hmem] at hsome
    exact absurd hsome (by simp)
  simp [hnot]

/-- What a number stands for makes no difference without it. -/
theorem without_set (h : fd ∈ fds) : (table.set fd descriptor).without fds = table.without fds := by
  induction table with
  | nil => simp [set, without, h]
  | cons entry rest ih =>
      obtain ⟨number, held⟩ := entry
      unfold set
      split
      · simp [without, h]
      · split
        · rename_i heq
          simp [without, ← heq, h]
        · unfold without at ih ⊢
          rw [List.filter_cons, List.filter_cons, ih]

theorem get?_without : (table.without fds).get? fd = if fd ∈ fds then none else table.get? fd := by
  induction table with
  | nil => simp [without, get?_nil]
  | cons entry rest ih =>
      unfold without at ih ⊢
      rw [List.filter_cons, get?_cons]
      by_cases hentry : entry.1 ∈ fds
      · rw [if_neg (by simp [hentry]), ih]
        by_cases hfd : fd ∈ fds
        · rw [if_pos hfd, if_pos hfd]
        · have hne : fd ≠ entry.1 := fun heq => hfd (heq ▸ hentry)
          rw [if_neg hfd, if_neg hfd, if_neg hne]
      · rw [if_pos (by simp [hentry]), get?_cons, ih]
        by_cases heq : fd = entry.1
        · rw [if_pos heq, if_pos heq, heq, if_neg hentry]
        · rw [if_neg heq, if_neg heq]

/-! ## What has been gained -/

/-- The entries under numbers that stood for nothing before. -/
def gained (before table : Table) : Table :=
  table.filter fun entry => (before.get? entry.1).isNone

theorem gained_of_subset (h : ∀ entry ∈ table, entry ∈ before) : gained before table = [] := by
  refine List.filter_eq_nil_iff.mpr fun entry hentry => ?_
  have hsome := get?_isSome_of_mem (h entry hentry)
  simp [Option.isNone_iff_eq_none, Option.isSome_iff_ne_none.mp hsome]

@[simp] theorem gained_self : gained table table = [] := gained_of_subset fun _ h => h

@[simp] theorem gained_erase : gained table (table.erase fd) = [] :=
  gained_of_subset fun _ h => (mem_erase.mp h).1

/-- A number that stood for nothing adds one entry. -/
theorem set_perm (descriptor : Descriptor) (h : table.get? fd = none) :
    (table.set fd descriptor).Perm ((fd, descriptor) :: table) := by
  induction table with
  | nil => exact .refl _
  | cons entry rest ih =>
      obtain ⟨number, held⟩ := entry
      rw [get?_cons] at h
      split at h
      · exact absurd h (by simp)
      · rename_i hne
        unfold set
        split
        · exact .refl _
        · exact ((ih h).cons _).trans (.swap _ _ _)

theorem gained_set_perm (descriptor : Descriptor) (hbefore : before.get? fd = none)
    (h : table.get? fd = none) :
    (gained before (table.set fd descriptor)).Perm ((fd, descriptor) :: gained before table) := by
  have hperm := (set_perm descriptor h).filter
    fun entry => (before.get? entry.1).isNone
  rwa [List.filter_cons_of_pos (by simp [hbefore])] at hperm

theorem gained_set (h : table.get? fd = none) :
    gained table (table.set fd descriptor) = [(fd, descriptor)] := by
  have hperm := gained_set_perm descriptor h h
  rw [gained_self] at hperm
  exact List.perm_singleton.mp hperm

/-! ## Room -/

/-- How many numbers below the limit stand for nothing. -/
def room (table : Table) (limit : Nat) : Nat :=
  ((Finset.range limit).filter fun fd => table.get? fd = none).card

theorem mem_room : fd ∈ (Finset.range limit).filter (fun fd => table.get? fd = none) ↔
    fd < limit ∧ table.get? fd = none := by
  rw [Finset.mem_filter, Finset.mem_range]

/-- A number that has been passed over stands for something. -/
theorem get?_ne_none_of_lt_freeFrom (hleast : least ≤ fd) (h : fd < freeFrom least table) :
    table.get? fd ≠ none := by
  induction table generalizing least with
  | nil => exact absurd h (Nat.not_lt_of_le hleast)
  | cons entry rest ih =>
      obtain ⟨number, held⟩ := entry
      rw [get?_cons]
      split
      · simp
      · rename_i hne
        unfold freeFrom at h
        split at h
        · rename_i heq
          exact ih (Nat.lt_of_le_of_ne hleast fun hsame => hne (hsame.symm.trans heq.symm)) h
        · exact ih hleast h

variable (hordered : table.Ordered)

include hordered

/-- The least free number is below the limit where there is room. -/
theorem Ordered.free_lt_iff : table.free < limit ↔ 1 ≤ table.room limit := by
  unfold room
  rw [Nat.one_le_iff_ne_zero, Finset.card_ne_zero]
  constructor
  · intro hlt
    exact ⟨table.free, mem_room.mpr ⟨hlt, hordered.get?_free⟩⟩
  · rintro ⟨fd, hfd⟩
    obtain ⟨hlt, hnone⟩ := mem_room.mp hfd
    by_contra hle
    have hpassed : fd < table.free := Nat.lt_of_lt_of_le hlt (Nat.le_of_not_lt hle)
    exact get?_ne_none_of_lt_freeFrom (Nat.zero_le fd) hpassed hnone

/-- So is the next free number where there is room for two. -/
theorem Ordered.freeFrom_lt_iff :
    freeFrom (table.free + 1) table < limit ↔ 2 ≤ table.room limit := by
  unfold room
  rw [show (2 ≤ Finset.card _) = (1 < Finset.card _) from rfl, Finset.one_lt_card]
  constructor
  · intro hlt
    have hnext : table.free < freeFrom (table.free + 1) table := lt_freeFrom_succ
    exact ⟨table.free, mem_room.mpr ⟨Nat.lt_trans hnext hlt, hordered.get?_free⟩,
      _, mem_room.mpr ⟨hlt, hordered.get?_freeFrom⟩, Nat.ne_of_lt hnext⟩
  · rintro ⟨first, hfirst, second, hsecond, hne⟩
    by_contra hle
    -- all numbers below the limit but one have been passed over
    have honly : ∀ fd, fd < limit → table.get? fd = none → fd = table.free := by
      intro fd hlt hnone
      rcases Nat.lt_trichotomy fd table.free with hbelow | heq | habove
      · exact absurd hnone (get?_ne_none_of_lt_freeFrom (Nat.zero_le fd) hbelow)
      · exact heq
      · exact absurd hnone (get?_ne_none_of_lt_freeFrom habove
          (Nat.lt_of_lt_of_le hlt (Nat.le_of_not_lt hle)))
    obtain ⟨hlt, hnone⟩ := mem_room.mp hfirst
    obtain ⟨hlt', hnone'⟩ := mem_room.mp hsecond
    exact hne ((honly first hlt hnone).trans (honly second hlt' hnone').symm)

omit hordered

/-- A number that comes to stand for something takes room for one. -/
theorem room_set (descriptor : Descriptor) (hlt : fd < limit) (h : table.get? fd = none) :
    (table.set fd descriptor).room limit + 1 = table.room limit := by
  have herase :
      (Finset.range limit).filter (fun other => (table.set fd descriptor).get? other = none) =
        ((Finset.range limit).filter fun other => table.get? other = none).erase fd := by
    ext other
    rw [mem_room, Finset.mem_erase, mem_room, get?_set]
    by_cases heq : other = fd <;> simp [heq]
  unfold room
  rw [herase, Finset.card_erase_add_one (mem_room.mpr ⟨hlt, h⟩)]

end LineShell.Table
