import LineShell.Proofs.System.Stores
import Mathlib.Tactic.IntervalCases

/-!
# What a store gains where a file is opened

A file that is opened to be written is made if it is missing and may be emptied. Apart from that, a
store stays as it is.

* **`Gained`** — at most one file is new or holds other bytes; whatever was there is found where it
  was found, and has the permission bits that it had;
* **`opened_of_openPath`**, **`Opened.gained`** — so it is where a path has been opened to be written;
* **`openPath_again`** — to open a path once more comes to the same, and changes nothing.
-/

namespace LineShell

namespace Files

variable {files middle later : Files} {here id other : NodeId} {path bytes old : Bytes} {mask : Nat}
  {access : Access} {node : Node}

/-! ## Permission bits -/

/-- A bit is left if the mask does not withhold it. -/
theorem testBit_withhold_freshMode (mask bit : Nat) :
    (withhold freshMode mask).testBit bit = (freshMode.testBit bit && !mask.testBit bit) := by
  unfold withhold
  rw [Nat.testBit_and, Nat.testBit_xor, Nat.testBit_and]
  by_cases hbit : bit < 9
  · have hall : Nat.testBit 0o7777 bit = true ∧ Nat.testBit 0o777 bit = true := by
      interval_cases bit <;> decide
    rw [hall.1, hall.2, Bool.and_true, Bool.true_xor]
  · have hnone : freshMode.testBit bit = false :=
      Nat.testBit_lt_two_pow (Nat.lt_of_lt_of_le (by decide : freshMode < 2 ^ 9)
        (Nat.pow_le_pow_right (by decide) (Nat.le_of_not_lt hbit)))
    rw [hnone, Bool.false_and, Bool.false_and]

/-- The owner may write a new file, unless the mask withholds that. -/
theorem permits_of_fresh (hmask : mask &&& writeBit = 0) (howned : node.owned = true)
    (hmode : node.mode = withhold freshMode mask) : files.permits node writeBit = true := by
  have hbit : mask.testBit 7 = false := by
    have h := congrArg (fun bits => bits.testBit 7) hmask
    rwa [Nat.testBit_and, show writeBit.testBit 7 = true from rfl, Bool.and_true,
      Nat.zero_testBit] at h
  have hwrites : (node.mode &&& writeBit).testBit 7 = true := by
    rw [Nat.testBit_and, hmode, testBit_withhold_freshMode, hbit]
    rfl
  have hne : node.mode &&& writeBit ≠ 0 := fun heq => by
    rw [heq, Nat.zero_testBit] at hwrites
    exact absurd hwrites (by simp)
  unfold permits
  rw [howned, if_pos rfl]
  simp [hne]

/-! ## Putting bytes -/

/-- To put into a file what was put into it at the same time changes nothing. -/
theorem setBytes_self (h : files.node? id = some node) (hcontent : node.content = .regular bytes)
    (hchanged : node.changed = files.time) : files.setBytes id bytes = files := by
  unfold setBytes
  rw [h]
  dsimp only
  split
  · have hput : { node with content := .regular bytes, changed := files.time } = node := by
      rw [← hcontent, ← hchanged]
    rw [hput]
    unfold put
    obtain ⟨hlt, hget⟩ := List.getElem?_eq_some_iff.mp h
    rw [← hget, List.set_getElem_self]
  · rfl

theorem setBytes_setBytes : (files.setBytes id bytes).setBytes id bytes = files.setBytes id bytes := by
  cases hbytes : files.bytesOf? id with
  | none => rw [setBytes_of_bytesOf?_eq_none hbytes, setBytes_of_bytesOf?_eq_none hbytes]
  | some old =>
      obtain ⟨node, hnode, -, hset⟩ := setBytes_of_bytesOf? bytes hbytes
      have hput : (files.setBytes id bytes).node? id =
          some { node with content := .regular bytes, changed := files.time } := by
        rw [hset, node?_put (by rw [hnode]; rfl), if_pos rfl]
      have htime : (files.setBytes id bytes).time = files.time := by
        rw [hset]
        rfl
      exact setBytes_self hput rfl htime.symm

theorem afterOpening_again :
    (files.afterOpening access id).afterOpening access id = files.afterOpening access id := by
  unfold afterOpening
  split
  · exact setBytes_setBytes
  · rfl

/-! ## Names -/

theorem find_eq_ok {follow : Bool} : files.find here path follow = .ok id ↔
    ∃ place, files.locate here path follow = .ok place ∧ place.node? = some id := by
  unfold find
  cases files.locate here path follow with
  | error errno => simp [bind, Except.bind]
  | ok place =>
      cases hid : place.node? <;>
        simp [bind, Except.bind, hid, pure, Except.pure, throw, throwThe, MonadExceptOf.throw]

theorem Entered.located {directory : NodeId} {entry : Bytes} {follow creating : Bool}
    (h : Entered files later directory entry id) :
    Entered.Resolved directory entry id (files.locate here path follow creating)
      (later.locate here path follow creating) := by
  unfold Files.locate
  split_ifs
  · exact .same (by simp)
  · exact .same (by simp)
  · exact h.resolved

/-- Everything but the new file is found where it was found. -/
theorem Entered.find_iff {directory : NodeId} {entry : Bytes} {follow : Bool}
    (h : Entered files later directory entry id) (hother : other ≠ id) :
    later.find here path follow = .ok other ↔ files.find here path follow = .ok other := by
  rw [find_eq_ok, find_eq_ok]
  have hlocated : Entered.Resolved directory entry id (files.locate here path follow)
      (later.locate here path follow) := h.located
  generalize files.locate here path follow = before at hlocated ⊢
  generalize later.locate here path follow = after at hlocated ⊢
  cases hlocated with
  | same => exact Iff.rfl
  | made => simp [Ne.symm hother]
  | nowhere => simp

/-! ## What is gained -/

/-- At most one file is new or holds other bytes. Everything that was there is found where it was
found and has the permission bits that it had, and a new file has those that the mask leaves. -/
structure Gained (mask : Nat) (files later : Files) (id : NodeId) : Prop where
  found : ∀ other, (files.node? other).isSome = true → ∀ here path,
    later.find here path = .ok other ↔ files.find here path = .ok other
  kept : ∀ other node, other ≠ id → files.node? other = some node → node.isDirectory = false →
    later.node? other = some node
  modes : ∀ other node, files.node? other = some node →
    ∃ changed, later.node? other = some changed ∧ changed.mode = node.mode
  fresh : ∀ other node, files.node? other = none → later.node? other = some node →
    other = id ∧ node.mode = withhold freshMode mask

theorem Alike.modes (h : Alike files later) (hnode : files.node? other = some node) :
    ∃ changed, later.node? other = some changed ∧ changed.mode = node.mode := by
  have hshape := h.shapes other
  rw [hnode, Option.map_some] at hshape
  obtain ⟨changed, hchanged, hsame⟩ := Option.map_eq_some_iff.mp hshape
  exact ⟨changed, hchanged, (mode_eq_of_shapeOf hsame).1⟩

theorem Alike.node?_eq_none (h : Alike files later) (hnone : files.node? other = none) :
    later.node? other = none := by
  have hshape := h.shapes other
  rwa [hnone, Option.map_none, Option.map_eq_none_iff] at hshape

/-- Where one file holds other bytes, that is all. -/
theorem Gained.of_alike (h : Alike files later)
    (hkept : ∀ other, other ≠ id → later.node? other = files.node? other) :
    Gained mask files later id where
  found := fun _ _ _ _ => by rw [h.find]
  kept := fun other node hother hnode _ => (hkept other hother).trans hnode
  modes := fun _ _ hnode => h.modes hnode
  fresh := fun _ _ hnone hnode => absurd ((h.node?_eq_none hnone).symm.trans hnode) (by simp)

theorem Gained.afterOpening : Gained mask files (files.afterOpening access id) id := by
  refine .of_alike alike_afterOpening fun other hother => ?_
  unfold Files.afterOpening
  split
  · exact node?_setBytes (Ne.symm hother)
  · rfl

/-- A file that is new or holds other bytes may get others yet. -/
theorem Gained.setBytes (h : Gained mask files middle id) :
    Gained mask files (middle.setBytes id bytes) id := by
  have halike : Alike middle (middle.setBytes id bytes) := alike_setBytes
  refine ⟨fun other hother here path => ?_, fun other node hother hnode hkind => ?_,
    fun other node hnode => ?_, fun other node hnone hnode => ?_⟩
  · rw [halike.find]
    exact h.found other hother here path
  · rw [node?_setBytes (Ne.symm hother)]
    exact h.kept other node hother hnode hkind
  · obtain ⟨between, hbetween, hmode⟩ := h.modes other node hnode
    obtain ⟨changed, hchanged, hsame⟩ := halike.modes hbetween
    exact ⟨changed, hchanged, hsame.trans hmode⟩
  · cases hbetween : middle.node? other with
    | none => exact absurd ((halike.node?_eq_none hbetween).symm.trans hnode) (by simp)
    | some between =>
        obtain ⟨hid, hmode⟩ := h.fresh other between hnone hbetween
        obtain ⟨changed, hchanged, hsame⟩ := halike.modes hbetween
        cases hnode.symm.trans hchanged
        exact ⟨hid, hsame.trans hmode⟩

/-- Where a file has been made, that is all. -/
theorem Entered.gained {directory : NodeId} {entry : Bytes}
    (h : Entered files later directory entry id) (hnode : later.node? id = some node)
    (hmode : node.mode = withhold freshMode mask) : Gained mask files later id := by
  -- the node is new, so every node that there was is another one
  have hne : ∀ other found, files.node? other = some found → other ≠ id := by
    rintro other found hfound rfl
    exact absurd (h.fresh.symm.trans hfound) (by simp)
  refine ⟨fun other hother here path => ?_, fun other found hother hfound hkind => ?_,
    fun other found hfound => ?_, fun other found hnone hfound => ?_⟩
  · obtain ⟨found, hfound⟩ := Option.isSome_iff_exists.mp hother
    exact h.find_iff (hne other found hfound)
  · exact h.node? hother hfound hkind
  · by_cases hdirectory : other = directory
    · obtain ⟨grown, parent, entries, time, hgrown, hcontent, hlater⟩ := h.entered
      rw [hdirectory, hgrown] at hfound
      cases hfound
      exact ⟨_, (congrArg later.node? hdirectory).trans hlater, rfl⟩
    · exact ⟨found, (h.kept other hdirectory (hne other found hfound)).trans hfound, rfl⟩
  · by_cases hid : other = id
    · rw [hid, hnode] at hfound
      cases hfound
      exact ⟨hid, hmode⟩
    · -- the directory was there, and everything else is as it was
      obtain ⟨grown, parent, entries, time, hgrown, hcontent, hlater⟩ := h.entered
      have hdirectory : other ≠ directory := by
        rintro rfl
        exact absurd (hnone.symm.trans hgrown) (by simp)
      exact absurd ((h.kept other hdirectory hid).symm.trans hfound) (by simp [hnone])

/-! ## Opening -/

/-- What is entered in a directory leaves everything else as it is. -/
theorem node?_setEntries {entries : List (Bytes × NodeId)} (h : files.node? id = some node)
    (hkind : node.isDirectory = false) :
    (files.setEntries here entries).node? id = some node ∧
      (files.setEntries here entries).time = files.time := by
  unfold setEntries
  cases hfound : files.node? here with
  | none => exact ⟨h, rfl⟩
  | some found =>
      dsimp only
      split
      · rename_i hdirectory
        refine ⟨?_, rfl⟩
        rw [node?_put (by rw [hfound]; rfl), if_neg, h]
        rintro rfl
        cases hfound.symm.trans h
        exact absurd (hdirectory.symm.trans hkind) (by simp)
      · exact ⟨h, rfl⟩

/-- What is entered is a node of the store from then on. -/
theorem node?_of_enter {place : Place} (h : files.enter place node = .ok (id, later))
    (hkind : node.isDirectory = false) :
    later.node? id = some { node with changed := files.time } ∧ later.time = files.time := by
  unfold enter at h
  obtain ⟨-, -, h⟩ := exists_of_bind h
  simp only [pure, Except.pure, Except.ok.injEq, Prod.mk.injEq] at h
  obtain ⟨rfl, rfl⟩ := h
  have hnode : (files.add { node with changed := files.time }).2.node? files.nodes.length =
      some { node with changed := files.time } := by
    rw [node?_add, if_pos rfl]
  exact node?_setEntries hnode hkind

/-- A regular file holds these bytes; one that is missing holds none. -/
def Holds (files : Files) (id : NodeId) (bytes : Bytes) : Prop :=
  files.node? id = none ∧ bytes = [] ∨ files.bytesOf? id = some bytes

/-- A path that is opened to be written leads to a file that was there, or to a new one. -/
inductive Opened (mask : Nat) (access : Access) (files later : Files) (id : NodeId) : Prop
  | kept {node : Node} : files.node? id = some node → node.isDirectory = false →
      files.permits node writeBit = true → later = files.afterOpening access id →
      Opened mask access files later id
  | made {directory : NodeId} {entry : Bytes} : Entered files later directory entry id →
      later.node? id = some
        { content := .regular [], mode := withhold freshMode mask, changed := later.time } →
      Opened mask access files later id

/-- A file is opened to be written only, and made if it is missing. -/
structure Writing (access : Access) : Prop where
  create : access.create = true
  exclusive : access.exclusive = false
  read : access.read = false
  write : access.write = true

theorem opened_of_openPath (hwriting : Writing access)
    (h : files.openPath here path access mask = .ok (id, later)) :
    Leads later here path id ∧ Opened mask access files later id := by
  have hopen := h
  unfold openPath at h
  simp only [hwriting.create, hwriting.exclusive, hwriting.read, hwriting.write, Bool.not_false] at h
  obtain ⟨place, hplace, h⟩ := exists_of_bind h
  cases hid : place.node? with
  | none =>
      simp only [hid, if_true] at h
      obtain ⟨hnode, htime⟩ := node?_of_enter h rfl
      rcases openPath_leads hwriting.create hwriting.exclusive hopen with
        ⟨⟨found, hfound, hled⟩, -⟩ | ⟨-, hleads, directory, entry, hentered⟩
      · -- the path would lead to what is not there
        cases hplace.symm.trans hfound
        exact absurd (hid.symm.trans hled) (by simp)
      · exact ⟨hleads, .made hentered (htime ▸ hnode)⟩
  | some found =>
      obtain ⟨rfl, hlater⟩ :=
        openPath_of_leads hwriting.create hwriting.exclusive ⟨place, hplace, hid⟩ hopen
      refine ⟨Leads.alike ⟨place, hplace, hid⟩ (hlater ▸ alike_afterOpening), ?_⟩
      simp only [hid] at h
      cases hnode : files.node? id with
      | none => exact absurd h (by simp [hnode, throw, throwThe, MonadExceptOf.throw])
      | some node =>
          rw [hnode] at h
          dsimp only at h
          split_ifs at h with _ hkind _ hpermits
          all_goals exact .kept hnode (by simpa using hkind) (by simpa using hpermits) hlater

section Opened

variable (h : Opened mask access files later id)

include h

theorem Opened.gained : Gained mask files later id := by
  cases h with
  | kept _ _ _ hlater => exact hlater ▸ .afterOpening
  | made hentered hnode => exact hentered.gained hnode rfl

/-- What is opened is a regular file, which holds what it held or nothing, or the store is as it
was. -/
theorem Opened.holds : (∃ old, Holds files id old ∧
      later.bytesOf? id = some (if access.truncate then [] else old)) ∨
    files.node? id ≠ none ∧ files.bytesOf? id = none ∧ later = files := by
  cases h with
  | made hentered _ => exact .inl ⟨[], .inl ⟨hentered.fresh, rfl⟩, by simpa using hentered.regular⟩
  | kept hnode _ _ hlater =>
      cases hbytes : files.bytesOf? id with
      | some old => exact .inl ⟨old, .inr hbytes, by rw [hlater, bytesOf?_afterOpening hbytes]⟩
      | none =>
          refine .inr ⟨by rw [hnode]; exact Option.some_ne_none _, rfl, ?_⟩
          rw [hlater]
          unfold Files.afterOpening
          rw [setBytes_of_bytesOf?_eq_none hbytes, ite_self]

/-- What has been opened can be opened again, which changes nothing, unless the mask withholds from
a new file what that takes. -/
theorem Opened.again (hmask : mask &&& writeBit = 0) :
    ∃ node, later.node? id = some node ∧ node.isDirectory = false ∧
      later.permits node writeBit = true ∧ later.afterOpening access id = later := by
  cases h with
  | @kept node hnode hkind hpermits hlater =>
      have halike : Alike files later := hlater ▸ alike_afterOpening
      have hshape := halike.shapes id
      rw [hnode, Option.map_some] at hshape
      obtain ⟨changed, hchanged, hsame⟩ := Option.map_eq_some_iff.mp hshape
      refine ⟨changed, hchanged, (isDirectory_of_shapeOf hsame).trans hkind, ?_, ?_⟩
      · rw [halike.permits hsame, hpermits]
      · rw [hlater, afterOpening_again]
  | made _ hnode =>
      refine ⟨_, hnode, rfl, permits_of_fresh hmask rfl rfl, ?_⟩
      unfold Files.afterOpening
      split
      · exact setBytes_self hnode rfl rfl
      · rfl

end Opened

/-- To open a path once more comes to the same, and changes nothing. -/
theorem openPath_again (hwriting : Writing access) (hmask : mask &&& writeBit = 0)
    (h : files.openPath here path access mask = .ok (id, later)) :
    later.openPath here path access mask = .ok (id, later) := by
  obtain ⟨⟨place, hplace, hid⟩, hopened⟩ := opened_of_openPath hwriting h
  obtain ⟨node, hnode, hkind, hpermits, hlater⟩ := hopened.again hmask
  unfold openPath
  simp only [hwriting.create, hwriting.exclusive, hwriting.read, hwriting.write, Bool.not_false,
    hplace, bind, Except.bind, hid, hnode, hkind, hpermits]
  exact congrArg (fun files => Except.ok (id, files)) hlater

/-- No path leads to an interruption. -/
theorem resolve_ne_interrupted {creating follow : Bool} {budget : Nat} {names : List Bytes} :
    files.resolve creating follow budget here names ≠ .error .interrupted := by
  fun_induction Files.resolve files creating follow budget here names <;>
    first | assumption | rintro ⟨⟩

theorem enter_ne_interrupted {place : Place} :
    files.enter place node ≠ .error .interrupted := by
  have hcheck : files.checkEntry place ≠ .error .interrupted := by
    unfold checkEntry
    split
    · rintro ⟨⟩
    · split_ifs <;> rintro ⟨⟩
  unfold enter
  cases hentry : files.checkEntry place with
  | error errno => exact fun h => hcheck (hentry.trans (congrArg _ (Except.error.inj h)))
  | ok done => rintro ⟨⟩

/-- A path is not refused because its opening has been interrupted. -/
theorem openPath_ne_interrupted : files.openPath here path access mask ≠ .error .interrupted := by
  have hlocate : ∀ {follow creating},
      files.locate here path follow creating ≠ .error .interrupted := by
    intro follow creating
    unfold locate
    split_ifs
    · rintro ⟨⟩
    · rintro ⟨⟩
    · exact resolve_ne_interrupted
  unfold openPath
  cases hplace : files.locate here path (!access.exclusive) access.create with
  | error errno => exact fun h => hlocate (hplace.trans (congrArg _ (Except.error.inj h)))
  | ok place =>
      simp only [bind, Except.bind]
      split
      · split_ifs
        · exact enter_ne_interrupted
        · rintro ⟨⟩
      · split
        · rintro ⟨⟩
        · split_ifs <;> rintro ⟨⟩

end Files

end LineShell
