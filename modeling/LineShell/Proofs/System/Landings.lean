import LineShell.Proofs.System.Gains
import LineShell.Proofs.System.Requests

/-!
# What a process opens

A path that a process opens to be written leads to a node, or stands for something that the process
has open.

* **`Process.goal?`** — the node that a path leads to for a process;
* **`landed_of_endpointAt`** — what a path is opened as, and what of the store changes;
* **`endpointAt_again`** — to open a path once more comes to the same, and changes nothing.
-/

namespace LineShell

/-! ## Paths -/

/-- The node that an open file leads to. -/
def Endpoint.node? : Endpoint → Option NodeId
  | .node id => some id
  | _ => none

theorem Endpoint.eq_of_node? {endpoint : Endpoint} {id : NodeId} (h : endpoint.node? = some id) :
    endpoint = .node id := by
  cases endpoint with
  | node other => exact congrArg _ (Option.some.inj h)
  | pipeReader | pipeWriter | terminal => cases h

/-- The node that a path leads to for a process: that of the open file for which the path stands, or
the one that is found. -/
def Process.goal? {α : Type} (p : Process α) (files : Files) (path : Bytes) : Option NodeId :=
  match System.ownFile? path with
  | some fd => (p.table.get? fd).bind fun descriptor => descriptor.handle.endpoint.node?
  | none => (files.find p.directory path).toOption

/-- The path stands for an end of a pipe that the process holds. -/
def Process.NamesPipe {α : Type} (p : Process α) (path : Bytes) : Prop :=
  ∃ fd descriptor pipe, System.ownFile? path = some fd ∧ p.table.get? fd = some descriptor ∧
    (descriptor.handle.endpoint = .pipeReader pipe ∨ descriptor.handle.endpoint = .pipeWriter pipe)

/-! ## What is opened -/

namespace System

variable {α : Type} {s : System α} {p : Process α} {path : Bytes} {access : Access}
  {endpoint : Endpoint} {later : Files}

/-- What a path is opened as, to be written. -/
inductive Landed (p : Process α) (path : Bytes) (access : Access) (files later : Files) :
    Endpoint → Prop
  /-- It leads to a node. -/
  | node {id : NodeId} : p.goal? later path = some id → Files.Opened p.mask access files later id →
      Landed p path access files later (.node id)
  /-- It stands for the terminal. -/
  | terminal : (∀ files, p.goal? files path = none) → later = files →
      Landed p path access files later .terminal
  /-- It stands for an end of a pipe. -/
  | pipe {pipe : PipeId} {entry : Fd × Descriptor} : (∀ files, p.goal? files path = none) →
      later = files → p.NamesPipe path → entry ∈ p.table → entry.2.handle.endpoint = .pipeReader pipe ∨
        entry.2.handle.endpoint = .pipeWriter pipe →
      Landed p path access files later (.pipeWriter pipe)

theorem endpointAt_of_ownFile?_some {fd : Fd} {descriptor : Descriptor}
    (hown : ownFile? path = some fd) (hget : p.table.get? fd = some descriptor) :
    s.endpointAt p path access = reopen s.files descriptor.handle.endpoint access := by
  unfold endpointAt
  rw [hown]
  dsimp only
  rw [hget]

/-- A path that stands for an open file is opened as that file is. -/
theorem reopened_of_endpointAt {fd : Fd} (hown : ownFile? path = some fd)
    (h : s.endpointAt p path access = .ok (endpoint, later)) :
    ∃ descriptor, p.table.get? fd = some descriptor ∧
      reopen s.files descriptor.handle.endpoint access = .ok (endpoint, later) := by
  cases hget : p.table.get? fd with
  | none =>
      unfold endpointAt at h
      rw [hown] at h
      dsimp only at h
      rw [hget] at h
      cases h
  | some descriptor => exact ⟨descriptor, rfl, endpointAt_of_ownFile?_some hown hget ▸ h⟩

theorem goal?_of_ownFile? {fd : Fd} {descriptor : Descriptor} (hown : ownFile? path = some fd)
    (hget : p.table.get? fd = some descriptor) (files : Files) :
    p.goal? files path = descriptor.handle.endpoint.node? := by
  unfold Process.goal?
  rw [hown]
  dsimp only
  rw [hget, Option.bind_some]

/-- A node that is open is opened as what it is. -/
theorem opened_of_reopen {files : Files} {id : NodeId} (mask : Nat) (hwriting : Files.Writing access)
    (h : reopen files (.node id) access = .ok (endpoint, later)) :
    endpoint = .node id ∧ Files.Opened mask access files later id := by
  unfold reopen at h
  dsimp only at h
  cases hnode : files.node? id with
  | none => exact absurd h (by simp [hnode])
  | some node =>
      rw [hnode] at h
      simp only [hwriting.create, hwriting.read, hwriting.write] at h
      split_ifs at h with hkind hpermits htruncate
      all_goals
        cases h
        refine ⟨rfl, .kept hnode (by simpa using hkind) (by simpa using hpermits) ?_⟩
        unfold Files.afterOpening
        simp only [htruncate]
        rfl

theorem landed_of_endpointAt (hwriting : Files.Writing access)
    (h : s.endpointAt p path access = .ok (endpoint, later)) :
    Landed p path access s.files later endpoint := by
  -- a path is a name in the files, or stands for a number of the process itself
  cases hown : ownFile? path with
  | none =>
      obtain ⟨id, hopen, rfl⟩ := endpointAt_of_ownFile? hown h
      obtain ⟨hleads, hopened⟩ := Files.opened_of_openPath hwriting hopen
      refine .node ?_ hopened
      unfold Process.goal?
      rw [hown]
      dsimp only
      rw [hleads.find]
      rfl
  | some fd =>
      obtain ⟨descriptor, hget, hreopen⟩ := reopened_of_endpointAt hown h
      have hgoal := goal?_of_ownFile? hown hget
      cases hend : descriptor.handle.endpoint with
      | node id =>
          rw [hend] at hreopen hgoal
          obtain ⟨rfl, hopened⟩ := opened_of_reopen p.mask hwriting hreopen
          exact .node (hgoal later) hopened
      | terminal =>
          rw [hend] at hreopen hgoal
          cases hreopen
          exact .terminal hgoal rfl
      | pipeReader pipe =>
          rw [hend] at hreopen hgoal
          unfold reopen at hreopen
          simp only [hwriting.read] at hreopen
          cases hreopen
          exact .pipe hgoal rfl ⟨fd, descriptor, pipe, hown, hget, .inl hend⟩
            (Table.mem_of_get? hget) (.inl hend)
      | pipeWriter pipe =>
          rw [hend] at hreopen hgoal
          unfold reopen at hreopen
          simp only [hwriting.read] at hreopen
          cases hreopen
          exact .pipe hgoal rfl ⟨fd, descriptor, pipe, hown, hget, .inr hend⟩
            (Table.mem_of_get? hget) (.inr hend)

/-- To open a path once more comes to the same, and changes nothing. -/
theorem endpointAt_again (hwriting : Files.Writing access) (hmask : p.mask &&& Files.writeBit = 0)
    (h : s.endpointAt p path access = .ok (endpoint, later)) :
    ({ s with files := later } : System α).endpointAt p path access = .ok (endpoint, later) := by
  cases hown : ownFile? path with
  | none =>
      unfold endpointAt at h ⊢
      rw [hown] at h ⊢
      dsimp only at h ⊢
      cases hopen : s.files.openPath p.directory path access p.mask with
      | error errno => exact absurd h (by simp [hopen, bind, Except.bind])
      | ok opened =>
          obtain ⟨id, files⟩ := opened
          rw [hopen] at h
          have hlater : files = later := by
            simp only [bind, Except.bind] at h
            split at h
            · cases h
            · cases h
              rfl
          subst hlater
          rw [Files.openPath_again hwriting hmask hopen]
          exact h
  | some fd =>
      obtain ⟨descriptor, hget, hreopen⟩ := reopened_of_endpointAt hown h
      rw [endpointAt_of_ownFile?_some hown hget]
      cases landed_of_endpointAt hwriting h with
      | terminal _ hlater | pipe _ hlater =>
          rw [hlater] at hreopen ⊢
          exact hreopen
      | @node id hgoal hopened =>
          obtain ⟨node, hnode, hkind, hpermits, hsame⟩ := hopened.again hmask
          have hend : descriptor.handle.endpoint = .node id :=
            Endpoint.eq_of_node? ((goal?_of_ownFile? hown hget later).symm.trans hgoal)
          show reopen later descriptor.handle.endpoint access = _
          rw [hend]
          unfold reopen
          dsimp only
          rw [hnode]
          simp only [hwriting.create, hwriting.read, hwriting.write, hkind, hpermits]
          exact congrArg (fun files => Except.ok (Endpoint.node id, files)) hsame

/-- A path is not refused because its opening has been interrupted. -/
theorem endpointAt_ne_interrupted : s.endpointAt p path access ≠ .error .interrupted := by
  unfold endpointAt
  split
  · split
    · rintro ⟨⟩
    · unfold reopen
      split
      · rintro ⟨⟩
      · rintro ⟨⟩
      · rintro ⟨⟩
      · split
        · rintro ⟨⟩
        · split_ifs <;> rintro ⟨⟩
  · cases hopen : s.files.openPath p.directory path access p.mask with
    | error errno =>
        exact fun h => Files.openPath_ne_interrupted (hopen.trans (congrArg _ (Except.error.inj h)))
    | ok opened =>
        simp only [bind, Except.bind]
        split <;> rintro ⟨⟩

end System

end LineShell
