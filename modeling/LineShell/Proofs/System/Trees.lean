import LineShell.Proofs.System.Paths
import LineShell.Proofs.System.Stores

/-!
# The tree of directories

What the file store has of a tree, and what each change leaves of it.

* **`Tidy`** — names are names, every directory that is listed has the listing one for its parent
  and is listed once;
* **`Lasts`** — a node stays the kind of thing it is;
* **`Lists`** — a directory goes on listing certain nodes under their names;
* **`Level`** — nothing has changed but the bytes, the times and the permission bits of nodes.
-/

namespace LineShell

namespace Files

variable {files later : Files} {creating follow : Bool} {budget : Nat} {here id other : NodeId}
  {names rest : List Bytes} {name path : Bytes} {entries : List (Bytes × NodeId)} {place : Place}

/-! ## Frames -/

/-- A content without the bytes of a regular file. -/
def frame : Content → Content
  | .regular _ => .regular []
  | other => other

theorem content_of_frame {content : Content} {parent : NodeId} {entries : List (Bytes × NodeId)}
    (h : frame content = .directory parent entries) : content = .directory parent entries := by
  unfold frame at h
  split at h
  · cases h
  · exact h

/-- What a node is, but for the bytes of a regular file. -/
def frameAt (files : Files) (id : NodeId) : Option Content :=
  (files.node? id).map fun node => frame node.content

/-- The node is a directory. -/
def IsFolder (files : Files) (id : NodeId) : Prop := (files.node? id).any Node.isDirectory = true

instance : Decidable (files.IsFolder id) :=
  inferInstanceAs (Decidable ((files.node? id).any Node.isDirectory = true))

theorem isFolder_iff : files.IsFolder id ↔
    ∃ parent entries, files.frameAt id = some (.directory parent entries) := by
  unfold IsFolder frameAt
  cases files.node? id with
  | none => simp
  | some node =>
      rw [Option.any_some, Option.map_some]
      unfold Node.isDirectory frame
      cases node.content <;> simp

theorem entriesOf_eq : files.entriesOf id =
    match files.frameAt id with
    | some (.directory _ entries) => entries
    | _ => [] := by
  unfold entriesOf frameAt
  cases files.node? id with
  | none => rfl
  | some node =>
      rw [Option.map_some, Option.map_some]
      unfold frame
      cases node.content <;> rfl

theorem parentOf_eq : files.parentOf id =
    match files.frameAt id with
    | some (.directory parent _) => parent
    | _ => root := by
  unfold parentOf frameAt
  cases files.node? id with
  | none => rfl
  | some node =>
      rw [Option.map_some, Option.map_some]
      unfold frame
      cases node.content <;> rfl

theorem linkAt?_eq : files.linkAt? id =
    match files.frameAt id with
    | some (.link target) => some target
    | _ => none := by
  unfold linkAt? frameAt
  cases files.node? id with
  | none => rfl
  | some node =>
      rw [Option.map_some, Option.map_some]
      unfold frame
      cases node.content <;> rfl

theorem IsFolder.frameAt (h : files.IsFolder id) :
    files.frameAt id = some (.directory (files.parentOf id) (files.entriesOf id)) := by
  obtain ⟨parent, entries, hframe⟩ := isFolder_iff.mp h
  rw [parentOf_eq, entriesOf_eq, hframe]

theorem IsFolder.linkAt? (h : files.IsFolder id) : files.linkAt? id = none := by
  rw [linkAt?_eq, h.frameAt]

theorem IsFolder.there (h : files.IsFolder id) : (files.frameAt id).isSome = true := by
  rw [h.frameAt]
  rfl

/-- Nothing but a directory has entries. -/
theorem isFolder_of_mem {entry : Bytes × NodeId} (h : entry ∈ files.entriesOf id) :
    files.IsFolder id := by
  rw [entriesOf_eq] at h
  split at h
  · exact isFolder_iff.mpr ⟨_, _, ‹_›⟩
  · exact absurd h List.not_mem_nil

theorem entriesOf_of_not_isFolder (h : ¬files.IsFolder id) : files.entriesOf id = [] :=
  List.eq_nil_iff_forall_not_mem.mpr fun _ hentry => h (isFolder_of_mem hentry)

theorem parentOf_of_not_isFolder (h : ¬files.IsFolder id) : files.parentOf id = root := by
  rw [parentOf_eq]
  split
  · exact absurd (isFolder_iff.mpr ⟨_, _, ‹_›⟩) h
  · rfl

theorem mem_of_lookup (h : entries.lookup name = some id) : (name, id) ∈ entries := by
  obtain ⟨front, back, rfl, -⟩ := List.lookup_eq_some_iff.mp h
  exact List.mem_append_right _ List.mem_cons_self

theorem lookup_of_mem (hnodup : (entries.map Prod.fst).Nodup) (h : (name, id) ∈ entries) :
    entries.lookup name = some id := by
  induction entries with
  | nil => cases h
  | cons entry entries ih =>
      obtain ⟨hnew, hnodup⟩ := List.nodup_cons.mp hnodup
      rcases List.mem_cons.mp h with rfl | h
      · exact List.lookup_cons_self
      · have hne : (name == entry.1) = false := by
          refine beq_false_of_ne fun heq => hnew ?_
          exact List.mem_map.mpr ⟨(name, id), h, heq⟩
        rw [List.lookup_cons, hne]
        exact ih hnodup h

/-! ## What the parts of a change do to the frames -/

theorem frameAt_put {node : Node} (h : (files.node? id).isSome = true) :
    (files.put id node).frameAt other =
      if other = id then some (frame node.content) else files.frameAt other := by
  unfold frameAt
  rw [node?_put h]
  split <;> rfl

theorem frameAt_add {node : Node} : (files.add node).2.frameAt other =
    if other = files.nodes.length then some (frame node.content) else files.frameAt other := by
  unfold frameAt
  rw [node?_add]
  split <;> rfl

theorem frameAt_length : files.frameAt files.nodes.length = none := by
  unfold frameAt node?
  rw [List.getElem?_eq_none (Nat.le_refl _)]
  rfl

/-- What is there is not the node that comes next. -/
theorem ne_length_of_there (h : (files.frameAt id).isSome = true) : id ≠ files.nodes.length := by
  rintro rfl
  rw [frameAt_length] at h
  exact absurd h Bool.false_ne_true

/-- What is there has the frame that it had before a node was added. -/
theorem frameAt_add_of_there {node : Node} (h : (files.frameAt id).isSome = true) :
    (files.add node).2.frameAt id = files.frameAt id := by
  rw [frameAt_add, if_neg (ne_length_of_there h)]

/-- Stores that differ in bytes and times have the same frames. -/
theorem Alike.frameAt (h : Alike files later) : later.frameAt id = files.frameAt id := by
  have hframe : ∀ files : Files,
      files.frameAt id = ((files.node? id).map shapeOf).map Node.content := by
    intro files
    rw [Option.map_map]
    rfl
  rw [hframe, hframe, h.shapes]

theorem frameAt_setEntries : (files.setEntries here entries).frameAt id =
    if id = here ∧ files.IsFolder here then some (.directory (files.parentOf here) entries)
    else files.frameAt id := by
  unfold setEntries
  cases hnode : files.node? here with
  | none =>
      have hnot : ¬files.IsFolder here := by simp [IsFolder, hnode]
      rw [if_neg fun h => hnot h.2]
  | some node =>
      dsimp only
      have hfolder : files.IsFolder here ↔ node.isDirectory = true := by simp [IsFolder, hnode]
      by_cases hdirectory : node.isDirectory = true
      · rw [if_pos hdirectory, frameAt_put (by rw [hnode]; rfl)]
        by_cases hid : id = here
        · rw [if_pos hid, if_pos ⟨hid, hfolder.mpr hdirectory⟩]
          rfl
        · rw [if_neg hid, if_neg fun h => hid h.1]
      · rw [if_neg hdirectory, if_neg fun h => hdirectory (hfolder.mp h.2)]

theorem frameAt_setParent {parent : NodeId} : (files.setParent here parent).frameAt id =
    if id = here ∧ files.IsFolder here then some (.directory parent (files.entriesOf here))
    else files.frameAt id := by
  unfold setParent
  cases hnode : files.node? here with
  | none =>
      have hnot : ¬files.IsFolder here := by simp [IsFolder, hnode]
      rw [if_neg fun h => hnot h.2]
  | some node =>
      dsimp only
      have hfolder : files.IsFolder here ↔ node.isDirectory = true := by simp [IsFolder, hnode]
      by_cases hdirectory : node.isDirectory = true
      · rw [if_pos hdirectory, frameAt_put (by rw [hnode]; rfl)]
        by_cases hid : id = here
        · rw [if_pos hid, if_pos ⟨hid, hfolder.mpr hdirectory⟩]
          rfl
        · rw [if_neg hid, if_neg fun h => hid h.1]
      · rw [if_neg hdirectory, if_neg fun h => hdirectory (hfolder.mp h.2)]

theorem length_setEntries : (files.setEntries here entries).nodes.length = files.nodes.length := by
  unfold setEntries put
  split
  · split
    · exact List.length_set
    · rfl
  · rfl

theorem length_setParent {parent : NodeId} :
    (files.setParent here parent).nodes.length = files.nodes.length := by
  unfold setParent put
  split
  · split
    · exact List.length_set
    · rfl
  · rfl

theorem isFolder_setEntries : (files.setEntries here entries).IsFolder id ↔ files.IsFolder id := by
  rw [isFolder_iff, frameAt_setEntries]
  split
  case isTrue h => simp [h.1, h.2]
  case isFalse => exact isFolder_iff.symm

theorem isFolder_setParent {parent : NodeId} :
    (files.setParent here parent).IsFolder id ↔ files.IsFolder id := by
  rw [isFolder_iff, frameAt_setParent]
  split
  case isTrue h => simp [h.1, h.2]
  case isFalse => exact isFolder_iff.symm

theorem entriesOf_setEntries (h : files.IsFolder here) :
    (files.setEntries here entries).entriesOf id =
      if id = here then entries else files.entriesOf id := by
  rw [entriesOf_eq, frameAt_setEntries]
  by_cases hid : id = here
  · rw [if_pos ⟨hid, h⟩, if_pos hid]
  · rw [if_neg fun hboth => hid hboth.1, if_neg hid, entriesOf_eq]

theorem parentOf_setEntries :
    (files.setEntries here entries).parentOf id = files.parentOf id := by
  rw [parentOf_eq, frameAt_setEntries]
  by_cases h : id = here ∧ files.IsFolder here
  · rw [if_pos h, h.1]
  · rw [if_neg h, parentOf_eq]

theorem entriesOf_setParent {parent : NodeId} :
    (files.setParent here parent).entriesOf id = files.entriesOf id := by
  rw [entriesOf_eq, frameAt_setParent]
  by_cases h : id = here ∧ files.IsFolder here
  · rw [if_pos h, h.1]
  · rw [if_neg h, entriesOf_eq]

theorem parentOf_setParent {parent : NodeId} (h : files.IsFolder here) :
    (files.setParent here parent).parentOf id =
      if id = here then parent else files.parentOf id := by
  rw [parentOf_eq, frameAt_setParent]
  by_cases hid : id = here
  · rw [if_pos ⟨hid, h⟩, if_pos hid]
  · rw [if_neg fun hboth => hid hboth.1, if_neg hid, parentOf_eq]

/-! ## What a store has of a tree -/

/-- What a directory can list something under. -/
structure Proper (name : Bytes) : Prop extends Path.Plain name where
  notHere : name ≠ Path.here
  notUp : name ≠ Path.up
  short : name.length ≤ Path.longestName

/-- The directories of a store make up a tree, but for those that have been removed: a directory is
listed by its parent alone, under one name, and each name of a directory lists one thing. -/
structure Tidy (files : Files) : Prop where
  root : files.IsFolder root
  up : ∀ id, files.IsFolder id → files.IsFolder (files.parentOf id)
  proper : ∀ id, ∀ entry ∈ files.entriesOf id, Proper entry.1
  distinct : ∀ id, ((files.entriesOf id).map Prod.fst).Nodup
  there : ∀ id, ∀ entry ∈ files.entriesOf id, (files.frameAt entry.2).isSome = true
  held : ∀ id, ∀ entry ∈ files.entriesOf id, files.IsFolder entry.2 →
    files.parentOf entry.2 = id ∧ entry.2 ≠ Files.root
  once : ∀ id, ∀ a ∈ files.entriesOf id, ∀ b ∈ files.entriesOf id, a.2 = b.2 →
    files.IsFolder a.2 → a = b

/-- A node stays in the store, and stays a directory, a link to the same path, or something else. -/
structure Lasts (files later : Files) : Prop where
  length : files.nodes.length ≤ later.nodes.length
  there : ∀ id, (files.frameAt id).isSome = true → (later.frameAt id).isSome = true
  folder : ∀ id, (files.frameAt id).isSome = true → (later.IsFolder id ↔ files.IsFolder id)
  link : ∀ id, (files.frameAt id).isSome = true → later.linkAt? id = files.linkAt? id

theorem Lasts.trans {last : Files} (h : Lasts files later) (hlast : Lasts later last) :
    Lasts files last where
  length := Nat.le_trans h.length hlast.length
  there id hid := hlast.there id (h.there id hid)
  folder id hid := (hlast.folder id (h.there id hid)).trans (h.folder id hid)
  link id hid := (hlast.link id (h.there id hid)).trans (h.link id hid)

/-- Names that list something list it still. -/
def Lists (files later : Files) (listed : NodeId → Prop) : Prop :=
  ∀ directory name id, (files.entriesOf directory).lookup name = some id → listed id →
    (later.entriesOf directory).lookup name = some id

/-! ### The same frames -/

/-- Two stores differ in nothing but bytes, permissions and times. -/
structure Level (files later : Files) : Prop where
  length : later.nodes.length = files.nodes.length
  frames : ∀ id, later.frameAt id = files.frameAt id

theorem Level.entriesOf (h : Level files later) : later.entriesOf id = files.entriesOf id := by
  rw [entriesOf_eq, entriesOf_eq, h.frames]

theorem Level.parentOf (h : Level files later) : later.parentOf id = files.parentOf id := by
  rw [parentOf_eq, parentOf_eq, h.frames]

theorem Level.linkAt? (h : Level files later) : later.linkAt? id = files.linkAt? id := by
  rw [linkAt?_eq, linkAt?_eq, h.frames]

theorem Level.isFolder (h : Level files later) : later.IsFolder id ↔ files.IsFolder id := by
  rw [isFolder_iff, isFolder_iff, h.frames]

theorem Level.lasts (h : Level files later) : Lasts files later :=
  ⟨Nat.le_of_eq h.length.symm, fun id hid => by rwa [h.frames], fun _ _ => h.isFolder,
    fun _ _ => h.linkAt?⟩

theorem Level.lists (h : Level files later) {listed : NodeId → Prop} : Lists files later listed :=
  fun _ _ _ hlookup _ => by rwa [h.entriesOf]

/-- What keeps every directory as it is keeps the store tidy. -/
theorem Tidy.transfer (h : Tidy files)
    (hthere : ∀ id, (files.frameAt id).isSome = true → (later.frameAt id).isSome = true)
    (hfolder : ∀ id, later.IsFolder id ↔ files.IsFolder id)
    (hentries : ∀ id, later.entriesOf id = files.entriesOf id)
    (hparent : ∀ id, later.parentOf id = files.parentOf id) : Tidy later where
  root := (hfolder _).mpr h.root
  up id hid := by
    rw [hparent, hfolder]
    exact h.up id ((hfolder id).mp hid)
  proper id entry hentry := h.proper id entry (hentries id ▸ hentry)
  distinct id := by
    rw [hentries]
    exact h.distinct id
  there id entry hentry := hthere _ (h.there id entry (hentries id ▸ hentry))
  held id entry hentry hid := by
    rw [hparent]
    exact h.held id entry (hentries id ▸ hentry) ((hfolder _).mp hid)
  once id a ha b hb hsame hid :=
    h.once id a (hentries id ▸ ha) b (hentries id ▸ hb) hsame ((hfolder _).mp hid)

theorem Level.tidy (h : Level files later) (htidy : Tidy files) : Tidy later :=
  htidy.transfer (fun id hid => (h.frames id).symm ▸ hid) (fun _ => h.isFolder)
    (fun _ => h.entriesOf) fun _ => h.parentOf

theorem level_setBytes {bytes : Bytes} : Level files (files.setBytes id bytes) := by
  refine ⟨?_, fun _ => alike_setBytes.frameAt⟩
  unfold setBytes put
  split
  · split
    · exact List.length_set
    · rfl
  · rfl

/-- A store in which one node has become another, and neither is a directory, is tidy still. -/
theorem Tidy.put {node : Node} (h : Tidy files) (hid : (files.node? id).isSome = true)
    (hold : ¬files.IsFolder id) (hnew : node.isDirectory = false) : Tidy (files.put id node) := by
  have hnode : ∀ other, (files.put id node).node? other =
      if other = id then some node else files.node? other := fun other => node?_put hid
  have hfolder : ∀ other, (files.put id node).IsFolder other ↔ files.IsFolder other := by
    intro other
    by_cases hother : other = id
    · subst hother
      refine iff_of_false (fun hyes => ?_) hold
      unfold IsFolder at hyes
      rw [hnode, if_pos rfl, Option.any_some, hnew] at hyes
      cases hyes
    · unfold IsFolder
      rw [hnode, if_neg hother]
  -- what is listed, and where, hangs on the directories alone, and none of them is touched
  have hsame : ∀ other, files.IsFolder other →
      (files.put id node).frameAt other = files.frameAt other := by
    intro other hother
    rw [frameAt_put hid, if_neg fun (heq : other = id) => hold (heq ▸ hother)]
  refine h.transfer (fun other hother => ?_) hfolder (fun other => ?_) fun other => ?_
  · rw [frameAt_put hid]
    split
    · rfl
    · exact hother
  · by_cases hother : files.IsFolder other
    · rw [entriesOf_eq, hsame other hother, ← entriesOf_eq]
    · rw [entriesOf_of_not_isFolder hother,
        entriesOf_of_not_isFolder fun hyes => hother ((hfolder other).mp hyes)]
  · by_cases hother : files.IsFolder other
    · rw [parentOf_eq, hsame other hother, ← parentOf_eq]
    · rw [parentOf_of_not_isFolder hother,
        parentOf_of_not_isFolder fun hyes => hother ((hfolder other).mp hyes)]

theorem level_put {node changed : Node} (hnode : files.node? id = some node)
    (hframe : frame changed.content = frame node.content) : Level files (files.put id changed) := by
  refine ⟨List.length_set, fun other => ?_⟩
  rw [frameAt_put (by rw [hnode]; rfl)]
  split
  case isTrue h =>
    rw [h, hframe]
    unfold frameAt
    rw [hnode]
    rfl
  case isFalse => rfl

/-! ### Names that come and go -/

theorem lasts_setEntries : Lasts files (files.setEntries here entries) where
  length := Nat.le_of_eq length_setEntries.symm
  there id hid := by
    rw [frameAt_setEntries]
    split
    · rfl
    · exact hid
  folder _ _ := isFolder_setEntries
  link id _ := by
    rw [linkAt?_eq, frameAt_setEntries]
    by_cases h : id = here ∧ files.IsFolder here
    · rw [if_pos h, h.1, h.2.linkAt?]
    · rw [if_neg h, linkAt?_eq]

theorem lasts_setParent {parent : NodeId} : Lasts files (files.setParent here parent) where
  length := Nat.le_of_eq length_setParent.symm
  there id hid := by
    rw [frameAt_setParent]
    split
    · rfl
    · exact hid
  folder _ _ := isFolder_setParent
  link id _ := by
    rw [linkAt?_eq, frameAt_setParent]
    by_cases h : id = here ∧ files.IsFolder here
    · rw [if_pos h, h.1, h.2.linkAt?]
    · rw [if_neg h, linkAt?_eq]

theorem lasts_add {node : Node} : Lasts files (files.add node).2 := by
  refine ⟨?_, fun id hid => ?_, fun id hid => ?_, fun id hid => ?_⟩
  · show files.nodes.length ≤ (files.nodes ++ [node]).length
    rw [List.length_append]
    exact Nat.le_add_right _ _
  · rwa [frameAt_add_of_there hid]
  · rw [isFolder_iff, isFolder_iff, frameAt_add_of_there hid]
  · rw [linkAt?_eq, linkAt?_eq, frameAt_add_of_there hid]

theorem entriesOf_dropName : (files.dropName place).entriesOf id =
    if id = place.directory then
      (files.entriesOf id).filter fun entry => entry.1 != place.name
    else files.entriesOf id := by
  unfold dropName
  by_cases hfolder : files.IsFolder place.directory
  · rw [entriesOf_setEntries hfolder]
    split
    case isTrue h => rw [h]
    case isFalse => rfl
  · -- what is no directory has no entries to lose
    have hempty : files.entriesOf place.directory = [] := by
      by_contra hne
      exact hfolder (isFolder_of_mem (List.head_mem hne))
    rw [entriesOf_eq, frameAt_setEntries, if_neg fun h => hfolder h.2, ← entriesOf_eq]
    split
    case isTrue h => rw [h, hempty, List.filter_nil]
    case isFalse => rfl

theorem mem_dropName {entry : Bytes × NodeId} : entry ∈ (files.dropName place).entriesOf id ↔
    entry ∈ files.entriesOf id ∧ ¬(id = place.directory ∧ entry.1 = place.name) := by
  rw [entriesOf_dropName]
  split
  case isTrue h =>
    rw [List.mem_filter, bne_iff_ne]
    simp [h]
  case isFalse h => simp [h]

theorem lasts_dropName : Lasts files (files.dropName place) := lasts_setEntries

/-- A store in which a name is missing is as tidy as before. -/
theorem Tidy.dropName (h : Tidy files) : Tidy (files.dropName place) where
  root := isFolder_setEntries.mpr h.root
  up id hid := by
    unfold Files.dropName
    rw [isFolder_setEntries, parentOf_setEntries]
    exact h.up id (isFolder_setEntries.mp hid)
  proper id entry hentry := h.proper id entry (mem_dropName.mp hentry).1
  distinct id := by
    rw [entriesOf_dropName]
    split
    · exact (h.distinct id).sublist (List.filter_sublist.map _)
    · exact h.distinct id
  there id entry hentry := lasts_dropName.there _ (h.there id entry (mem_dropName.mp hentry).1)
  held id entry hentry hfolder := by
    unfold Files.dropName
    rw [parentOf_setEntries]
    exact h.held id entry (mem_dropName.mp hentry).1 (isFolder_setEntries.mp hfolder)
  once id a ha b hb hsame hfolder :=
    h.once id a (mem_dropName.mp ha).1 b (mem_dropName.mp hb).1 hsame
      (isFolder_setEntries.mp hfolder)

theorem lookup_filter_ne {dropped : Bytes} (h : name ≠ dropped) :
    (entries.filter fun entry => entry.1 != dropped).lookup name = entries.lookup name := by
  induction entries with
  | nil => rfl
  | cons entry entries ih =>
      by_cases hentry : entry.1 = dropped
      · have hne : (name == entry.1) = false := beq_false_of_ne fun heq => h (heq.trans hentry)
        rw [List.filter_cons_of_neg (by simp [hentry]), List.lookup_cons, hne]
        exact ih
      · rw [List.filter_cons_of_pos (by simpa using hentry), List.lookup_cons, List.lookup_cons, ih]

/-- Other things are listed as before. -/
theorem lists_dropName {old : NodeId}
    (hold : (files.entriesOf place.directory).lookup place.name = some old) :
    Lists files (files.dropName place) (· ≠ old) := by
  intro directory name id hlookup hne
  rw [entriesOf_dropName]
  split
  case isFalse => exact hlookup
  case isTrue heq =>
    have hname : name ≠ place.name := by
      rintro rfl
      rw [heq, hold] at hlookup
      exact hne (Option.some.inj hlookup).symm
    rwa [lookup_filter_ne hname]

theorem entriesOf_enterNode (h : files.IsFolder place.directory) :
    (files.enterNode place other).entriesOf id =
      if id = place.directory then files.entriesOf id ++ [(place.name, other)]
      else files.entriesOf id := by
  unfold enterNode
  rw [entriesOf_setEntries h]
  split
  case isTrue heq => rw [heq]
  case isFalse => rfl

theorem mem_enterNode (h : files.IsFolder place.directory) {entry : Bytes × NodeId} :
    entry ∈ (files.enterNode place other).entriesOf id ↔
      entry ∈ files.entriesOf id ∨ id = place.directory ∧ entry = (place.name, other) := by
  rw [entriesOf_enterNode h]
  split
  case isTrue heq =>
    rw [List.mem_append, List.mem_singleton]
    simp [heq]
  case isFalse heq => simp [heq]

theorem lasts_enterNode : Lasts files (files.enterNode place id) := lasts_setEntries

theorem lists_enterNode (h : files.IsFolder place.directory) {listed : NodeId → Prop} :
    Lists files (files.enterNode place other) listed := by
  intro directory name id hlookup _
  rw [entriesOf_enterNode h]
  split
  · rw [List.lookup_append, hlookup, Option.some_or]
  · exact hlookup

/-- A free name has been given to something: to a directory only if it is to be its only one. -/
theorem Tidy.enterNode (h : Tidy files) (hfolder : files.IsFolder place.directory)
    (hproper : Proper place.name)
    (hfree : ∀ entry ∈ files.entriesOf place.directory, entry.1 ≠ place.name)
    (hthere : (files.frameAt id).isSome = true)
    (honly : files.IsFolder id → files.parentOf id = place.directory ∧ id ≠ Files.root ∧
      ∀ directory, ∀ entry ∈ files.entriesOf directory, entry.2 ≠ id) :
    Tidy (files.enterNode place id) where
  root := isFolder_setEntries.mpr h.root
  up other hother := by
    unfold Files.enterNode
    rw [isFolder_setEntries, parentOf_setEntries]
    exact h.up other (isFolder_setEntries.mp hother)
  proper other entry hentry := by
    rcases (mem_enterNode hfolder).mp hentry with hentry | ⟨-, rfl⟩
    · exact h.proper other entry hentry
    · exact hproper
  distinct other := by
    rw [entriesOf_enterNode hfolder]
    split
    case isTrue heq =>
      rw [List.map_append, List.nodup_append]
      refine ⟨h.distinct other, List.nodup_singleton _, fun a ha b hb => ?_⟩
      obtain ⟨entry, hentry, rfl⟩ := List.mem_map.mp ha
      rw [List.mem_singleton.mp hb]
      exact hfree entry (heq ▸ hentry)
    case isFalse => exact h.distinct other
  there other entry hentry := by
    refine lasts_enterNode.there _ ?_
    rcases (mem_enterNode hfolder).mp hentry with hentry | ⟨-, rfl⟩
    · exact h.there other entry hentry
    · exact hthere
  held other entry hentry hentered := by
    have hbefore := isFolder_setEntries.mp hentered
    unfold Files.enterNode
    rw [parentOf_setEntries]
    rcases (mem_enterNode hfolder).mp hentry with hentry | ⟨rfl, rfl⟩
    · exact h.held other entry hentry hbefore
    · exact ⟨(honly hbefore).1, (honly hbefore).2.1⟩
  once other a ha b hb hsame hentered := by
    -- an old name of the node that has been entered would not be its only one
    have hbefore := isFolder_setEntries.mp hentered
    rcases (mem_enterNode hfolder).mp ha with ha | ⟨-, rfl⟩
    · rcases (mem_enterNode hfolder).mp hb with hb | ⟨-, rfl⟩
      · exact h.once other a ha b hb hsame hbefore
      · have hsame : a.2 = id := hsame
        exact absurd hsame ((honly (hsame ▸ hbefore)).2.2 other a ha)
    · rcases (mem_enterNode hfolder).mp hb with hb | ⟨-, rfl⟩
      · exact absurd hsame.symm ((honly hbefore).2.2 other b hb)
      · rfl

theorem entriesOf_add {node : Node} (hfresh : ∀ parent entries, node.content =
      .directory parent entries → entries = []) :
    (files.add node).2.entriesOf id = files.entriesOf id := by
  rw [entriesOf_eq, frameAt_add]
  by_cases hid : id = files.nodes.length
  · rw [if_pos hid, hid, entriesOf_eq, frameAt_length]
    unfold frame
    cases hcontent : node.content with
    | directory parent entries => exact hfresh parent entries hcontent
    | _ => rfl
  · rw [if_neg hid, entriesOf_eq]

/-- A node that nothing lists has been added: no directory, or an empty one that knows its
parent. -/
theorem Tidy.add {node : Node} (h : Tidy files)
    (hnode : ∀ parent entries, node.content = .directory parent entries →
      entries = [] ∧ files.IsFolder parent) : Tidy (files.add node).2 := by
  have hentries : ∀ id, (files.add node).2.entriesOf id = files.entriesOf id := fun id =>
    entriesOf_add fun parent entries hcontent => (hnode parent entries hcontent).1
  have hkept : ∀ id, (files.frameAt id).isSome = true →
      (files.add node).2.parentOf id = files.parentOf id := by
    intro id hid
    rw [parentOf_eq, frameAt_add_of_there hid, parentOf_eq]
  have hlasts : Lasts files (files.add node).2 := lasts_add
  exact {
    root := (hlasts.folder _ h.root.there).mpr h.root
    up := by
      intro id hid
      by_cases hnew : id = files.nodes.length
      · -- the parent of the new directory was a directory before
        obtain ⟨parent, entries, hframe⟩ := isFolder_iff.mp hid
        rw [frameAt_add, if_pos hnew, Option.some.injEq] at hframe
        have hparent : (files.add node).2.parentOf id = parent := by
          rw [parentOf_eq, frameAt_add, if_pos hnew, hframe]
        have hfolder := (hnode parent entries (content_of_frame hframe)).2
        rw [hparent]
        exact (hlasts.folder parent hfolder.there).mpr hfolder
      · have hbefore : files.IsFolder id := by
          rw [isFolder_iff, frameAt_add, if_neg hnew] at hid
          exact isFolder_iff.mpr hid
        have hup := h.up id hbefore
        rw [hkept id hbefore.there]
        exact (hlasts.folder _ hup.there).mpr hup
    proper := fun id entry hentry => h.proper id entry (hentries id ▸ hentry)
    distinct := by
      intro id
      rw [hentries]
      exact h.distinct id
    there := fun id entry hentry => hlasts.there _ (h.there id entry (hentries id ▸ hentry))
    held := by
      intro id entry hentry hfolder
      rw [hentries] at hentry
      have hthere := h.there id entry hentry
      rw [hkept entry.2 hthere]
      exact h.held id entry hentry ((hlasts.folder _ hthere).mp hfolder)
    once := by
      intro id a ha b hb hsame hfolder
      rw [hentries] at ha hb
      exact h.once id a ha b hb hsame ((hlasts.folder _ (h.there id a ha)).mp hfolder) }

end Files

end LineShell
