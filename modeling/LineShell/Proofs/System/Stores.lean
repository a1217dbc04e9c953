import LineShell.System.Files
import Mathlib.Tactic.Common

/-!
# Where paths lead

What opening a file does to the store, and where its path leads afterwards.

* **`resolve_cons`** — a path is followed name by name, and what one name does is its `turn`;
* **`Alike`** — where paths lead does not depend on the bytes of regular files;
* **`Entered`** — a new name leads to the new node, and every other name to what it led to;
* **`openPath_leads`, `openPath_of_leads`** — a path that has been opened leads to the file that
  was opened, and a path that leads to a file is opened as that file.
-/

namespace LineShell

namespace Files

variable {files later : Files} {creating follow : Bool} {budget : Nat} {here id : NodeId}
  {names rest : List Bytes} {name path : Bytes}

/-- What comes to a result has come through its first part. -/
theorem exists_of_bind {ε α β : Type} {first : Except ε α} {next : α → Except ε β} {result : β}
    (h : first >>= next = .ok result) : ∃ value, first = .ok value ∧ next value = .ok result := by
  cases first with
  | error errno => cases h
  | ok value => exact ⟨value, rfl, h⟩

/-- What comes to a result has not been turned away before its rest. -/
theorem of_guard {ε α β : Type} {refused : Prop} [Decidable refused] {errno : ε}
    {next : α → Except ε β} {rest : Except ε β} {result : β}
    (h : (if refused then throw errno >>= next else rest) = .ok result) :
    ¬refused ∧ rest = .ok result := by
  split at h
  · cases h
  · rename_i hrefused
    exact ⟨hrefused, h⟩

/-! ## Name by name -/

/-- What one name on a path comes to. -/
inductive Turn where
  /-- The path ends there. -/
  | stop (result : Except Errno Place)
  /-- The path goes on from a node. -/
  | down (id : NodeId)
  /-- The path goes on through a symbolic link. -/
  | through (target : Bytes)

/-- Where a symbolic link leads. -/
def linkAt? (files : Files) (id : NodeId) : Option Bytes :=
  match (files.node? id).map Node.content with
  | some (.link target) => some target
  | _ => none

/-- What the name of an entry comes to in a directory, with other names behind it. -/
def look (files : Files) (follow : Bool) (here : NodeId) (name : Bytes) (rest : List Bytes) : Turn :=
  match (files.entriesOf here).lookup name with
  | none => .stop (if rest.isEmpty then .ok ⟨here, name, none⟩ else .error .noEntry)
  | some id =>
      match files.linkAt? id with
      | some target =>
          if rest.isEmpty && !follow then .stop (.ok ⟨here, name, some id⟩)
          else if target.isEmpty then .stop (.error .noEntry)
          else .through target
      | none => if rest.isEmpty then .stop (.ok ⟨here, name, some id⟩) else .down id

/-- What a name comes to in a directory, with other names behind it. -/
def turn (files : Files) (creating follow : Bool) (here : NodeId) (name : Bytes)
    (rest : List Bytes) : Turn :=
  match files.node? here with
  | none => .stop (.error .notDirectory)
  | some directory =>
      if !directory.isDirectory then .stop (.error .notDirectory)
      else if !files.permits directory searchBit then .stop (.error .accessDenied)
      else if Path.longestName < name.length then .stop (.error .nameTooLong)
      else if name == [] || name == Path.here then
        if rest.isEmpty then .stop (.ok ⟨here, Path.here, some here⟩) else .down here
      else if name == Path.up then
        if rest.isEmpty then .stop (.ok ⟨files.parentOf here, Path.up, some (files.parentOf here)⟩)
        else .down (files.parentOf here)
      else if creating && rest == [[]] then .stop (.error .isDirectory)
      else files.look follow here name rest

theorem resolve_nil : files.resolve creating follow budget here [] =
    .ok ⟨here, Path.here, some here⟩ := by
  rw [resolve]

/-- A path is followed name by name. -/
theorem resolve_cons : files.resolve creating follow budget here (name :: rest) =
    match files.turn creating follow here name rest with
    | .stop result => result
    | .down id => files.resolve creating follow budget id rest
    | .through target =>
        match budget with
        | 0 => .error .linkLoop
        | budget + 1 => files.resolve creating follow budget
            (if (Path.parse target).absolute then root else here)
            ((Path.parse target).names ++ rest) := by
  rw [resolve]
  unfold turn
  cases files.node? here with
  | none => rfl
  | some directory =>
      dsimp only
      by_cases hdirectory : (!directory.isDirectory) = true
      · rw [if_pos hdirectory, if_pos hdirectory]
      rw [if_neg hdirectory, if_neg hdirectory]
      by_cases hsearch : (!files.permits directory searchBit) = true
      · rw [if_pos hsearch, if_pos hsearch]
      rw [if_neg hsearch, if_neg hsearch]
      by_cases hlong : Path.longestName < name.length
      · rw [if_pos hlong, if_pos hlong]
      rw [if_neg hlong, if_neg hlong]
      by_cases hhere : (name == [] || name == Path.here) = true
      · rw [if_pos hhere, if_pos hhere]
        split <;> rfl
      rw [if_neg hhere, if_neg hhere]
      by_cases hup : (name == Path.up) = true
      · rw [if_pos hup, if_pos hup]
        split <;> rfl
      rw [if_neg hup, if_neg hup]
      by_cases hslash : (creating && rest == [[]]) = true
      · rw [if_pos hslash, if_pos hslash]
      rw [if_neg hslash, if_neg hslash]
      unfold look linkAt?
      cases (files.entriesOf here).lookup name with
      | none => rfl
      | some id =>
          dsimp only
          generalize (files.node? id).map Node.content = content
          rcases content with _ | _ | _ | target | _ | _
          case some.link =>
            dsimp only
            by_cases hlast : (rest.isEmpty && !follow) = true
            · rw [if_pos hlast, if_pos hlast]
            rw [if_neg hlast, if_neg hlast]
            cases target.isEmpty <;> rfl
          all_goals
            dsimp only
            split <;> rfl

theorem look_stop_none {directory : NodeId} {entry : Bytes}
    (h : files.look follow here name rest = .stop (.ok ⟨directory, entry, none⟩)) :
    directory = here := by
  unfold look at h
  split at h
  · split at h
    · cases h
      rfl
    · exact absurd h (by simp)
  · split at h
    · split_ifs at h <;> exact absurd h (by simp)
    · split_ifs at h
      exact absurd h (by simp)

/-- A path that ends with a free name ends in the directory that lacks the name. -/
theorem turn_stop_none {directory : NodeId} {entry : Bytes}
    (h : files.turn creating follow here name rest = .stop (.ok ⟨directory, entry, none⟩)) :
    directory = here ∧ (files.node? here).any Node.isDirectory = true := by
  unfold turn at h
  cases hnode : files.node? here with
  | none => exact absurd h (by simp [hnode])
  | some node =>
      rw [hnode] at h
      dsimp only at h
      split_ifs at h with hdirectory
      case neg => exact ⟨look_stop_none h, by simpa using hdirectory⟩
      all_goals exact absurd h (by simp)

/-- Two turns go on alike, or stop with related results; a result that is related to every other
one may stand against anything. -/
def Turn.Related (R : Except Errno Place → Except Errno Place → Prop) : Turn → Turn → Prop
  | .stop a, other => (∀ b, R a b) ∨ ∃ b, other = .stop b ∧ R a b
  | .down id, other => other = .down id
  | .through target, other => other = .through target

theorem Turn.related_self {R : Except Errno Place → Except Errno Place → Prop} (hR : ∀ a, R a a)
    (turn : Turn) : Turn.Related R turn turn := by
  cases turn with
  | stop result => exact .inr ⟨result, rfl, hR result⟩
  | down id => rfl
  | through target => rfl

/-- Where every name comes to something related in two stores, every path does. -/
theorem resolve_related {creates : Bool} (R : Except Errno Place → Except Errno Place → Prop)
    (hloop : R (.error .linkLoop) (.error .linkLoop))
    (hnil : ∀ here, R (.ok ⟨here, Path.here, some here⟩) (.ok ⟨here, Path.here, some here⟩))
    (hturn : ∀ here name rest, Turn.Related R (files.turn creating follow here name rest)
      (later.turn creates follow here name rest)) :
    R (files.resolve creating follow budget here names)
      (later.resolve creates follow budget here names) := by
  -- A link puts its own names before the rest, but takes one from the budget; within one budget,
  -- the names get fewer.
  induction budget using Nat.strongRecOn generalizing here names with
  | ind budget hbudget =>
      induction names generalizing here with
      | nil =>
          rw [resolve_nil, resolve_nil]
          exact hnil here
      | cons name rest ih =>
          have h := hturn here name rest
          rw [resolve_cons, resolve_cons]
          cases hfirst : files.turn creating follow here name rest with
          | stop result =>
              rw [hfirst] at h
              obtain hall | ⟨other, hother, h⟩ := h
              · exact hall _
              · rw [hother]
                exact h
          | down id =>
              rw [hfirst] at h
              rw [show later.turn creates follow here name rest = .down id from h]
              exact ih
          | through target =>
              rw [hfirst] at h
              rw [show later.turn creates follow here name rest = .through target from h]
              cases budget with
              | zero => exact hloop
              | succ budget => exact hbudget budget (Nat.lt_succ_self budget)

/-- A path that may end in something new leads, when it need not be made, to the same place. -/
theorem resolve_of_creating {place : Place}
    (h : files.resolve true follow budget here names = .ok place) :
    files.resolve false follow budget here names = .ok place := by
  refine resolve_related (fun a b => a = .ok place → b = .ok place) (fun h => absurd h (by simp))
    (fun _ h => h) (fun here name rest => ?_) h
  unfold turn
  cases files.node? here with
  | none => exact .inr ⟨_, rfl, id⟩
  | some directory =>
      dsimp only
      by_cases hslash : (rest == [[]]) = true
      · -- A name with nothing but a slash behind it makes the only difference.
        simp only [Bool.true_and, Bool.false_and, hslash, if_true]
        split_ifs
        all_goals first
          | exact .inr ⟨_, rfl, id⟩
          | rfl
          | exact .inl fun b h => absurd h (by simp)
      · simp only [Bool.true_and, Bool.false_and, hslash]
        exact Turn.related_self (fun _ h => h) _

/-! ## Kinds of nodes -/

theorem isDirectory_iff {node : Node} : node.isDirectory = true ↔
    ∃ parent entries, node.content = .directory parent entries := by
  unfold Node.isDirectory
  cases node.content <;> simp

theorem bytes?_eq_some {node : Node} {bytes : Bytes} :
    node.bytes? = some bytes ↔ node.content = .regular bytes := by
  unfold Node.bytes?
  cases node.content <;> simp

/-- A regular file is no directory. -/
theorem isDirectory_of_bytes? {node : Node} {bytes : Bytes} (h : node.bytes? = some bytes) :
    node.isDirectory = false := by
  unfold Node.isDirectory
  rw [bytes?_eq_some.mp h]

/-! ## Stores that differ in bytes -/

/-- All of a node but the bytes of a regular file and the time of the last change. -/
def shapeOf (node : Node) : Node :=
  { node with
    content := match node.content with
      | .regular _ => .regular []
      | other => other
    changed := 0 }

/-- Two stores differ in the bytes of regular files and in times at most. -/
structure Alike (files later : Files) : Prop where
  guarded : later.guarded = files.guarded
  shapes : ∀ id, (later.node? id).map shapeOf = (files.node? id).map shapeOf

theorem Alike.refl : Alike files files := ⟨rfl, fun _ => rfl⟩

theorem Alike.trans {last : Files} (h : Alike files later) (hlast : Alike later last) :
    Alike files last :=
  ⟨hlast.guarded.trans h.guarded, fun id => (hlast.shapes id).trans (h.shapes id)⟩

/-- What is seen of the content of a node, unless it is a regular file. -/
theorem content_eq_of_shapeOf {a b : Node} (h : shapeOf a = shapeOf b) :
    a.content = b.content ∨ ∃ old new, a.content = .regular old ∧ b.content = .regular new := by
  have hcontent := congrArg Node.content h
  unfold shapeOf at hcontent
  dsimp only at hcontent
  split at hcontent
  · rename_i old hold
    split at hcontent
    · rename_i new hnew
      exact .inr ⟨old, new, hold, hnew⟩
    · rename_i hother
      exact absurd hcontent.symm (hother _)
  · rename_i hother
    split at hcontent
    · exact absurd hcontent (hother _)
    · exact .inl hcontent

theorem mode_eq_of_shapeOf {a b : Node} (h : shapeOf a = shapeOf b) :
    a.mode = b.mode ∧ a.owned = b.owned :=
  ⟨show (shapeOf a).mode = (shapeOf b).mode by rw [h],
    show (shapeOf a).owned = (shapeOf b).owned by rw [h]⟩

theorem isDirectory_of_shapeOf {a b : Node} (h : shapeOf a = shapeOf b) :
    a.isDirectory = b.isDirectory := by
  unfold Node.isDirectory
  rcases content_eq_of_shapeOf h with heq | ⟨old, new, hold, hnew⟩
  · rw [heq]
  · rw [hold, hnew]

/-- The contents of a node in two stores are the same, or those of a regular file. -/
theorem Alike.content (h : Alike files later) (id : NodeId) :
    (later.node? id).map Node.content = (files.node? id).map Node.content ∨
      ∃ old new, (later.node? id).map Node.content = some (.regular new) ∧
        (files.node? id).map Node.content = some (.regular old) := by
  have hshape := h.shapes id
  cases hlater : later.node? id with
  | none =>
      cases hfiles : files.node? id with
      | none => exact .inl rfl
      | some node => exact absurd hshape (by simp [hlater, hfiles])
  | some node =>
      cases hfiles : files.node? id with
      | none => exact absurd hshape (by simp [hlater, hfiles])
      | some other =>
          rw [hlater, hfiles] at hshape
          rcases content_eq_of_shapeOf (Option.some.inj hshape) with heq | ⟨new, old, hnew, hold⟩
          · exact .inl (congrArg some heq)
          · exact .inr ⟨old, new, congrArg some hnew, congrArg some hold⟩

theorem Alike.entriesOf (h : Alike files later) : later.entriesOf id = files.entriesOf id := by
  unfold Files.entriesOf
  rcases h.content id with heq | ⟨old, new, hnew, hold⟩
  · rw [heq]
  · rw [hnew, hold]

theorem Alike.parentOf (h : Alike files later) : later.parentOf id = files.parentOf id := by
  unfold Files.parentOf
  rcases h.content id with heq | ⟨old, new, hnew, hold⟩
  · rw [heq]
  · rw [hnew, hold]

theorem Alike.linkAt? (h : Alike files later) : later.linkAt? id = files.linkAt? id := by
  unfold Files.linkAt?
  rcases h.content id with heq | ⟨old, new, hnew, hold⟩
  · rw [heq]
  · rw [hnew, hold]

theorem Alike.permits (h : Alike files later) {a b : Node} (hshape : shapeOf a = shapeOf b)
    (bit : Nat) : later.permits a bit = files.permits b bit := by
  obtain ⟨hmode, howned⟩ := mode_eq_of_shapeOf hshape
  unfold Files.permits
  rw [h.guarded, hmode, howned]

theorem Alike.look (h : Alike files later) :
    later.look follow here name rest = files.look follow here name rest := by
  unfold Files.look
  simp only [h.entriesOf, h.linkAt?]

/-- Where a name leads does not depend on the bytes of regular files. -/
theorem Alike.turn (h : Alike files later) :
    later.turn creating follow here name rest = files.turn creating follow here name rest := by
  have hshape := h.shapes here
  unfold Files.turn
  rw [h.parentOf]
  cases hlater : later.node? here with
  | none =>
      cases hfiles : files.node? here with
      | none => rfl
      | some node => exact absurd hshape (by simp [hlater, hfiles])
  | some node =>
      cases hfiles : files.node? here with
      | none => exact absurd hshape (by simp [hlater, hfiles])
      | some other =>
          rw [hlater, hfiles] at hshape
          have hsame := Option.some.inj hshape
          dsimp only
          rw [isDirectory_of_shapeOf hsame, h.permits hsame, h.look]

theorem Alike.resolve (h : Alike files later) :
    later.resolve creating follow budget here names =
      files.resolve creating follow budget here names := by
  refine resolve_related (fun a b => a = b) rfl (fun _ => rfl) fun here name rest => ?_
  rw [h.turn]
  exact Turn.related_self (fun _ => rfl) _

theorem Alike.locate (h : Alike files later) :
    later.locate here path follow creating = files.locate here path follow creating := by
  unfold Files.locate
  simp only [h.resolve]

theorem Alike.find (h : Alike files later) :
    later.find here path follow = files.find here path follow := by
  unfold Files.find
  rw [h.locate]

/-- The bytes of a node, if it is a regular file. -/
def bytesOf? (files : Files) (id : NodeId) : Option Bytes := (files.node? id).bind Node.bytes?

theorem bytesOf?_eq_some {bytes : Bytes} : files.bytesOf? id = some bytes ↔
    (files.node? id).map Node.content = some (.regular bytes) := by
  unfold bytesOf?
  cases files.node? id with
  | none => simp
  | some node =>
      rw [Option.bind_some, Option.map_some, Option.some.injEq]
      exact bytes?_eq_some

theorem bytesAt_of_bytesOf? {bytes : Bytes} (h : files.bytesOf? id = some bytes) :
    files.bytesAt id = bytes := by
  unfold bytesAt
  rw [show (files.node? id).bind Node.bytes? = some bytes from h]
  rfl

theorem Alike.bytesOf? (h : Alike files later) {bytes : Bytes} (hbytes : files.bytesOf? id = some bytes) :
    ∃ bytes, later.bytesOf? id = some bytes := by
  rw [bytesOf?_eq_some] at hbytes
  rcases h.content id with heq | ⟨old, new, hnew, -⟩
  · exact ⟨bytes, bytesOf?_eq_some.mpr (heq.trans hbytes)⟩
  · exact ⟨new, bytesOf?_eq_some.mpr hnew⟩

theorem node?_put {node : Node} (h : (files.node? id).isSome = true) {other : NodeId} :
    (files.put id node).node? other = if other = id then some node else files.node? other := by
  unfold put node?
  dsimp only
  rw [List.getElem?_set]
  by_cases hother : id = other
  · subst hother
    rw [if_pos rfl, if_pos rfl, if_pos]
    exact (List.getElem?_eq_some_iff.mp (Option.get_mem h)).1
  · rw [if_neg hother, if_neg (Ne.symm hother)]

/-- A node that is added stands behind the others. -/
theorem node?_add {node : Node} {other : NodeId} : (files.add node).2.node? other =
    if other = files.nodes.length then some node else files.node? other := by
  show (files.nodes ++ [node])[other]? = if _ then _ else files.nodes[other]?
  by_cases hother : other = files.nodes.length
  · rw [hother, if_pos rfl, List.getElem?_concat_length]
  · rw [if_neg hother]
    by_cases hless : other < files.nodes.length
    · rw [List.getElem?_append_left hless]
    · rw [List.getElem?_eq_none, List.getElem?_eq_none]
      · exact Nat.le_of_not_lt hless
      · rw [List.length_append, List.length_singleton]
        exact Nat.lt_of_le_of_ne (Nat.le_of_not_lt hless) (Ne.symm hother)

/-- Nothing but a regular file takes bytes. -/
theorem setBytes_of_bytesOf?_eq_none {bytes : Bytes} (h : files.bytesOf? id = none) :
    files.setBytes id bytes = files := by
  unfold setBytes
  unfold bytesOf? at h
  cases hnode : files.node? id with
  | none => rfl
  | some node =>
      rw [hnode] at h
      dsimp only
      rw [if_neg]
      unfold Node.isRegular
      rw [show node.bytes? = none from h]
      exact Bool.false_ne_true

/-- Bytes that are put into a regular file take the place of those that it holds. -/
theorem setBytes_of_bytesOf? (bytes : Bytes) {old : Bytes} (h : files.bytesOf? id = some old) :
    ∃ node, files.node? id = some node ∧ node.content = .regular old ∧
      files.setBytes id bytes =
        files.put id { node with content := .regular bytes, changed := files.time } := by
  obtain ⟨node, hnode, hold⟩ := Option.bind_eq_some_iff.mp h
  refine ⟨node, hnode, bytes?_eq_some.mp hold, ?_⟩
  unfold setBytes
  rw [hnode]
  dsimp only
  rw [if_pos]
  unfold Node.isRegular
  rw [hold]
  rfl

/-- To put bytes into a regular file changes nothing but its bytes. -/
theorem alike_setBytes {bytes : Bytes} : Alike files (files.setBytes id bytes) := by
  cases hbytes : files.bytesOf? id with
  | none =>
      rw [setBytes_of_bytesOf?_eq_none hbytes]
      exact .refl
  | some old =>
      obtain ⟨node, hnode, hcontent, hset⟩ := setBytes_of_bytesOf? bytes hbytes
      rw [hset]
      refine ⟨rfl, fun other => ?_⟩
      rw [node?_put (by rw [hnode]; rfl)]
      split
      · rename_i hother
        rw [hother, hnode, Option.map_some, Option.map_some]
        unfold shapeOf
        rw [hcontent]
      · rfl

/-- Other nodes are as they were. -/
theorem node?_setBytes {bytes : Bytes} {other : NodeId} (h : id ≠ other) :
    (files.setBytes id bytes).node? other = files.node? other := by
  cases hbytes : files.bytesOf? id with
  | none => rw [setBytes_of_bytesOf?_eq_none hbytes]
  | some old =>
      obtain ⟨node, hnode, -, hset⟩ := setBytes_of_bytesOf? bytes hbytes
      rw [hset, node?_put (by rw [hnode]; rfl), if_neg (Ne.symm h)]

/-- A regular file holds the bytes that have been put into it, and other files hold theirs. -/
theorem bytesOf?_setBytes {old bytes : Bytes} (h : files.bytesOf? id = some old) {other : NodeId} :
    (files.setBytes id bytes).bytesOf? other =
      if other = id then some bytes else files.bytesOf? other := by
  obtain ⟨node, hnode, -, hset⟩ := setBytes_of_bytesOf? bytes h
  rw [hset]
  unfold bytesOf?
  rw [node?_put (by rw [hnode]; rfl)]
  split <;> rfl

/-- Writing at the end of what there is puts bytes behind it. -/
theorem overwrite_length (old bytes : Bytes) :
    overwrite old old.length bytes = old ++ bytes := by
  unfold overwrite
  rw [List.take_length, Nat.sub_self, List.replicate_zero, List.append_nil,
    List.drop_eq_nil_of_le (Nat.le_add_right _ _), List.append_nil]

theorem alike_setTime {time : Nat} : Alike files { files with time := time } :=
  ⟨rfl, fun _ => rfl⟩

/-! ## Stores with a new name -/

/-- A directory has got a further entry, which leads to a new regular file. -/
structure Entered (files later : Files) (directory : NodeId) (name : Bytes) (id : NodeId) :
    Prop where
  guarded : later.guarded = files.guarded
  fresh : files.node? id = none
  regular : later.bytesOf? id = some []
  kept : ∀ other, other ≠ directory → other ≠ id → later.node? other = files.node? other
  entered : ∃ node parent entries time, files.node? directory = some node ∧
    node.content = .directory parent entries ∧ later.node? directory = some { node with
      content := .directory parent (entries ++ [(name, id)])
      changed := time }

section Entered

variable {directory other : NodeId} {entry : Bytes}

/-- Everything that is neither the new file nor a directory is as it was. -/
theorem Entered.node? (h : Entered files later directory entry id) (hother : other ≠ id)
    {node : Node} (hnode : files.node? other = some node) (hkind : node.isDirectory = false) :
    later.node? other = some node := by
  rw [h.kept other _ hother, hnode]
  rintro rfl
  obtain ⟨found, parent, entries, time, hfound, hcontent, -⟩ := h.entered
  cases hnode.symm.trans hfound
  exact absurd (isDirectory_iff.mpr ⟨parent, entries, hcontent⟩) (by simp [hkind])

theorem Entered.linkAt? (h : Entered files later directory entry id) :
    later.linkAt? other = files.linkAt? other := by
  unfold Files.linkAt?
  by_cases hother : other = id
  · rw [hother, h.fresh, bytesOf?_eq_some.mp h.regular]
    rfl
  · by_cases hdirectory : other = directory
    · obtain ⟨node, parent, entries, time, hnode, hcontent, hlater⟩ := h.entered
      rw [hdirectory, hnode, hlater, Option.map_some, Option.map_some, hcontent]
    · rw [h.kept other hdirectory hother]

theorem Entered.permits (h : Entered files later directory entry id) {node : Node} {bit : Nat} :
    later.permits node bit = files.permits node bit := by
  unfold Files.permits
  rw [h.guarded]

theorem Entered.parentOf (h : Entered files later directory entry id) (hother : other ≠ id) :
    later.parentOf other = files.parentOf other := by
  unfold Files.parentOf
  by_cases hdirectory : other = directory
  · obtain ⟨node, parent, entries, time, hnode, hcontent, hlater⟩ := h.entered
    rw [hdirectory, hnode, hlater, Option.map_some, Option.map_some, hcontent]
  · rw [h.kept other hdirectory hother]

theorem Entered.entriesOf (h : Entered files later directory entry id) (hother : other ≠ id) :
    later.entriesOf other =
      if other = directory then files.entriesOf other ++ [(entry, id)] else files.entriesOf other := by
  unfold Files.entriesOf
  by_cases hdirectory : other = directory
  · obtain ⟨node, parent, entries, time, hnode, hcontent, hlater⟩ := h.entered
    rw [hdirectory, if_pos rfl, hnode, hlater, Option.map_some, Option.map_some, hcontent]
  · rw [if_neg hdirectory, h.kept other hdirectory hother]

/-- No path goes on from a regular file. -/
theorem turn_of_bytesOf? {bytes : Bytes} (h : files.bytesOf? id = some bytes) :
    files.turn creating follow id name rest = .stop (.error .notDirectory) := by
  obtain ⟨node, hnode, hregular⟩ := Option.bind_eq_some_iff.mp h
  unfold Files.turn
  rw [hnode]
  dsimp only
  rw [isDirectory_of_bytes? hregular]
  rfl

/-- What a name stands for, once the new entry is there. -/
theorem Entered.lookup (h : Entered files later directory entry id) (hhere : here ≠ id) :
    (later.entriesOf here).lookup name = ((files.entriesOf here).lookup name).or
      (if here = directory ∧ name = entry then some id else none) := by
  rw [h.entriesOf hhere]
  by_cases hdirectory : here = directory
  · by_cases hname : name = entry
    · simp [hdirectory, hname, List.lookup_append]
    · simp [hdirectory, hname, List.lookup_append, List.lookup_cons, beq_false_of_ne hname]
  · simp [hdirectory]

/-- Where something new has been entered, a name comes to what it came to, unless it is the new one:
that ends a path at the new file, and a path that goes on from there went nowhere before. -/
inductive Entered.Turned (directory : NodeId) (entry : Bytes) (id : NodeId) (rest : List Bytes) :
    Turn → Turn → Prop
  | same {turn : Turn} : turn ≠ .stop (.ok ⟨directory, entry, none⟩) →
      Entered.Turned directory entry id rest turn turn
  | made : Entered.Turned directory entry id rest (.stop (.ok ⟨directory, entry, none⟩))
      (.stop (.ok ⟨directory, entry, some id⟩))
  | beyond {errno : Errno} : rest ≠ [] →
      Entered.Turned directory entry id rest (.stop (.error errno)) (.down id)

theorem Entered.look (h : Entered files later directory entry id) (hhere : here ≠ id) :
    Entered.Turned directory entry id rest (files.look follow here name rest)
      (later.look follow here name rest) := by
  have hlink : later.linkAt? id = none := by
    rw [h.linkAt?]
    unfold Files.linkAt?
    rw [h.fresh]
    rfl
  unfold Files.look
  rw [h.lookup hhere]
  cases hold : (files.entriesOf here).lookup name with
  | some found =>
      rw [Option.some_or]
      dsimp only
      rw [h.linkAt?]
      refine .same ?_
      split <;> split_ifs <;> simp
  | none =>
      rw [Option.none_or]
      by_cases hnew : here = directory ∧ name = entry
      · rw [if_pos hnew, hnew.1, hnew.2]
        dsimp only
        rw [hlink]
        cases rest with
        | nil => exact .made
        | cons next rest => exact .beyond (List.cons_ne_nil _ _)
      · rw [if_neg hnew]
        refine .same fun heq => hnew ?_
        have hstop := Turn.stop.inj heq
        split at hstop
        · cases hstop
          exact ⟨rfl, rfl⟩
        · exact absurd hstop (by simp)

theorem Entered.turn (h : Entered files later directory entry id) :
    Entered.Turned directory entry id rest (files.turn creating follow here name rest)
      (later.turn creating follow here name rest) := by
  by_cases hhere : here = id
  · -- what was no node is a regular file, and no path goes on from either
    have hbefore : files.turn creating follow id name rest = .stop (.error .notDirectory) := by
      unfold Files.turn
      rw [h.fresh]
    rw [hhere, hbefore, turn_of_bytesOf? h.regular]
    exact .same (by simp)
  have hlook : Entered.Turned directory entry id rest (files.look follow here name rest)
      (later.look follow here name rest) := h.look hhere
  have hnode : ∀ node, files.node? here = some node → ∃ grown, later.node? here = some grown ∧
      grown.isDirectory = node.isDirectory ∧
      ∀ bit, later.permits grown bit = files.permits node bit := by
    intro node hnode
    by_cases hdirectory : here = directory
    · obtain ⟨found, parent, entries, time, hfound, hcontent, hlater⟩ := h.entered
      rw [hdirectory, hfound] at hnode
      cases hnode
      refine ⟨_, (congrArg later.node? hdirectory).trans hlater, ?_, ?_⟩
      · unfold Node.isDirectory
        rw [hcontent]
      · exact fun bit => h.permits
    · exact ⟨node, (h.kept here hdirectory hhere).trans hnode, rfl, fun bit => h.permits⟩
  have hnone : files.node? here = none → later.node? here = none := by
    intro hnone
    rw [h.kept here _ hhere, hnone]
    rintro rfl
    obtain ⟨found, -, -, -, hfound, -, -⟩ := h.entered
    exact absurd (hnone.symm.trans hfound) (by simp)
  unfold Files.turn
  cases hfound : files.node? here with
  | none =>
      rw [hnone hfound]
      exact .same (by simp)
  | some node =>
      obtain ⟨grown, hgrown, hkind, hpermits⟩ := hnode node hfound
      rw [hgrown]
      dsimp only
      rw [hkind, hpermits, h.parentOf hhere]
      split_ifs
      all_goals first
        | exact hlook
        | exact .same (by simp)

/-- Where something new has been entered, a path leads where it led, or to the new file if it led to
the free name; a path that led nowhere may come to something else that is nowhere. -/
inductive Entered.Resolved (directory : NodeId) (entry : Bytes) (id : NodeId) :
    Except Errno Place → Except Errno Place → Prop
  | same {result : Except Errno Place} : result ≠ .ok ⟨directory, entry, none⟩ →
      Entered.Resolved directory entry id result result
  | made : Entered.Resolved directory entry id (.ok ⟨directory, entry, none⟩)
      (.ok ⟨directory, entry, some id⟩)
  | nowhere {errno other : Errno} : Entered.Resolved directory entry id (.error errno) (.error other)

theorem Entered.resolved (h : Entered files later directory entry id) :
    Entered.Resolved directory entry id (files.resolve creating follow budget here names)
      (later.resolve creating follow budget here names) := by
  induction budget using Nat.strongRecOn generalizing here names with
  | ind budget hbudget =>
      induction names generalizing here with
      | nil =>
          rw [resolve_nil, resolve_nil]
          exact .same (by simp)
      | cons name rest ih =>
          have hturned : Entered.Turned directory entry id rest
              (files.turn creating follow here name rest)
              (later.turn creating follow here name rest) := h.turn
          rw [resolve_cons, resolve_cons]
          generalize files.turn creating follow here name rest = first at hturned ⊢
          generalize later.turn creating follow here name rest = second at hturned ⊢
          cases hturned with
          | made => exact .made
          | beyond hrest =>
              -- the new file is no directory
              obtain ⟨next, behind, rfl⟩ := List.exists_cons_of_ne_nil hrest
              dsimp only
              rw [resolve_cons, turn_of_bytesOf? h.regular]
              exact .nowhere
          | same hne =>
              cases first with
              | stop result => exact .same fun heq => hne (congrArg Turn.stop heq)
              | down other => exact ih
              | through target =>
                  cases budget with
                  | zero => exact .same (by simp)
                  | succ budget => exact hbudget budget (Nat.lt_succ_self budget)

/-- A path that led to the free name leads to the new file. -/
theorem Entered.resolve (h : Entered files later directory entry id)
    (hfree : files.resolve creating follow budget here names = .ok ⟨directory, entry, none⟩) :
    later.resolve creating follow budget here names = .ok ⟨directory, entry, some id⟩ := by
  have hresolved : Entered.Resolved directory entry id
      (files.resolve creating follow budget here names)
      (later.resolve creating follow budget here names) := h.resolved
  rw [hfree] at hresolved
  generalize later.resolve creating follow budget here names = result at hresolved ⊢
  cases hresolved with
  | same hne => exact absurd rfl hne
  | made => rfl

end Entered

/-! ## Opening -/

/-- A path leads to a node, also when it may end in something new. -/
def Leads (files : Files) (here : NodeId) (path : Bytes) (id : NodeId) : Prop :=
  ∃ place, files.locate here path true true = .ok place ∧ place.node? = some id

theorem Leads.alike (h : Leads files here path id) (halike : Alike files later) :
    Leads later here path id := by
  obtain ⟨place, hplace, hid⟩ := h
  exact ⟨place, halike.locate.trans hplace, hid⟩

theorem locate_of_creating {place : Place} (h : files.locate here path follow true = .ok place) :
    files.locate here path follow = .ok place := by
  unfold locate at h ⊢
  split_ifs at h ⊢
  exact resolve_of_creating h

/-- What the path of an opened file leads to is found. -/
theorem Leads.find (h : Leads files here path id) : files.find here path = .ok id := by
  obtain ⟨place, hplace, hid⟩ := h
  unfold Files.find
  rw [locate_of_creating hplace]
  simp [bind, Except.bind, hid, pure, Except.pure]

theorem Entered.locate {place : Place} (h : Entered files later place.directory place.name id)
    (hplace : files.locate here path true true = .ok place) (hfree : place.node? = none) :
    Leads later here path id := by
  obtain ⟨directory, entry, found⟩ := place
  obtain rfl : found = none := hfree
  refine ⟨⟨directory, entry, some id⟩, ?_, rfl⟩
  unfold Files.locate at hplace ⊢
  split_ifs at hplace ⊢
  exact h.resolve hplace

/-- A free name that a path ends with stands in a directory. -/
theorem isDirectory_of_resolve {place : Place}
    (h : files.resolve creating follow budget here names = .ok place) (hfree : place.node? = none) :
    (files.node? place.directory).any Node.isDirectory = true := by
  refine @resolve_related files files creating follow budget here names creating
    (fun a _ => ∀ place, a = .ok place → place.node? = none →
      (files.node? place.directory).any Node.isDirectory = true)
    (fun _ h => absurd h (by simp)) (fun here place h hfree => ?_) (fun here name rest => ?_)
    place h hfree
  · cases h
    exact absurd hfree (by simp)
  · cases hturn : files.turn creating follow here name rest with
    | stop result =>
        refine .inl fun b place heq hfree => ?_
        obtain ⟨directory, entry, found⟩ := place
        obtain rfl : found = none := hfree
        rw [heq] at hturn
        obtain ⟨rfl, hdirectory⟩ := turn_stop_none hturn
        exact hdirectory
    | down id => rfl
    | through target => rfl

/-- A name stands behind the entries that its directory had. -/
theorem enterNode_of_directory {place : Place} {directory : Node} {parent : NodeId}
    {entries : List (Bytes × NodeId)} (hfound : files.node? place.directory = some directory)
    (hcontent : directory.content = .directory parent entries) :
    files.enterNode place id = files.put place.directory { directory with
      content := .directory parent (entries ++ [(place.name, id)])
      changed := files.time } := by
  have hentries : files.entriesOf place.directory = entries := by
    unfold entriesOf
    rw [hfound, Option.map_some, hcontent]
  have hparent : files.parentOf place.directory = parent := by
    unfold parentOf
    rw [hfound, Option.map_some, hcontent]
  unfold enterNode setEntries
  rw [hentries, hparent, hfound]
  exact if_pos (isDirectory_iff.mpr ⟨parent, entries, hcontent⟩)

/-- A new file is entered under the free name. -/
theorem entered_of_enter {place : Place} {node : Node} (h : files.enter place node = .ok (id, later))
    (hnode : node.content = .regular [])
    (hdirectory : (files.node? place.directory).any Node.isDirectory = true) :
    Entered files later place.directory place.name id := by
  unfold enter at h
  obtain ⟨-, -, h⟩ := exists_of_bind h
  simp only [pure, Except.pure, Except.ok.injEq, Prod.mk.injEq] at h
  obtain ⟨hid, hlater⟩ := h
  obtain ⟨directory, hfound, hkind⟩ := (Option.any_eq_true _ _).mp hdirectory
  obtain ⟨parent, entries, hcontent⟩ := isDirectory_iff.mp hkind
  -- the new node stands behind all others, so the directory is another one
  have hlt : place.directory < files.nodes.length := (List.getElem?_eq_some_iff.mp hfound).1
  have hidlen : id = files.nodes.length := hid.symm
  have hgrown : ∀ other, (files.add { node with changed := files.time }).2.node? other =
      if other = files.nodes.length then some { node with changed := files.time }
      else files.node? other := fun other => node?_add
  have hthere := (hgrown place.directory).trans ((if_neg (Nat.ne_of_lt hlt)).trans hfound)
  rw [hid, enterNode_of_directory hthere hcontent] at hlater
  have hnode? : ∀ other, later.node? other = if other = place.directory then
      some { directory with
        content := .directory parent (entries ++ [(place.name, id)])
        changed := files.time }
      else if other = files.nodes.length then some { node with changed := files.time }
      else files.node? other := by
    intro other
    rw [← hlater, node?_put (by rw [hthere]; rfl), hgrown]
    rfl
  refine ⟨?_, ?_, ?_, ?_, directory, parent, entries, files.time, hfound, hcontent, ?_⟩
  · rw [← hlater]
    rfl
  · rw [hidlen]
    exact List.getElem?_eq_none (Nat.le_refl _)
  · rw [bytesOf?_eq_some, hnode?, hidlen, if_neg (Nat.ne_of_gt hlt), if_pos rfl,
      Option.map_some, hnode]
  · intro other hother hne
    rw [hnode?, if_neg hother, if_neg (hidlen ▸ hne)]
  · rw [hnode?, if_pos rfl]

section Opening

variable {access : Access} {mask : Nat} {old : Bytes}

/-- The store in which a file has been opened. -/
def afterOpening (files : Files) (access : Access) (id : NodeId) : Files :=
  if access.truncate then files.setBytes id [] else files

/-- A path that leads to a file is opened as that file. -/
theorem openPath_of_leads (hcreate : access.create = true) (hexclusive : access.exclusive = false)
    (hleads : Leads files here path id) {other : NodeId}
    (h : files.openPath here path access mask = .ok (other, later)) :
    other = id ∧ later = files.afterOpening access id := by
  obtain ⟨place, hplace, hid⟩ := hleads
  unfold openPath at h
  simp only [hcreate, hexclusive, Bool.not_false, hplace, bind, Except.bind, hid] at h
  split at h
  · exact absurd h (by simp [throw, throwThe, MonadExceptOf.throw])
  · split_ifs at h with hthere hkind hread hwrite htruncate
    case pos =>
      cases h
      exact ⟨rfl, (if_pos htruncate).symm⟩
    case neg =>
      cases h
      exact ⟨rfl, (if_neg htruncate).symm⟩

/-- A path that has been opened leads to what was opened: to what it led to before, or to a new
file. -/
theorem openPath_leads (hcreate : access.create = true) (hexclusive : access.exclusive = false)
    (h : files.openPath here path access mask = .ok (id, later)) :
    Leads files here path id ∧ later = files.afterOpening access id ∨
      files.find here path = .error .noEntry ∧ Leads later here path id ∧
        ∃ directory entry, Entered files later directory entry id := by
  have hopen := h
  unfold openPath at h
  simp only [hcreate, hexclusive, Bool.not_false] at h
  obtain ⟨place, hplace, h⟩ := exists_of_bind h
  cases hid : place.node? with
  | some found =>
      obtain ⟨rfl, hlater⟩ := openPath_of_leads hcreate hexclusive ⟨place, hplace, hid⟩ hopen
      exact .inl ⟨⟨place, hplace, hid⟩, hlater⟩
  | none =>
      simp only [hid, if_true] at h
      have hdirectory : (files.node? place.directory).any Node.isDirectory = true := by
        unfold locate at hplace
        split_ifs at hplace
        exact isDirectory_of_resolve hplace hid
      have hentered := entered_of_enter h rfl hdirectory
      refine .inr ⟨?_, hentered.locate hplace hid, place.directory, place.name, hentered⟩
      unfold Files.find
      rw [locate_of_creating hplace]
      simp [bind, Except.bind, hid, throw, throwThe, MonadExceptOf.throw]

/-- Opening a path changes no node but the one that is opened, and a directory. -/
theorem node?_of_openPath (hcreate : access.create = true) (hexclusive : access.exclusive = false)
    (h : files.openPath here path access mask = .ok (id, later)) {other : NodeId}
    (hother : other ≠ id)
    (hkind : ∀ parent entries,
      (files.node? other).map Node.content ≠ some (.directory parent entries)) :
    later.node? other = files.node? other := by
  rcases openPath_leads hcreate hexclusive h with ⟨-, rfl⟩ | ⟨-, -, directory, entry, hentered⟩
  · unfold afterOpening
    split
    · exact node?_setBytes (Ne.symm hother)
    · rfl
  · refine hentered.kept other ?_ hother
    rintro rfl
    obtain ⟨node, parent, entries, time, hnode, hcontent, -⟩ := hentered.entered
    exact hkind parent entries (by rw [hnode, Option.map_some, hcontent])

theorem alike_afterOpening : Alike files (files.afterOpening access id) := by
  unfold afterOpening
  split
  · exact alike_setBytes
  · exact .refl

/-- A file that is opened to be emptied holds nothing, and others what they held. -/
theorem bytesOf?_afterOpening (h : files.bytesOf? id = some old) :
    (files.afterOpening access id).bytesOf? id = some (if access.truncate then [] else old) := by
  unfold afterOpening
  split
  · rw [bytesOf?_setBytes h, if_pos rfl]
  · exact h

end Opening

/-- What a path holds: the bytes of the file that it leads to, or nothing. -/
def contentOf (files : Files) (here : NodeId) (path : Bytes) : Bytes :=
  match files.find here path with
  | .ok id => files.bytesAt id
  | .error _ => []

theorem Leads.contentOf (h : Leads files here path id) : files.contentOf here path = files.bytesAt id := by
  unfold Files.contentOf
  rw [h.find]

end Files

end LineShell
