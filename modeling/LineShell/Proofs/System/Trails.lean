import LineShell.Proofs.System.Upkeep

/-!
# The one path of a directory

A path through names of entries alone, without a link or a point among them, is the path that the
system gives of what it leads to.

* **`walk_of_trail`**, **`trail_of_walk`** — the names found on the way up from a directory are
  those that lead down to it;
* **`Spells`** — what such a path leads to (`spells_of_pathOf`, `Spells.pathOf`,
  `spells_of_canonical`), for as long as its names stay (`Spells.stays`, `Spells.upkeep`);
* **`Spells.canonical_join`** — a relative path below it leads where it leads from the directory.
-/

namespace LineShell

namespace Files

variable {files later : Files} {creating follow : Bool} {budget : Nat} {here id other : NodeId}
  {names rest front back : List Bytes} {name path record : Bytes} {place : Place}

/-! ## Walks -/

/-- Where names lead through entries alone. -/
def walk (files : Files) : NodeId → List Bytes → Option NodeId
  | id, [] => some id
  | id, name :: rest =>
      ((files.entriesOf id).lookup name).bind fun next => files.walk next rest

theorem walk_cons_iff : files.walk here (name :: rest) = some id ↔
    ∃ next, (files.entriesOf here).lookup name = some next ∧ files.walk next rest = some id :=
  Option.bind_eq_some_iff

theorem walk_append : files.walk here (front ++ back) =
    (files.walk here front).bind fun next => files.walk next back := by
  induction front generalizing here with
  | nil => rfl
  | cons name front ih =>
      show ((files.entriesOf here).lookup name).bind _ = Option.bind (Option.bind _ _) _
      rw [Option.bind_assoc]
      congr 1
      funext next
      exact ih

theorem walk_concat_iff : files.walk here (front ++ [name]) = some id ↔
    ∃ next, files.walk here front = some next ∧ (files.entriesOf next).lookup name = some id := by
  rw [walk_append, Option.bind_eq_some_iff]
  refine exists_congr fun next => and_congr_right fun _ => ?_
  rw [walk_cons_iff]
  simp [walk]

theorem isFolder_of_lookup (h : (files.entriesOf here).lookup name = some id) :
    files.IsFolder here := isFolder_of_mem (mem_of_lookup h)

theorem isFolder_of_walk (hnames : names ≠ []) (h : files.walk here names = some id) :
    files.IsFolder here := by
  cases names with
  | nil => exact absurd rfl hnames
  | cons name rest =>
      obtain ⟨next, hlookup, -⟩ := walk_cons_iff.mp h
      exact isFolder_of_lookup hlookup

/-- What is listed on the way is listed still. -/
theorem walk_of_lists {listed : NodeId → Prop} (hlists : Lists files later listed)
    (hlisted : ∀ id, files.IsFolder id → listed id) (hlast : listed id)
    (h : files.walk here names = some id) : later.walk here names = some id := by
  induction names generalizing here with
  | nil => exact h
  | cons name rest ih =>
      obtain ⟨next, hlookup, hrest⟩ := walk_cons_iff.mp h
      have hnext : listed next := by
        by_cases hnil : rest = []
        · subst hnil
          cases hrest
          exact hlast
        · exact hlisted next (isFolder_of_walk hnil hrest)
      exact walk_cons_iff.mpr ⟨next, hlists here name next hlookup hnext, ih hrest⟩

theorem there_of_walk (htidy : Tidy files) (hhere : files.IsFolder here)
    (h : files.walk here names = some id) : (files.frameAt id).isSome = true := by
  rcases List.eq_nil_or_concat' names with rfl | ⟨front, name, rfl⟩
  · cases h
    exact hhere.there
  · obtain ⟨next, -, hlookup⟩ := walk_concat_iff.mp h
    exact htidy.there next _ (mem_of_lookup hlookup)

/-! ## Trails -/

theorem trail?_root (steps : Nat) : files.trail? steps root = some [] := by
  cases steps <;> rfl

theorem trail?_succ {steps : Nat} (h : id ≠ root) : files.trail? (steps + 1) id =
    (files.nameIn? (files.parentOf id) id).bind fun name =>
      (files.trail? steps (files.parentOf id)).bind fun names => some (names ++ [name]) := by
  have hne : (id == root) = false := beq_false_of_ne h
  rw [trail?, hne]
  rfl

/-- The names on the way up from a directory lead down to it. -/
theorem walk_of_trail (htidy : Tidy files) {steps : Nat}
    (h : files.trail? steps id = some names) :
    files.walk root names = some id ∧ (∀ name ∈ names, Proper name) ∧ names.length ≤ steps := by
  -- each step upwards finds the name that comes last on the way down
  induction steps generalizing id names with
  | zero =>
      unfold trail? at h
      split at h
      · rename_i hroot
        cases h
        rw [eq_of_beq hroot]
        exact ⟨rfl, fun name hname => absurd hname List.not_mem_nil, Nat.le_refl _⟩
      · cases h
  | succ steps ih =>
      by_cases hroot : id = root
      · rw [hroot, trail?_root] at h
        cases h
        rw [hroot]
        exact ⟨rfl, fun name hname => absurd hname List.not_mem_nil, Nat.zero_le _⟩
      · rw [trail?_succ hroot] at h
        obtain ⟨name, hname, h⟩ := Option.bind_eq_some_iff.mp h
        obtain ⟨front, hfront, h⟩ := Option.bind_eq_some_iff.mp h
        cases h
        obtain ⟨hwalk, hproper, hlength⟩ := ih hfront
        obtain ⟨entry, hentry, rfl⟩ := Option.map_eq_some_iff.mp hname
        have hmem := List.mem_of_find?_eq_some hentry
        have hfound := List.find?_some hentry
        have hid : entry.2 = id := by simpa using hfound
        refine ⟨walk_concat_iff.mpr ⟨_, hwalk, ?_⟩, fun name hname => ?_, ?_⟩
        · exact lookup_of_mem (htidy.distinct _) (hid ▸ hmem)
        · rcases List.mem_append.mp hname with hname | hname
          · exact hproper name hname
          · rw [List.mem_singleton.mp hname]
            exact htidy.proper _ entry hmem
        · rw [List.length_append, List.length_singleton]
          exact Nat.succ_le_succ hlength

/-- The names that lead down to a directory are found on the way up from it. -/
theorem trail_of_walk (htidy : Tidy files) (h : files.walk root names = some id)
    (hid : files.IsFolder id) {steps : Nat} (hsteps : names.length ≤ steps) :
    files.trail? steps id = some names := by
  -- the way up takes the last name first, and its parent is the one directory that lists it
  induction names using List.reverseRecOn generalizing id steps with
  | nil =>
      cases h
      exact trail?_root steps
  | append_singleton front name ih =>
      obtain ⟨parent, hwalk, hlookup⟩ := walk_concat_iff.mp h
      have hmem := mem_of_lookup hlookup
      obtain ⟨hparent, hroot⟩ := htidy.held parent _ hmem hid
      have hparent : files.parentOf id = parent := hparent
      rw [List.length_append, List.length_singleton] at hsteps
      cases steps with
      | zero => exact absurd hsteps (Nat.not_succ_le_zero _)
      | succ steps =>
          have hname : files.nameIn? parent id = some name := by
            unfold nameIn?
            cases hfound : (files.entriesOf parent).find? fun entry => entry.2 == id with
            | none =>
                have hnone := List.find?_eq_none.mp hfound _ hmem
                exact absurd (beq_self_eq_true id) hnone
            | some entry =>
                have hsuits := List.find?_some hfound
                have hsame : entry.2 = id := by simpa using hsuits
                have hentry := htidy.once parent entry (List.mem_of_find?_eq_some hfound) _ hmem
                  hsame (hsame.symm ▸ hid)
                rw [hentry, Option.map_some]
          rw [trail?_succ hroot, hparent, hname, Option.bind_some,
            ih hwalk (isFolder_of_lookup hlookup) (Nat.le_of_succ_le_succ hsteps), Option.bind_some]

/-! ## Paths without links -/

/-- The path leads to the node through proper names of entries alone. -/
def Spells (files : Files) (path : Bytes) (id : NodeId) : Prop :=
  ∃ names, path = Path.absoluteOf names ∧ (∀ name ∈ names, Proper name) ∧
    files.walk root names = some id ∧ (files.IsFolder id → names.length ≤ files.nodes.length)

theorem plain_of_proper (h : ∀ name ∈ names, Proper name) : ∀ name ∈ names, Path.Plain name :=
  fun name hname => (h name hname).toPlain

theorem spells_of_pathOf (htidy : Tidy files) (h : files.pathOf id = .ok path) :
    Spells files path id := by
  unfold pathOf at h
  split at h
  · rename_i names hnames
    cases h
    obtain ⟨hwalk, hproper, hlength⟩ := walk_of_trail htidy hnames
    exact ⟨names, rfl, hproper, hwalk, fun _ => hlength⟩
  · cases h

/-- The system gives the same path of a directory. -/
theorem Spells.pathOf (htidy : Tidy files) (h : Spells files path id) (hid : files.IsFolder id) :
    files.pathOf id = .ok path := by
  obtain ⟨names, rfl, -, hwalk, hlength⟩ := h
  unfold Files.pathOf
  rw [trail_of_walk htidy hwalk hid (hlength hid)]

theorem Spells.there (htidy : Tidy files) (h : Spells files path id) :
    (files.frameAt id).isSome = true := by
  obtain ⟨names, -, -, hwalk, -⟩ := h
  exact there_of_walk htidy htidy.root hwalk

/-- What the names on a path lead to through entries alone they lead to later. -/
def Stays (files later : Files) (path : Bytes) : Prop :=
  ∀ id, files.walk root (Path.parse path).names = some id →
    later.walk root (Path.parse path).names = some id

/-- A path leads where it led for as long as its names stay. -/
theorem Spells.stays (htidy : Tidy files) (h : Spells files path id) (hlasts : Lasts files later)
    (hstays : Stays files later path) : Spells later path id := by
  have hthere := h.there htidy
  obtain ⟨names, rfl, hproper, hwalk, hlength⟩ := h
  have hnames : (Path.parse (Path.absoluteOf names)).names = names := by
    rw [Path.parse_absoluteOf (plain_of_proper hproper)]
  refine ⟨names, rfl, hproper, ?_, fun hid => ?_⟩
  · have hlater := hstays id
    rw [hnames] at hlater
    exact hlater hwalk
  · exact Nat.le_trans (hlength ((hlasts.folder id hthere).mp hid)) hlasts.length

theorem stays_of_lists {listed : NodeId → Prop} (hlists : Lists files later listed)
    (hlisted : ∀ id, files.IsFolder id → listed id) (h : Spells files path id) (hid : listed id) :
    Stays files later path := by
  obtain ⟨names, rfl, hproper, hwalk, -⟩ := h
  intro other hother
  rw [Path.parse_absoluteOf (plain_of_proper hproper)] at hother ⊢
  cases hwalk.symm.trans hother
  exact walk_of_lists hlists hlisted hid hother

theorem Spells.level (htidy : Tidy files) (h : Spells files path id)
    (hlevel : Level files later) : Spells later path id := by
  have hlists : Lists files later fun _ => True := hlevel.lists
  exact h.stays htidy hlevel.lasts (stays_of_lists hlists (fun _ _ => trivial) h trivial)

/-! ## Following such a path -/

/-- The node is a directory that may be searched. -/
def Searchable (files : Files) (id : NodeId) : Prop :=
  ∃ node, files.node? id = some node ∧ node.isDirectory = true ∧
    files.permits node searchBit = true

theorem searchable_of_turn
    (h : ∀ errno, files.turn creating follow here name rest ≠ .stop (.error errno)) :
    files.Searchable here := by
  unfold Searchable
  unfold turn at h
  cases hnode : files.node? here with
  | none => exact absurd (by rw [hnode]) (h .notDirectory)
  | some node =>
      rw [hnode] at h
      dsimp only at h
      by_cases hdirectory : node.isDirectory = true
      · refine ⟨node, rfl, hdirectory, ?_⟩
        by_contra hsearch
        refine h .accessDenied ?_
        rw [if_neg (by simpa using hdirectory), if_pos (by simpa using hsearch)]
      · exact absurd (if_pos (by simpa using hdirectory)) (h .notDirectory)

/-- What the name of an entry comes to that is no link. -/
theorem turn_of_lookup (hsearch : files.Searchable here) (hproper : Proper name)
    (hlookup : (files.entriesOf here).lookup name = some id) (hlink : files.linkAt? id = none) :
    files.turn creating follow here name rest =
      if creating && rest == [[]] then .stop (.error .isDirectory)
      else if rest.isEmpty then .stop (.ok ⟨here, name, some id⟩) else .down id := by
  obtain ⟨node, hnode, hdirectory, hpermits⟩ := hsearch
  have hpoint : (name == [] || name == Path.here) = false := by
    rw [beq_false_of_ne hproper.filled, beq_false_of_ne hproper.notHere, Bool.or_false]
  unfold turn look
  rw [hnode]
  dsimp only
  rw [hdirectory, hpermits, Bool.not_true, if_neg Bool.false_ne_true, if_neg Bool.false_ne_true,
    if_neg (Nat.not_lt_of_le hproper.short), hpoint, if_neg Bool.false_ne_true,
    beq_false_of_ne hproper.notUp, if_neg Bool.false_ne_true, hlookup]
  dsimp only
  rw [hlink]

/-- A path that succeeds goes on from an entry that is no link, or ends there. -/
theorem resolve_of_lookup (hproper : Proper name)
    (hlookup : (files.entriesOf here).lookup name = some id) (hlink : files.linkAt? id = none)
    (h : files.resolve creating follow budget here (name :: rest) = .ok place) :
    files.Searchable here ∧
      (rest = [] → place = ⟨here, name, some id⟩) ∧
      (rest ≠ [] → files.resolve creating follow budget id rest = .ok place) := by
  rw [resolve_cons] at h
  have hsearch : files.Searchable here := searchable_of_turn fun errno herror => by
    rw [herror] at h
    cases h
  rw [turn_of_lookup hsearch hproper hlookup hlink] at h
  refine ⟨hsearch, ?_, fun hrest => ?_⟩
  · rintro rfl
    cases creating <;> cases h <;> rfl
  · have hmore : ¬rest.isEmpty = true := by simpa using hrest
    rw [if_neg hmore] at h
    split at h
    · rename_i hclosed
      split at hclosed <;> cases hclosed
      cases h
    · rename_i hdown
      split at hdown <;> cases hdown
      exact h
    · rename_i hthrough
      split at hthrough <;> cases hthrough

/-- A path that succeeds goes on from where its first names lead. -/
theorem resolve_of_walk (hproper : ∀ name ∈ names, Proper name)
    (hwalk : files.walk here names = some id) (hid : files.IsFolder id) (hrest : rest ≠ [])
    (h : files.resolve creating follow budget here (names ++ rest) = .ok place) :
    files.resolve creating follow budget id rest = .ok place := by
  -- no name on the way is a link, so none of them uses the budget up
  induction names generalizing here with
  | nil =>
      cases hwalk
      exact h
  | cons name names ih =>
      obtain ⟨next, hlookup, hwalk⟩ := walk_cons_iff.mp hwalk
      have hnext : files.IsFolder next := by
        by_cases hnil : names = []
        · subst hnil
          cases hwalk
          exact hid
        · exact isFolder_of_walk hnil hwalk
      have hmore : names ++ rest ≠ [] := fun hnil => hrest (List.append_eq_nil_iff.mp hnil).2
      obtain ⟨-, -, hdown⟩ :=
        resolve_of_lookup (hproper name List.mem_cons_self) hlookup hnext.linkAt? h
      exact ih (fun name hname => hproper name (List.mem_cons_of_mem _ hname)) hwalk (hdown hmore)

/-- A path that succeeds ends where its names lead. -/
theorem node?_of_walk (hproper : ∀ name ∈ names, Proper name)
    (hwalk : files.walk here names = some id) (hlink : files.linkAt? id = none)
    (h : files.resolve creating follow budget here names = .ok place) : place.node? = some id := by
  rcases List.eq_nil_or_concat' names with rfl | ⟨front, name, rfl⟩
  · rw [resolve_nil] at h
    cases hwalk
    cases h
    rfl
  · obtain ⟨next, hfront, hlookup⟩ := walk_concat_iff.mp hwalk
    have hlast := resolve_of_walk (fun name hname => hproper name (List.mem_append_left _ hname))
      hfront (isFolder_of_lookup hlookup) (List.cons_ne_nil _ _) h
    obtain ⟨-, hplace, -⟩ := resolve_of_lookup
      (hproper name (List.mem_append_right _ List.mem_cons_self)) hlookup hlink hlast
    rw [hplace rfl]

/-- What is found under an absolute path, its names lead to from the root. -/
theorem exists_resolve_of_find (hproper : ∀ name ∈ names, Proper name)
    (hfound : files.find here (Path.absoluteOf names) follow = .ok id) :
    ∃ place, files.resolve false follow linkBudget root names = .ok place ∧
      place.node? = some id := by
  unfold Files.find at hfound
  obtain ⟨place, hplace, hfound⟩ := exists_of_bind hfound
  unfold locate at hplace
  rw [Path.parse_absoluteOf (plain_of_proper hproper)] at hplace
  split_ifs at hplace
  refine ⟨place, hplace, ?_⟩
  split at hfound <;> cases hfound
  assumption

/-- What can be found under such a path is what it leads to. -/
theorem Spells.find (h : Spells files path id) (hlink : files.linkAt? id = none)
    (hfound : files.find here path follow = .ok other) : other = id := by
  obtain ⟨names, rfl, hproper, hwalk, -⟩ := h
  obtain ⟨place, hplace, hother⟩ := exists_resolve_of_find hproper hfound
  exact Option.some.inj (hother.symm.trans (node?_of_walk hproper hwalk hlink hplace))

/-- A directory that can be found under such a path is what it leads to. -/
theorem Spells.findDirectory (h : Spells files path id) (hlink : files.linkAt? id = none)
    (hfound : files.findDirectory here path = .ok other) : other = id ∧ files.IsFolder id := by
  unfold Files.findDirectory at hfound
  obtain ⟨found, hfind, hfound⟩ := exists_of_bind hfound
  obtain rfl := h.find hlink hfind
  split at hfound
  · rename_i node hnode
    split_ifs at hfound with hkind
    · cases hfound
      refine ⟨rfl, ?_⟩
      unfold IsFolder
      rw [hnode]
      simpa using hkind
  · cases hfound

theorem join_absoluteOf (hnames : ∀ name ∈ names, Path.Plain name) (hname : Path.Plain name) :
    Path.join (Path.absoluteOf names) name = Path.absoluteOf (names ++ [name]) := by
  have hrelative : ¬(name.head? == some Path.slash) = true := by
    intro heq
    exact hname.unslashed (List.mem_of_head? (eq_of_beq heq))
  have hlong : Path.absoluteOf (names ++ [name]) =
      (names.flatMap fun name => Path.slash :: name) ++ Path.slash :: name := by
    unfold Path.absoluteOf
    rw [if_neg (by simp), List.flatMap_append, List.flatMap_singleton]
  unfold Path.join
  rw [if_neg hrelative, hlong]
  by_cases hnil : names = []
  · subst hnil
    rfl
  · rw [if_neg fun heq => hnil ((Path.getLast?_absoluteOf hnames).mp (eq_of_beq heq))]
    unfold Path.absoluteOf
    rw [if_neg (by simpa using hnil)]

/-- The path without links of what a path has led to. -/
def pathAt (files : Files) (place : Place) : Except Errno Bytes :=
  match place.node? with
  | none => .error .noEntry
  | some id =>
      if (files.node? id).any Node.isDirectory then files.pathOf id
      else (files.pathOf place.directory).map fun base => Path.join base place.name

theorem pathAt_of_folder (hplace : place.node? = some id) (hid : files.IsFolder id) :
    files.pathAt place = files.pathOf id := by
  unfold pathAt
  rw [hplace]
  exact if_pos hid

theorem canonical_eq (hfilled : path ≠ []) : files.canonical here path =
    (files.resolve false true linkBudget (if (Path.parse path).absolute then root else here)
      (Path.parse path).names).bind files.pathAt := by
  have hempty : ¬path.isEmpty = true := by simpa using hfilled
  unfold canonical
  rw [if_neg hempty]
  rfl

/-- The path without links that leads to where a path leads goes through names of entries alone. -/
theorem spells_of_canonical (htidy : Tidy files) (h : files.canonical here path = .ok record) :
    ∃ id, Spells files record id ∧ files.linkAt? id = none := by
  have hfilled : path ≠ [] := by
    rintro rfl
    cases h
  rw [canonical_eq hfilled] at h
  cases hplace : files.resolve false true linkBudget
      (if (Path.parse path).absolute then root else here) (Path.parse path).names with
  | error errno =>
      rw [hplace] at h
      cases h
  | ok place =>
      rw [hplace] at h
      replace h : files.pathAt place = .ok record := h
      obtain ⟨hsited, hunlinked⟩ := (followed_of_resolve hplace).sited htidy
        (fun name => Path.unslashed_of_mem_parse) fun hnil => by
          rw [Path.absolute_of_names_eq_nil hfilled hnil, if_pos rfl]
          exact htidy.root
      unfold pathAt at h
      split at h
      · cases h
      rename_i id hid
      have hlink := hunlinked rfl id hid
      split at h
      · exact ⟨id, spells_of_pathOf htidy h, hlink⟩
      rename_i hfile
      cases hbase : files.pathOf place.directory with
      | error errno =>
          rw [hbase] at h
          cases h
      | ok base =>
          rw [hbase] at h
          cases h
          -- what is no directory is the entry of one
          have hpoint : ¬(place.name = Path.here ∨ place.name = Path.up) := by
            rcases hsited with ⟨-, other, hother, hfolder⟩ | ⟨hproper, -, -⟩
            · cases hid.symm.trans hother
              exact absurd hfolder hfile
            · exact fun hor => hor.elim hproper.notHere hproper.notUp
          obtain ⟨hproper, -, hlookup⟩ := hsited.entry hid hpoint
          obtain ⟨names, rfl, hnames, hwalk, -⟩ := spells_of_pathOf htidy hbase
          refine ⟨id, ⟨names ++ [place.name], ?_, fun name hname => ?_, ?_, fun hyes => ?_⟩, hlink⟩
          · exact join_absoluteOf (plain_of_proper hnames) hproper.toPlain
          · rcases List.mem_append.mp hname with hname | hname
            · exact hnames name hname
            · exact (List.mem_singleton.mp hname).symm ▸ hproper
          · exact walk_concat_iff.mpr ⟨_, hwalk, hlookup⟩
          · exact absurd hyes hfile

/-- Such a path has no other path without links. -/
theorem Spells.canonical (htidy : Tidy files) (h : Spells files path id) (hid : files.IsFolder id)
    (hcanonical : files.canonical here path = .ok record) : record = path := by
  have hpath := h.pathOf htidy hid
  obtain ⟨names, rfl, hproper, hwalk, -⟩ := h
  have hfilled : Path.absoluteOf names ≠ [] := by
    intro hnil
    have hhead : (Path.absoluteOf names).head? = some Path.slash := Path.head?_absoluteOf
    rw [hnil] at hhead
    cases hhead
  rw [canonical_eq hfilled, Path.parse_absoluteOf (plain_of_proper hproper), if_pos rfl]
    at hcanonical
  cases hplace : files.resolve false true linkBudget root names with
  | error errno =>
      rw [hplace] at hcanonical
      cases hcanonical
  | ok place =>
      rw [hplace] at hcanonical
      replace hcanonical : files.pathAt place = .ok record := hcanonical
      rw [pathAt_of_folder (node?_of_walk hproper hwalk hid.linkAt? hplace) hid, hpath]
        at hcanonical
      exact (Except.ok.inj hcanonical).symm

/-! ## Relative paths -/

section Relative

variable (h : Spells files record id) (hid : files.IsFolder id) (hfilled : path ≠ [])
  (hrelative : path.head? ≠ some Path.slash)

include h hid hfilled hrelative

omit hid in
theorem canonical_join_eq : files.canonical other (Path.join record path) =
    (files.resolve false true linkBudget root
      (Path.parse (Path.join record path)).names).bind files.pathAt := by
  obtain ⟨names, rfl, hproper, -, -⟩ := h
  have hjoined : Path.join (Path.absoluteOf names) path ≠ [] := by
    intro hnil
    have hlength := Path.length_le_length_join (Path.absoluteOf names) path
    rw [hnil] at hlength
    exact hfilled (List.eq_nil_of_length_eq_zero (Nat.le_zero.mp hlength))
  rw [canonical_eq hjoined, Path.parse_join (plain_of_proper hproper) hfilled hrelative]
  rfl

/-- So does its path without links. -/
theorem Spells.canonical_join {result : Bytes}
    (hresult : files.canonical other (Path.join record path) = .ok result) :
    files.canonical id path = .ok result := by
  rw [canonical_join_eq h hfilled hrelative] at hresult
  obtain ⟨names, rfl, hproper, hwalk, -⟩ := h
  rw [Path.parse_join (plain_of_proper hproper) hfilled hrelative] at hresult
  rw [canonical_eq hfilled, Path.absolute_of_relative hrelative, if_neg Bool.false_ne_true]
  cases hplace : files.resolve false true linkBudget root (names ++ (Path.parse path).names) with
  | error errno =>
      rw [hplace] at hresult
      cases hresult
  | ok place =>
      rw [hplace] at hresult
      have hnames := Path.names_ne_nil_of_relative hfilled hrelative
      rw [resolve_of_walk hproper hwalk hid hnames hplace]
      exact hresult

end Relative

end Files

end LineShell
