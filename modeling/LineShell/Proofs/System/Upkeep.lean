import LineShell.Proofs.System.Trees

/-!
# What the changes of a store leave of its tree

* **`sited_of_locate`** — what the place is that a path leads to;
* **`Upkeep`** — a change keeps a tidy store tidy, nodes stay what they are, and so do the names of
  certain nodes;
* **one lemma for each change** — which names each of them may take;
* **`tidy_plant`** — a store that things are put into is tidy.
-/

namespace LineShell

namespace Files

variable {files later : Files} {creating follow : Bool} {budget : Nat} {here id other : NodeId}
  {names rest : List Bytes} {name path : Bytes} {place : Place}

/-! ## Places -/

/-- A path is followed to a place, through however many links. -/
inductive Followed (files : Files) (creating follow : Bool) : NodeId → List Bytes → Place → Prop
  | ended {base} : Followed files creating follow base [] ⟨base, Path.here, some base⟩
  | stop {base first others goal} :
      files.turn creating follow base first others = .stop (.ok goal) →
      Followed files creating follow base (first :: others) goal
  | down {base first others next goal} :
      files.turn creating follow base first others = .down next →
      Followed files creating follow next others goal →
      Followed files creating follow base (first :: others) goal
  | through {base first others target goal} :
      files.turn creating follow base first others = .through target →
      Followed files creating follow (if (Path.parse target).absolute then root else base)
        ((Path.parse target).names ++ others) goal →
      Followed files creating follow base (first :: others) goal

theorem followed_of_resolve (h : files.resolve creating follow budget here names = .ok place) :
    Followed files creating follow here names place := by
  -- the names get fewer, but for those of a link, which takes one from the budget
  induction budget using Nat.strongRecOn generalizing here names with
  | ind budget hbudget =>
      induction names generalizing here with
      | nil =>
          rw [resolve_nil] at h
          cases h
          exact .ended
      | cons name rest ih =>
          rw [resolve_cons] at h
          cases hturn : files.turn creating follow here name rest with
          | stop result =>
              rw [hturn] at h
              exact .stop (hturn.trans (congrArg Turn.stop h))
          | down id =>
              rw [hturn] at h
              exact .down hturn (ih h)
          | through target =>
              rw [hturn] at h
              cases budget with
              | zero => cases h
              | succ budget => exact .through hturn (hbudget budget (Nat.lt_succ_self budget) h)

/-- What a place is: a point, which stands for a directory, or a name of an entry, which may be
free. -/
def Sited (files : Files) (place : Place) : Prop :=
  (place.name = Path.here ∨ place.name = Path.up) ∧
      (∃ id, place.node? = some id ∧ files.IsFolder id) ∨
    Proper place.name ∧ files.IsFolder place.directory ∧
      (files.entriesOf place.directory).lookup place.name = place.node?

/-- No link is left at a place where links are to be followed. -/
def Unlinked (files : Files) (follow : Bool) (place : Place) : Prop :=
  follow = true → ∀ id, place.node? = some id → files.linkAt? id = none

theorem unlinked_of_isFolder (hid : place.node? = some id) (h : files.IsFolder id) :
    Unlinked files follow place := by
  intro _ other hother
  cases hid.symm.trans hother
  exact h.linkAt?

/-- What a name comes to in a directory. -/
theorem turn_cases (files : Files) (creating follow : Bool) (here : NodeId) (rest : List Bytes)
    (hslash : Path.slash ∉ name) :
    (∃ errno, files.turn creating follow here name rest = .stop (.error errno)) ∨
    files.IsFolder here ∧
      (((name = [] ∨ name = Path.here) ∧ files.turn creating follow here name rest =
          (if rest.isEmpty then .stop (.ok ⟨here, Path.here, some here⟩) else .down here)) ∨
        (name = Path.up ∧ files.turn creating follow here name rest =
          (if rest.isEmpty then
            .stop (.ok ⟨files.parentOf here, Path.up, some (files.parentOf here)⟩)
          else .down (files.parentOf here))) ∨
        (Proper name ∧
          files.turn creating follow here name rest = files.look follow here name rest)) := by
  unfold turn
  cases hnode : files.node? here with
  | none => exact .inl ⟨_, rfl⟩
  | some directory =>
      dsimp only
      -- the checks one after the other, in the order in which they are made
      by_cases hdirectory : directory.isDirectory = true
      swap
      · exact .inl ⟨.notDirectory, by rw [if_pos (by simpa using hdirectory)]⟩
      have hfolder : files.IsFolder here := by
        unfold IsFolder
        rw [hnode]
        exact hdirectory
      rw [if_neg (by simpa using hdirectory)]
      by_cases hsearch : (!files.permits directory searchBit) = true
      · exact .inl ⟨.accessDenied, by rw [if_pos hsearch]⟩
      rw [if_neg hsearch]
      by_cases hlong : Path.longestName < name.length
      · exact .inl ⟨.nameTooLong, by rw [if_pos hlong]⟩
      rw [if_neg hlong]
      by_cases hhere : name = [] ∨ name = Path.here
      · refine .inr ⟨hfolder, .inl ⟨hhere, ?_⟩⟩
        rw [if_pos (by simpa using hhere)]
      rw [if_neg (by simpa using hhere)]
      by_cases hup : name = Path.up
      · refine .inr ⟨hfolder, .inr (.inl ⟨hup, ?_⟩)⟩
        rw [if_pos (beq_iff_eq.mpr hup)]
      rw [if_neg (by simpa using hup)]
      by_cases hclosed : (creating && rest == [[]]) = true
      · exact .inl ⟨.isDirectory, by rw [if_pos hclosed]⟩
      rw [if_neg hclosed]
      obtain ⟨hfilled, hnotHere⟩ := not_or.mp hhere
      exact .inr ⟨hfolder, .inr (.inr
        ⟨⟨⟨hfilled, hslash⟩, hnotHere, hup, Nat.le_of_not_lt hlong⟩, rfl⟩)⟩

/-- The look at an entry ends with an error, or where the entry is the last one and no link that is
to be followed; it goes on from what the entry lists otherwise. -/
theorem look_cases : (∃ errno, files.look follow here name rest = .stop (.error errno)) ∨
    (files.look follow here name rest =
        .stop (.ok ⟨here, name, (files.entriesOf here).lookup name⟩) ∧
      Unlinked files follow ⟨here, name, (files.entriesOf here).lookup name⟩) ∨
    ∃ id, (files.entriesOf here).lookup name = some id ∧
      ((rest ≠ [] ∧ files.linkAt? id = none ∧ files.look follow here name rest = .down id) ∨
        ∃ target, target ≠ [] ∧ files.linkAt? id = some target ∧
          files.look follow here name rest = .through target) := by
  unfold look Unlinked
  cases hlookup : (files.entriesOf here).lookup name with
  | none =>
      dsimp only
      split
      · exact .inr (.inl ⟨rfl, fun _ id hid => by cases hid⟩)
      · exact .inl ⟨_, rfl⟩
  | some id =>
      dsimp only
      cases hlink : files.linkAt? id with
      | none =>
          dsimp only
          split
          · refine .inr (.inl ⟨rfl, fun _ other hother => ?_⟩)
            cases hother
            exact hlink
          · rename_i hrest
            exact .inr (.inr ⟨id, rfl, .inl ⟨by simpa using hrest, hlink, rfl⟩⟩)
      | some target =>
          dsimp only
          split_ifs with hlast hempty
          · refine .inr (.inl ⟨rfl, fun hfollow => ?_⟩)
            rw [hfollow, Bool.not_true, Bool.and_false] at hlast
            exact absurd hlast Bool.false_ne_true
          · exact .inl ⟨_, rfl⟩
          · exact .inr (.inr ⟨id, rfl, .inr ⟨target, by simpa using hempty, hlink, rfl⟩⟩)

section Turn

variable (hslash : Path.slash ∉ name)

include hslash

theorem sited_of_stop (htidy : Tidy files)
    (h : files.turn creating follow here name rest = .stop (.ok place)) :
    Sited files place ∧ Unlinked files follow place := by
  rcases turn_cases files creating follow here rest hslash with
    ⟨errno, herror⟩ | ⟨hfolder, ⟨-, hpoint⟩ | ⟨-, hpoint⟩ | ⟨hproper, hlook⟩⟩
  · cases h.symm.trans herror
  · rw [hpoint] at h
    split at h <;> cases h
    exact ⟨.inl ⟨.inl rfl, _, rfl, hfolder⟩, unlinked_of_isFolder rfl hfolder⟩
  · rw [hpoint] at h
    split at h <;> cases h
    have hup := htidy.up _ hfolder
    exact ⟨.inl ⟨.inr rfl, _, rfl, hup⟩, unlinked_of_isFolder rfl hup⟩
  · rw [hlook] at h
    rcases look_cases with
      ⟨errno, heq⟩ | ⟨heq, hunlinked⟩ | ⟨id, -, ⟨-, -, heq⟩ | ⟨target, -, -, heq⟩⟩
    · cases h.symm.trans heq
    · cases h.symm.trans heq
      exact ⟨.inr ⟨hproper, hfolder, rfl⟩, hunlinked⟩
    · cases h.symm.trans heq
    · cases h.symm.trans heq

theorem rest_ne_nil_of_down (h : files.turn creating follow here name rest = .down id) :
    rest ≠ [] := by
  rintro rfl
  rcases turn_cases files creating follow here [] hslash with
    ⟨errno, herror⟩ | ⟨-, ⟨-, hpoint⟩ | ⟨-, hpoint⟩ | ⟨-, hlook⟩⟩
  · cases h.symm.trans herror
  · cases h.symm.trans hpoint
  · cases h.symm.trans hpoint
  · rw [hlook] at h
    rcases look_cases with ⟨errno, heq⟩ | ⟨heq, -⟩ | ⟨id, -, ⟨hne, -, -⟩ | ⟨target, -, -, heq⟩⟩
    · cases h.symm.trans heq
    · cases h.symm.trans heq
    · exact hne rfl
    · cases h.symm.trans heq

theorem target_ne_nil_of_through {target : Bytes}
    (h : files.turn creating follow here name rest = .through target) : target ≠ [] := by
  rcases turn_cases files creating follow here rest hslash with
    ⟨errno, herror⟩ | ⟨-, ⟨-, hpoint⟩ | ⟨-, hpoint⟩ | ⟨-, hlook⟩⟩
  · cases h.symm.trans herror
  · rw [hpoint] at h
    split at h <;> cases h
  · rw [hpoint] at h
    split at h <;> cases h
  · rw [hlook] at h
    rcases look_cases with ⟨errno, heq⟩ | ⟨heq, -⟩ | ⟨id, -, ⟨-, -, heq⟩ | ⟨target, hne, -, heq⟩⟩
    · cases h.symm.trans heq
    · cases h.symm.trans heq
    · cases h.symm.trans heq
    · cases h.symm.trans heq
      exact hne

end Turn

theorem Followed.sited (htidy : Tidy files) (h : Followed files creating follow here names place)
    (hslash : ∀ name ∈ names, Path.slash ∉ name) (hhere : names = [] → files.IsFolder here) :
    Sited files place ∧ Unlinked files follow place := by
  induction h with
  | ended => exact ⟨.inl ⟨.inl rfl, _, rfl, hhere rfl⟩, unlinked_of_isFolder rfl (hhere rfl)⟩
  | stop hturn => exact sited_of_stop (hslash _ List.mem_cons_self) htidy hturn
  | down hturn _ ih =>
      have hrest := rest_ne_nil_of_down (hslash _ List.mem_cons_self) hturn
      exact ih (fun name hname => hslash name (List.mem_cons_of_mem _ hname))
        fun hnil => absurd hnil hrest
  | @through base first others target goal hturn _ ih =>
      refine ih (fun name hname => ?_) fun hnil => ?_
      · rcases List.mem_append.mp hname with hname | hname
        · exact Path.unslashed_of_mem_parse hname
        · exact hslash name (List.mem_cons_of_mem _ hname)
      · -- a link without names leads to the root
        have htarget := target_ne_nil_of_through (hslash first List.mem_cons_self) hturn
        rw [Path.absolute_of_names_eq_nil htarget (List.append_eq_nil_iff.mp hnil).1, if_pos rfl]
        exact htidy.root

/-- What the place is that a path leads to. -/
theorem sited_of_locate (htidy : Tidy files)
    (h : files.locate here path follow creating = .ok place) : Sited files place := by
  unfold locate at h
  split_ifs at h with hempty
  refine ((followed_of_resolve h).sited htidy (fun name => Path.unslashed_of_mem_parse)
    fun hnil => ?_).1
  rw [Path.absolute_of_names_eq_nil (by simpa using hempty) hnil, if_pos rfl]
  exact htidy.root

theorem Sited.free (h : Sited files place) (hfree : place.node? = none) :
    Proper place.name ∧ files.IsFolder place.directory ∧
      ∀ entry ∈ files.entriesOf place.directory, entry.1 ≠ place.name := by
  rcases h with ⟨-, id, hid, -⟩ | ⟨hproper, hfolder, hlookup⟩
  · cases hid.symm.trans hfree
  · rw [hfree, List.lookup_eq_none_iff] at hlookup
    refine ⟨hproper, hfolder, fun entry hentry heq => ?_⟩
    exact absurd (hlookup entry hentry) (by simp [heq])

/-- The node at a place that is no point is an entry of a directory. -/
theorem Sited.entry (h : Sited files place) (hid : place.node? = some id)
    (hpoint : ¬(place.name = Path.here ∨ place.name = Path.up)) :
    Proper place.name ∧ files.IsFolder place.directory ∧
      (files.entriesOf place.directory).lookup place.name = some id := by
  rcases h with ⟨hpoints, -⟩ | ⟨hproper, hfolder, hlookup⟩
  · exact absurd hpoints hpoint
  · exact ⟨hproper, hfolder, hlookup.trans hid⟩

theorem Sited.there (htidy : Tidy files) (h : Sited files place) (hid : place.node? = some id) :
    (files.frameAt id).isSome = true := by
  rcases h with ⟨-, other, hother, hfolder⟩ | ⟨-, -, hlookup⟩
  · cases hid.symm.trans hother
    exact hfolder.there
  · exact htidy.there _ _ (mem_of_lookup (hlookup.trans hid))

/-! ## Changes -/

/-- A change keeps a tidy store tidy, its nodes stay what they are, and certain nodes keep their
names. -/
structure Upkeep (files later : Files) (listed : NodeId → Prop) : Prop where
  tidy : Tidy later
  lasts : Lasts files later
  lists : Lists files later listed

theorem Upkeep.mono {listed fewer : NodeId → Prop} (h : Upkeep files later listed)
    (hfewer : ∀ id, fewer id → listed id) : Upkeep files later fewer :=
  ⟨h.tidy, h.lasts, fun directory name id hlookup hid =>
    h.lists directory name id hlookup (hfewer id hid)⟩

theorem Level.upkeep (htidy : Tidy files) (h : Level files later) {listed : NodeId → Prop} :
    Upkeep files later listed := ⟨h.tidy htidy, h.lasts, h.lists⟩

section Changes

variable (htidy : Tidy files)

include htidy

theorem upkeep_enter {node : Node} (hsited : Sited files place) (hfree : place.node? = none)
    (hnode : ∀ parent entries, node.content = .directory parent entries →
      entries = [] ∧ parent = place.directory)
    (h : files.enter place node = .ok (id, later)) : Upkeep files later fun _ => True := by
  obtain ⟨hproper, hfolder, hname⟩ := hsited.free hfree
  unfold enter at h
  obtain ⟨-, -, h⟩ := exists_of_bind h
  simp only [pure, Except.pure, Except.ok.injEq, Prod.mk.injEq] at h
  obtain ⟨-, rfl⟩ := h
  generalize hdated : ({ node with changed := files.time } : Node) = dated
  have hcontent : dated.content = node.content := by rw [← hdated]
  show Upkeep files ((files.add dated).2.enterNode place files.nodes.length) _
  have hgrown : Tidy (files.add dated).2 := by
    refine htidy.add fun parent entries hdirectory => ?_
    obtain ⟨hempty, rfl⟩ := hnode parent entries (hcontent.symm.trans hdirectory)
    exact ⟨hempty, hfolder⟩
  have hadded : Lasts files (files.add dated).2 := lasts_add
  have hentries : ∀ id, (files.add dated).2.entriesOf id = files.entriesOf id := fun id =>
    entriesOf_add fun parent entries hdirectory =>
      (hnode parent entries (hcontent.symm.trans hdirectory)).1
  have hgrownFolder := (hadded.folder _ hfolder.there).mpr hfolder
  -- the node is added first, and its name is entered then
  refine ⟨hgrown.enterNode hgrownFolder hproper ?_ ?_ ?_, hadded.trans lasts_enterNode, ?_⟩
  · rw [hentries]
    exact hname
  · rw [frameAt_add, if_pos rfl]
    rfl
  · intro hnew
    obtain ⟨parent, entries, hframe⟩ := isFolder_iff.mp hnew
    have hparent := hframe
    rw [frameAt_add, if_pos rfl, Option.some.injEq] at hframe
    have hdirectory := hcontent.symm.trans (content_of_frame hframe)
    refine ⟨?_, ?_, fun directory entry hentry => ?_⟩
    · rw [parentOf_eq, hparent]
      exact (hnode parent entries hdirectory).2
    · exact (ne_length_of_there htidy.root.there).symm
    · exact ne_length_of_there (htidy.there directory entry (hentries directory ▸ hentry))
  · have hlists : Lists (files.add dated).2
        ((files.add dated).2.enterNode place files.nodes.length) fun _ => True :=
      lists_enterNode hgrownFolder
    intro directory name id hlookup
    exact hlists directory name id ((hentries directory).symm ▸ hlookup)

theorem upkeep_openPath {access : Access} {mask : Nat}
    (h : files.openPath here path access mask = .ok (id, later)) :
    Upkeep files later fun _ => True := by
  unfold openPath at h
  obtain ⟨place, hplace, h⟩ := exists_of_bind h
  split at h
  · rename_i hfree
    split at h
    · exact upkeep_enter htidy (sited_of_locate htidy hplace) hfree
        (fun parent entries hcontent => by cases hcontent) h
    · cases h
  · rename_i found hfound
    split at h
    · cases h
    · split_ifs at h <;> cases h
      · exact level_setBytes.upkeep htidy
      · exact (Level.mk rfl fun _ => rfl).upkeep htidy

theorem upkeep_makeDirectory {mode mask : Nat}
    (h : files.makeDirectory here path mode mask = .ok later) :
    Upkeep files later fun _ => True := by
  unfold makeDirectory at h
  obtain ⟨place, hplace, h⟩ := exists_of_bind h
  split at h
  · cases h
  rename_i hfree
  obtain ⟨⟨id, grown⟩, hgrown, h⟩ := exists_of_bind h
  cases h
  refine upkeep_enter htidy (sited_of_locate htidy hplace) hfree
    (fun parent entries hcontent => ?_) hgrown
  cases hcontent
  exact ⟨rfl, rfl⟩

theorem place_of_freePlace (h : files.freePlace here path = .ok place) :
    Sited files place ∧ place.node? = none := by
  unfold freePlace at h
  obtain ⟨found, hplace, h⟩ := exists_of_bind h
  split at h
  · cases h
  · rename_i hfree
    split at h <;> cases h
    exact ⟨sited_of_locate htidy hplace, by simpa using hfree⟩

theorem upkeep_makeLink {target : Bytes} (h : files.makeLink here path target = .ok later) :
    Upkeep files later fun _ => True := by
  unfold makeLink at h
  split_ifs at h
  · cases h
  · cases h
  · obtain ⟨place, hplace, h⟩ := exists_of_bind h
    obtain ⟨hsited, hfree⟩ := place_of_freePlace htidy hplace
    obtain ⟨⟨id, grown⟩, hgrown, h⟩ := exists_of_bind h
    cases h
    exact upkeep_enter htidy hsited hfree (fun parent entries hcontent => by cases hcontent) hgrown

theorem there_of_find (h : files.find here path follow = .ok id) :
    (files.frameAt id).isSome = true := by
  unfold find at h
  obtain ⟨place, hplace, h⟩ := exists_of_bind h
  split at h
  · rename_i hid
    cases h
    exact (sited_of_locate htidy hplace).there htidy hid
  · cases h

theorem upkeep_hardLink {source : Bytes} (h : files.hardLink here source path = .ok later) :
    Upkeep files later fun _ => True := by
  unfold hardLink at h
  obtain ⟨found, hfound, h⟩ := exists_of_bind h
  obtain ⟨place, hplace, h⟩ := exists_of_bind h
  split at h
  · cases h
  rename_i node hnode
  obtain ⟨hkind, h⟩ := of_guard h
  obtain ⟨-, -, h⟩ := exists_of_bind h
  cases h
  obtain ⟨hsited, hfree⟩ := place_of_freePlace htidy hplace
  obtain ⟨hproper, hfolder, hname⟩ := hsited.free hfree
  -- a second name would break the tree if it were one of a directory
  have hnot : ¬files.IsFolder found := by
    unfold IsFolder
    rw [hnode]
    exact hkind
  exact ⟨htidy.enterNode hfolder hproper hname (there_of_find htidy hfound)
    fun hyes => absurd hyes hnot, lasts_enterNode, lists_enterNode hfolder⟩

/-- The name of something that is no directory has gone. -/
theorem upkeep_unlink (h : files.unlink here path = .ok later) :
    Upkeep files later files.IsFolder := by
  unfold unlink at h
  obtain ⟨place, hplace, h⟩ := exists_of_bind h
  split at h
  · cases h
  rename_i id hid
  obtain ⟨hpoint, h⟩ := of_guard h
  obtain ⟨-, -, h⟩ := exists_of_bind h
  split at h
  · cases h
  rename_i hnot
  cases h
  obtain ⟨-, -, hlookup⟩ := (sited_of_locate htidy hplace).entry hid (by simpa using hpoint)
  -- the node that has lost the name is no directory, so every directory is another one
  refine Upkeep.mono ⟨htidy.dropName, lasts_dropName, lists_dropName hlookup⟩ ?_
  rintro other hother rfl
  exact hnot hother

theorem upkeep_removeDirectory (h : files.removeDirectory here path = .ok later) :
    Upkeep files later fun _ => False := by
  unfold removeDirectory at h
  obtain ⟨place, hplace, h⟩ := exists_of_bind h
  split at h
  · cases h
  obtain ⟨-, h⟩ := of_guard h
  obtain ⟨-, h⟩ := of_guard h
  obtain ⟨-, h⟩ := of_guard h
  obtain ⟨-, -, h⟩ := exists_of_bind h
  split_ifs at h
  cases h
  exact ⟨htidy.dropName, lasts_dropName, fun _ _ _ _ hfalse => hfalse.elim⟩

theorem upkeep_setMode {mode : Nat} (h : files.setMode here path mode = .ok later) :
    Upkeep files later fun _ => True := by
  unfold setMode at h
  obtain ⟨id, hfound, h⟩ := exists_of_bind h
  split at h
  · cases h
  · rename_i node hnode
    split at h <;> cases h
    have hlevel : Level files (files.put id { node with mode := mode }) := level_put hnode rfl
    exact hlevel.upkeep htidy

theorem upkeep_setTime {time : Nat} (h : files.setTime here path follow time = .ok later) :
    Upkeep files later fun _ => True := by
  unfold setTime at h
  obtain ⟨id, hfound, h⟩ := exists_of_bind h
  split at h
  · cases h
  · rename_i node hnode
    split at h <;> cases h
    have hlevel : Level files (files.put id { node with changed := time }) :=
      level_put hnode rfl
    exact hlevel.upkeep htidy

/-- A directory that no directory lists can get another parent. -/
theorem tidy_setParent {parent : NodeId} (hid : files.IsFolder id) (hparent : files.IsFolder parent)
    (hunlisted : ∀ directory, ∀ entry ∈ files.entriesOf directory, entry.2 ≠ id) :
    Tidy (files.setParent id parent) where
  root := isFolder_setParent.mpr htidy.root
  up other hother := by
    rw [isFolder_setParent, parentOf_setParent hid]
    split
    · exact hparent
    · exact htidy.up other (isFolder_setParent.mp hother)
  proper other entry hentry := htidy.proper other entry (entriesOf_setParent ▸ hentry)
  distinct other := by
    rw [entriesOf_setParent]
    exact htidy.distinct other
  there other entry hentry :=
    lasts_setParent.there _ (htidy.there other entry (entriesOf_setParent ▸ hentry))
  held other entry hentry hfolder := by
    rw [entriesOf_setParent] at hentry
    rw [parentOf_setParent hid, if_neg (hunlisted other entry hentry)]
    exact htidy.held other entry hentry (isFolder_setParent.mp hfolder)
  once other a ha b hb hsame hfolder :=
    htidy.once other a (entriesOf_setParent ▸ ha) b (entriesOf_setParent ▸ hb) hsame
      (isFolder_setParent.mp hfolder)

omit htidy in
/-- It does not matter whether a directory gets its name or its parent first. -/
theorem level_setParent_enterNode {parent : NodeId} (hid : files.IsFolder id)
    (hfolder : files.IsFolder place.directory) :
    Level ((files.setParent id parent).enterNode place id)
      ((files.enterNode place id).setParent id parent) := by
  refine ⟨?_, fun other => ?_⟩
  · rw [length_setParent]
    unfold enterNode
    rw [length_setEntries, length_setEntries, length_setParent]
  · rw [frameAt_setParent]
    unfold enterNode
    simp only [frameAt_setEntries, frameAt_setParent, isFolder_setEntries, isFolder_setParent,
      entriesOf_setParent, parentOf_setParent hid, entriesOf_setEntries hfolder, hid, hfolder,
      and_true]
    by_cases hplace : other = place.directory
    · by_cases hsame : other = id
      · simp [← hplace, ← hsame]
      · have hne : place.directory ≠ id := fun heq => hsame (hplace.trans heq)
        simp [hplace, hne]
    · by_cases hsame : other = id
      · have hne : id ≠ place.directory := fun heq => hplace (hsame.trans heq)
        simp [hsame, hne]
      · simp [hplace, hsame]

/-- A node has lost one name and got another one. -/
theorem tidy_renamed {goal : Place} (hplace : Sited files place) (hid : place.node? = some id)
    (hpoint : ¬(place.name = Path.here ∨ place.name = Path.up))
    (hgoal : Sited files goal) (hgoalPoint : ¬(goal.name = Path.here ∨ goal.name = Path.up)) :
    (files.IsFolder id →
      Tidy ((((files.dropName place).dropName goal).enterNode goal id).setParent id
        goal.directory)) ∧
    (¬files.IsFolder id → Tidy (((files.dropName place).dropName goal).enterNode goal id)) := by
  have hthere := hplace.there htidy hid
  obtain ⟨-, -, hlookup⟩ := hplace.entry hid hpoint
  obtain ⟨hproper, hfolder, -⟩ := hgoal.resolve_left fun h => hgoalPoint h.1
  -- between its two names the node has none, in a store that is tidy without it
  generalize hbare : (files.dropName place).dropName goal = bare
  have htidyBare : Tidy bare := hbare ▸ htidy.dropName.dropName
  have hlasts : Lasts files bare := hbare ▸ lasts_dropName.trans lasts_dropName
  have hgoalBare : bare.IsFolder goal.directory := (hlasts.folder _ hfolder.there).mpr hfolder
  have hfree : ∀ entry ∈ bare.entriesOf goal.directory, entry.1 ≠ goal.name := by
    intro entry hentry heq
    rw [← hbare] at hentry
    exact (mem_dropName.mp hentry).2 ⟨rfl, heq⟩
  refine ⟨fun hyes => ?_, fun hno => ?_⟩
  · have hmem := mem_of_lookup hlookup
    obtain ⟨hparent, hroot⟩ := htidy.held _ _ hmem hyes
    -- its only name is the one that it has lost
    have hunlisted : ∀ directory, ∀ entry ∈ bare.entriesOf directory, entry.2 ≠ id := by
      intro directory entry hentry heq
      rw [← hbare] at hentry
      obtain ⟨hold, hother⟩ := mem_dropName.mp (mem_dropName.mp hentry).1
      have hdirectory := (htidy.held directory entry hold (heq.symm ▸ hyes)).1
      rw [heq, hparent] at hdirectory
      subst hdirectory
      have hsame := htidy.once _ entry hold _ hmem heq (heq.symm ▸ hyes)
      exact hother ⟨rfl, congrArg Prod.fst hsame⟩
    have hidBare : bare.IsFolder id := (hlasts.folder _ hthere).mpr hyes
    refine (level_setParent_enterNode hidBare hgoalBare).tidy ?_
    refine (tidy_setParent htidyBare hidBare hgoalBare hunlisted).enterNode
      (isFolder_setParent.mpr hgoalBare) hproper ?_ ?_ fun _ => ⟨?_, hroot, ?_⟩
    · rw [entriesOf_setParent]
      exact hfree
    · exact lasts_setParent.there _ hidBare.there
    · rw [parentOf_setParent hidBare, if_pos rfl]
    · intro directory entry hentry
      exact hunlisted directory entry (entriesOf_setParent ▸ hentry)
  · refine htidyBare.enterNode hgoalBare hproper hfree (hlasts.there _ hthere) fun hyes => ?_
    exact absurd ((hlasts.folder _ hthere).mp hyes) hno

theorem upkeep_rename {source : Bytes} (h : files.rename here source path = .ok later) :
    Upkeep files later fun _ => False := by
  unfold rename at h
  obtain ⟨place, hplace, h⟩ := exists_of_bind h
  obtain ⟨goal, hgoal, h⟩ := exists_of_bind h
  split at h
  · cases h
  rename_i id hid
  obtain ⟨hpoints, h⟩ := of_guard h
  split at h
  · cases h
  rename_i node hnode
  obtain ⟨-, h⟩ := of_guard h
  split at h
  · cases h
    exact (Level.mk rfl fun _ => rfl).upkeep htidy
  obtain ⟨-, h⟩ := of_guard h
  obtain ⟨-, -, h⟩ := exists_of_bind h
  obtain ⟨-, -, h⟩ := exists_of_bind h
  obtain ⟨-, h⟩ := of_guard h
  simp only [Bool.or_eq_true, beq_iff_eq, not_or] at hpoints
  -- neither end is a point, so both are sited as entries of directories
  have hrenamed := tidy_renamed htidy (sited_of_locate htidy hplace) hid
    (fun h => h.elim hpoints.1.1 hpoints.1.2) (sited_of_locate htidy hgoal)
    fun h => h.elim hpoints.2.1 hpoints.2.2
  have hmoved : Lasts files (((files.dropName place).dropName goal).enterNode goal id) :=
    (lasts_dropName.trans lasts_dropName).trans lasts_enterNode
  have hkind : files.IsFolder id ↔ node.isDirectory = true := by
    unfold IsFolder
    rw [hnode, Option.any_some]
  cases h
  split
  · rename_i hdirectory
    exact ⟨hrenamed.1 (hkind.mpr hdirectory), hmoved.trans lasts_setParent,
      fun _ _ _ _ hfalse => hfalse.elim⟩
  · rename_i hdirectory
    exact ⟨hrenamed.2 fun hyes => hdirectory (hkind.mp hyes), hmoved,
      fun _ _ _ _ hfalse => hfalse.elim⟩

/-! ## Planting -/

omit htidy in
/-- A file that has been opened to be written is there, and no directory. -/
theorem not_isFolder_of_openPath {access : Access} {mask : Nat} (hcreate : access.create = true)
    (hexclusive : access.exclusive = false)
    (h : files.openPath here path access mask = .ok (id, later)) :
    (later.node? id).isSome = true ∧ ¬later.IsFolder id := by
  have hopen := h
  rcases openPath_leads hcreate hexclusive h with ⟨⟨place, hplace, hid⟩, rfl⟩ |
    ⟨-, -, directory, entry, hentered⟩
  · unfold openPath at h
    simp only [hcreate, hexclusive, Bool.not_false, hplace, bind, Except.bind, hid] at h
    split at h
    · cases h
    rename_i node hnode
    have hlevel : Level files (files.afterOpening access id) := by
      unfold afterOpening
      split
      · exact level_setBytes
      · exact ⟨rfl, fun _ => rfl⟩
    have hkind : ¬files.IsFolder id := by
      intro hyes
      unfold IsFolder at hyes
      rw [hnode, Option.any_some] at hyes
      simp [hyes, throw, throwThe, MonadExceptOf.throw] at h
    refine ⟨?_, fun hyes => hkind (hlevel.isFolder.mp hyes)⟩
    have hthere : (files.frameAt id).isSome = true := by
      unfold frameAt
      rw [hnode]
      rfl
    have hlater := hlevel.lasts.there id hthere
    unfold frameAt at hlater
    rwa [Option.isSome_map] at hlater
  · obtain ⟨node, hnode, hcontent⟩ :=
      Option.map_eq_some_iff.mp (bytesOf?_eq_some.mp hentered.regular)
    refine ⟨by rw [hnode]; rfl, fun hyes => ?_⟩
    unfold IsFolder Node.isDirectory at hyes
    rw [hnode, Option.any_some, hcontent] at hyes
    cases hyes

theorem tidy_makeDirectories : Tidy (files.makeDirectories here path) := by
  unfold makeDirectories
  dsimp only
  generalize (if (Path.parse path).absolute then [Path.slash] else []) = reached
  induction (Path.parse path).names generalizing files reached with
  | nil => exact htidy
  | cons name names ih =>
      rw [List.foldl_cons]
      refine ih ?_ _
      dsimp only
      cases hmade : files.makeDirectory here (reached ++ name) freshDirectoryMode usualMask with
      | ok made => exact (upkeep_makeDirectory htidy hmade).tidy
      | error errno => exact htidy

/-- A store that things are put into stays tidy. -/
theorem tidy_plant (seed : Seed) : Tidy (files.plant here seed) := by
  have hready : Tidy (files.makeDirectories here (directoryPart seed.path)) :=
    tidy_makeDirectories htidy
  unfold plant
  generalize files.makeDirectories here (directoryPart seed.path) = ready at hready
  cases seed with
  | directory path => exact tidy_makeDirectories htidy
  | link path target =>
      dsimp only
      cases hmade : ready.makeLink here path target with
      | ok made => exact (upkeep_makeLink hready hmade).tidy
      | error errno => exact hready
  | file path bytes mode =>
      dsimp only
      split
      · rename_i id made hopened
        obtain ⟨hthere, hkind⟩ := not_isFolder_of_openPath rfl rfl hopened
        exact (upkeep_openPath hready hopened).tidy.put hthere hkind rfl
      · exact hready

end Changes

end Files

end LineShell
