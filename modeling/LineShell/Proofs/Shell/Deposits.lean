import LineShell.Proofs.Shell.Errands
import Mathlib

/-!
# What is left in the files of redirections

A process opens targets one after the other, to try them or to write texts to them, in any order and
under any names. What it leaves can be told from the steps that have succeeded and from where their
paths lead in the end.

* **`Errand.onto`** — what a file holds after a step, given what it held before;
* **`effected`** — what a single step changes;
* **`Upheld`** — what holds of the files after any number of steps, `Carried.upheld`;
* **`effect?_again`** — a step that follows a trial of its target comes to the same as without it;
* **`contents_of_errands`** — all this of a process that runs by itself.
-/

namespace LineShell.Errands

open LineShell.System

variable {α : Type} {launch : Launcher} {start : System α} {p : Process α} {errand : Errand}
  {outcome : Outcome} {held left between after : Holdings} {log before behind rest : Log}
  {id : NodeId} {old : Bytes} {files later : Files}

/-! ## Contents -/

/-- What a file holds when a text has been written to it that held something before. -/
def Errand.onto (errand : Errand) (old : Bytes) : Bytes :=
  match errand.target.mode with
  | .truncate => errand.bytes
  | .append => old ++ errand.bytes

/-- What a file holds in the end, when it has been written to several times. -/
def contentAfter (errands : List Errand) (old : Bytes) : Bytes :=
  errands.foldl (fun held errand => errand.onto held) old

/-- The node that the path of an errand leads to. -/
def Errand.goal? (p : Process α) (files : Files) (errand : Errand) : Option NodeId :=
  match cleanBytes errand.target.path with
  | .error _ => none
  | .ok path => p.goal? files path

/-- The errands that have succeeded and whose paths lead to a node. -/
def goingTo (p : Process α) (files : Files) (id : NodeId) (log : Log) : List Errand :=
  (log.filter fun entry => entry.2.ok && entry.1.goal? p files == some id).map Prod.fst

theorem goingTo_cons : goingTo p files id ((errand, outcome) :: rest) =
    if outcome.ok = true ∧ errand.goal? p files = some id then errand :: goingTo p files id rest
    else goingTo p files id rest := by
  unfold goingTo
  rw [List.filter_cons]
  by_cases h : outcome.ok = true ∧ errand.goal? p files = some id
  · rw [if_pos h, if_pos (by simp [h.1, h.2]), List.map_cons]
  · rw [if_neg h, if_neg (by simpa using h)]

/-- What has been opened holds what it held or nothing, and gets the text at its end. -/
theorem overwrite_opened (errand : Errand) (old : Bytes) :
    Files.overwrite (if errand.target.mode.access.truncate then [] else old)
      (if errand.target.mode.access.append
        then (if errand.target.mode.access.truncate then [] else old).length else 0) errand.bytes =
      errand.onto old := by
  unfold Errand.onto
  cases errand.target.mode with
  | append => exact Files.overwrite_length old errand.bytes
  | truncate => exact Files.overwrite_length [] errand.bytes

theorem onto_of_bytes_eq_nil (h : errand.bytes = []) :
    errand.onto old = if errand.target.mode.access.truncate then [] else old := by
  unfold Errand.onto
  cases errand.target.mode with
  | truncate => exact h
  | append => rw [h, List.append_nil]; rfl

/-! ## A single step -/

theorem ok_answer {result : Except OpenFailure Unit} :
    (errand.answer result).ok = result.isOk := by
  unfold Errand.answer
  cases errand.text? <;> cases result <;> rfl

/-- The system lets a process open the target of an errand, where these are the files. -/
def Errand.Opens (start : System α) (p : Process α) (files : Files) (errand : Errand) : Prop :=
  ∃ path fd, cleanBytes errand.target.path = .ok path ∧
    (({ start with files := files } : System α).openPath p path errand.target.mode.access true).1 =
      .ok fd

theorem opens_iff_land : errand.Opens start p files ↔
    ∃ landed, land start p files errand.target = .ok landed := by
  unfold Errand.Opens land System.openPath
  cases cleanBytes errand.target.path with
  | error word => simp
  | ok path =>
      dsimp only
      by_cases hlimit : p.limit ≤ p.table.free
      · simp [hlimit]
      cases hend : ({ start with files := files } : System α).endpointAt p path
        errand.target.mode.access with
      | error errno => simp [hlimit, hend, Except.mapError]
      | ok landed => simp [hlimit, hend, Except.mapError, install]

theorem not_opens_of_land {failure : OpenFailure}
    (h : land start p files errand.target = .error failure) : ¬errand.Opens start p files := by
  rw [opens_iff_land, h]
  simp

/-- What a step changes: nothing if it fails, and else the file that its path leads to, if that is a
regular one. It fails where its target cannot be opened, or cannot take its text. -/
inductive Effected (start : System α) (p : Process α) (held : Holdings) (errand : Errand)
    (outcome : Outcome) (left : Holdings) : Prop
  | refused : outcome.ok = false → left = held → ¬errand.Opens start p held.files ∨
      errand.bytes ≠ [] ∧ (∀ id, errand.goal? p held.files = some id →
        held.files.bytesOf? id = none) → Effected start p held errand outcome left
  | nowhere : outcome.ok = true → left.files = held.files →
      (∀ files, errand.goal? p files = none) → Effected start p held errand outcome left
  | irregular {id : NodeId} : outcome.ok = true → left.files = held.files →
      errand.goal? p held.files = some id → held.files.node? id ≠ none →
      held.files.bytesOf? id = none → Effected start p held errand outcome left
  | filed {id : NodeId} {old : Bytes} : outcome.ok = true → errand.goal? p left.files = some id →
      Files.Gained p.mask held.files left.files id → held.files.Holds id old →
      left.files.bytesOf? id = some (errand.onto old) → Effected start p held errand outcome left

theorem goal?_of_alike (h : Files.Alike files later) : errand.goal? p later = errand.goal? p files := by
  unfold Errand.goal? Process.goal?
  simp only [h.find]

/-- What is poured into a file that has been opened stands behind what it holds then. -/
theorem effected_of_opened {reply : Except Errno Unit} (hwrites : errand.bytes ≠ [])
    (hgoal : errand.goal? p files = some id)
    (hopened : Files.Opened p.mask errand.target.mode.access held.files files id)
    (hpour : pour start (.node id) errand.target.mode errand.bytes ⟨files, held.pipes⟩ =
      some (reply, left)) :
    Effected start p held errand (errand.answer (reply.mapError .system)) left := by
  have hgained : Files.Gained p.mask held.files files id := hopened.gained
  unfold pour at hpour
  dsimp only at hpour
  rcases hopened.holds with ⟨old, hholds, hbytes⟩ | ⟨hthere, hbytes, rfl⟩
  · rw [Files.bytesOf?_eq_some.mp hbytes] at hpour
    cases hpour
    refine .filed ok_answer ((goal?_of_alike Files.alike_setBytes).trans hgoal)
      hgained.setBytes hholds ?_
    rw [Files.bytesOf?_setBytes hbytes, if_pos rfl, overwrite_opened]
  · -- what is no regular file takes the text or refuses it, and is as it was
    have hirregular : ∀ bytes, (held.files.node? id).map Node.content ≠ some (.regular bytes) :=
      fun bytes hcontent => absurd (Files.bytesOf?_eq_some.mpr hcontent) (by simp [hbytes])
    have hcannot : errand.bytes ≠ [] ∧ ∀ other, errand.goal? p held.files = some other →
        held.files.bytesOf? other = none := by
      refine ⟨hwrites, fun other hother => ?_⟩
      cases hgoal.symm.trans hother
      exact hbytes
    split at hpour
    · rename_i bytes hcontent
      exact absurd hcontent (hirregular bytes)
    · cases hpour
      exact .refused ok_answer rfl (.inr hcannot)
    · cases hpour
      exact .irregular ok_answer rfl hgoal hthere hbytes
    · cases hpour
      exact .refused ok_answer rfl (.inr hcannot)

/-- A step has an effect on the file that its path leads to, and on nothing else. -/
theorem effected (h : errand.effect? start p held = some (outcome, left)) :
    Effected start p held errand outcome left := by
  unfold Errand.effect? at h
  cases hland : land start p held.files errand.target with
  | error failure =>
      rw [hland] at h
      cases h
      exact .refused ok_answer rfl (.inl (not_opens_of_land hland))
  | ok landed =>
      obtain ⟨endpoint, files⟩ := landed
      rw [hland] at h
      obtain ⟨path, hpath, hlanded⟩ := landed_of_land hland
      have hgoal : ∀ files, errand.goal? p files = p.goal? files path := by
        intro files
        unfold Errand.goal?
        rw [hpath]
      dsimp only at h
      by_cases hbytes : errand.bytes = []
      · -- nothing is poured, and the target is as its opening has left it
        rw [if_pos hbytes] at h
        cases h
        cases hlanded with
        | terminal hnowhere hlater | pipe hnowhere hlater =>
            exact .nowhere ok_answer hlater fun files => (hgoal files).trans (hnowhere files)
        | node hled hopened =>
            rcases hopened.holds with ⟨old, hholds, hheld⟩ | ⟨hthere, hirregular, hlater⟩
            · exact .filed ok_answer ((hgoal _).trans hled) hopened.gained hholds
                (by rw [onto_of_bytes_eq_nil hbytes, hheld])
            · rw [hlater] at hled
              exact .irregular ok_answer hlater ((hgoal _).trans hled) hthere hirregular
      · rw [if_neg hbytes, Option.map_eq_some_iff] at h
        obtain ⟨⟨reply, poured⟩, hpour, h⟩ := h
        cases h
        cases hlanded with
        | node hled hopened => exact effected_of_opened hbytes ((hgoal _).trans hled) hopened hpour
        | terminal hnowhere hlater =>
            cases hpour
            exact .nowhere ok_answer hlater fun files => (hgoal files).trans (hnowhere files)
        | pipe hnowhere hlater =>
            -- nobody may be left to read, and then the text is refused
            have hnone : ∀ files, errand.goal? p files = none :=
              fun files => (hgoal files).trans (hnowhere files)
            unfold pour at hpour
            dsimp only at hpour
            split_ifs at hpour
            · cases hpour
              exact .refused ok_answer (by rw [hlater])
                (.inr ⟨hbytes, fun id hid => absurd ((hnone _).symm.trans hid) (by simp)⟩)
            · cases hpour
              exact .nowhere ok_answer hlater hnone

/-! ## Any number of steps -/

/-- The permission bits for reading, writing and running. -/
def rwx (node : Node) : Nat := node.mode &&& 0o777

/-- What holds of the files after some steps, each with what it has come to. -/
structure Upheld (p : Process α) (files : Files) (log : Log) (later : Files) : Prop where
  /-- What was there is found where it was found, and nowhere else. -/
  found : ∀ id, (files.node? id).isSome = true → ∀ here path,
    later.find here path = .ok id ↔ files.find here path = .ok id
  /-- What was there keeps its permission bits. -/
  modes : ∀ id node, files.node? id = some node →
    ∃ changed, later.node? id = some changed ∧ rwx changed = rwx node
  /-- What no successful step leads to is as it was, unless it is a directory. -/
  kept : ∀ id node, files.node? id = some node → node.isDirectory = false →
    goingTo p later id log = [] → later.node? id = some node
  /-- A file holds what the successful steps that lead to it have made of what it held. -/
  written : ∀ id old, files.bytesOf? id = some old →
    later.bytesOf? id = some (contentAfter (goingTo p later id log) old)
  /-- What is new has been made by a step: an empty file, with the permission bits that are not
  withheld. -/
  made : ∀ id node, files.node? id = none → later.node? id = some node →
    goingTo p later id log ≠ [] ∧
      node.content = .regular (contentAfter (goingTo p later id log) []) ∧
      ∀ bit, node.mode.testBit bit = (Files.freshMode.testBit bit && !p.mask.testBit bit)
  /-- A successful step leads to something that is there, unless its path stands for an open file
  that is no node. -/
  led : ∀ entry ∈ log, entry.2.ok = true →
    (∃ id, entry.1.goal? p later = some id ∧ (later.node? id).isSome = true) ∨
      ∀ files, entry.1.goal? p files = none

theorem Effected.modes (h : Effected start p held errand outcome left) {node : Node}
    (hnode : held.files.node? id = some node) :
    ∃ changed, left.files.node? id = some changed ∧ changed.mode = node.mode := by
  cases h with
  | refused _ hleft => exact ⟨node, by rw [hleft, hnode], rfl⟩
  | nowhere _ hleft | irregular _ hleft => exact ⟨node, by rw [hleft, hnode], rfl⟩
  | filed _ _ hgained => exact hgained.modes id node hnode

theorem Effected.found (h : Effected start p held errand outcome left)
    (hid : (held.files.node? id).isSome = true) {here : NodeId} {path : Bytes} :
    left.files.find here path = .ok id ↔ held.files.find here path = .ok id := by
  cases h with
  | refused _ hleft => rw [hleft]
  | nowhere _ hleft | irregular _ hleft => rw [hleft]
  | filed _ _ hgained => exact hgained.found id hid here path

theorem Carried.modes (h : Carried start p held log after) {node : Node}
    (hnode : held.files.node? id = some node) :
    ∃ changed, after.files.node? id = some changed ∧ changed.mode = node.mode := by
  induction h generalizing node with
  | nil => exact ⟨node, hnode, rfl⟩
  | cons heffect _ ih =>
      obtain ⟨middle, hmiddle, hfirst⟩ := (effected heffect).modes hnode
      obtain ⟨changed, hchanged, hrest⟩ := ih hmiddle
      exact ⟨changed, hchanged, hrest.trans hfirst⟩

theorem Carried.found (h : Carried start p held log after)
    (hid : (held.files.node? id).isSome = true) {here : NodeId} {path : Bytes} :
    after.files.find here path = .ok id ↔ held.files.find here path = .ok id := by
  induction h with
  | nil => exact Iff.rfl
  | cons heffect _ ih =>
      obtain ⟨node, hnode⟩ := Option.isSome_iff_exists.mp hid
      obtain ⟨middle, hmiddle, -⟩ := (effected heffect).modes hnode
      exact (ih (by rw [hmiddle]; rfl)).trans ((effected heffect).found hid)

/-- A path leads to what is there from then on. -/
theorem Carried.goal?_iff (h : Carried start p held log after)
    (hid : (held.files.node? id).isSome = true) :
    errand.goal? p after.files = some id ↔ errand.goal? p held.files = some id := by
  have hfind : ∀ {result : Except Errno NodeId},
      result.toOption = some id ↔ result = .ok id := by
    intro result
    cases result <;> simp [Except.toOption]
  unfold Errand.goal? Process.goal?
  split
  · exact Iff.rfl
  · split
    · exact Iff.rfl
    · rw [hfind, hfind]
      exact h.found hid

section Effected

variable {node : Node} (h : Effected start p held errand outcome left)

include h

theorem Effected.led (hok : outcome.ok = true) :
    (∃ id, errand.goal? p left.files = some id ∧ (left.files.node? id).isSome = true) ∨
      ∀ files, errand.goal? p files = none := by
  cases h with
  | refused hfailed => exact absurd (hok.symm.trans hfailed) (by simp)
  | nowhere _ _ hnone => exact .inr hnone
  | irregular _ hleft hgoal hthere =>
      rw [hleft]
      exact .inl ⟨_, hgoal, Option.isSome_iff_ne_none.mpr hthere⟩
  | filed _ hgoal _ _ hbytes =>
      obtain ⟨node, hnode, -⟩ := Option.bind_eq_some_iff.mp hbytes
      exact .inl ⟨_, hgoal, by rw [hnode]; rfl⟩

/-- A step that does not go to a node leaves it as it is, unless it is a directory. -/
theorem Effected.kept (hnode : held.files.node? id = some node) (hkind : node.isDirectory = false)
    (hnot : ¬(outcome.ok = true ∧ errand.goal? p left.files = some id)) :
    left.files.node? id = some node := by
  cases h with
  | refused _ hleft => rw [hleft, hnode]
  | nowhere _ hleft | irregular _ hleft => rw [hleft, hnode]
  | filed hok hgoal hgained =>
      refine hgained.kept id node ?_ hnode hkind
      rintro rfl
      exact hnot ⟨hok, hgoal⟩

/-- A step that goes to a file adds its text to what it holds, or puts it in its place. -/
theorem Effected.written (hold : held.files.bytesOf? id = some old) :
    left.files.bytesOf? id =
      some (if outcome.ok = true ∧ errand.goal? p left.files = some id then errand.onto old
        else old) := by
  cases h with
  | refused hfailed hleft => rw [if_neg (by simp [hfailed]), hleft, hold]
  | nowhere _ hleft hnone => rw [if_neg (by simp [hnone]), hleft, hold]
  | @irregular other _ hleft hgoal _ hbytes =>
      rw [hleft, if_neg, hold]
      rintro ⟨-, hid⟩
      cases hgoal.symm.trans hid
      exact absurd (hbytes.symm.trans hold) (by simp)
  | @filed other before hok hgoal hgained hholds hbytes =>
      -- a step has one file; any other is as it was
      by_cases hid : other = id
      · subst hid
        have hsame : before = old := by
          rcases hholds with ⟨hnone, -⟩ | hbefore
          · exact absurd hold (by simp [Files.bytesOf?, hnone])
          · exact Option.some.inj (hbefore.symm.trans hold)
        rw [if_pos ⟨hok, hgoal⟩, hbytes, hsame]
      · rw [if_neg fun hgoes => hid (Option.some.inj (hgoal.symm.trans hgoes.2))]
        obtain ⟨node, hnode, hregular⟩ := Option.bind_eq_some_iff.mp hold
        unfold Files.bytesOf?
        rw [hgained.kept id node (Ne.symm hid) hnode (Files.isDirectory_of_bytes? hregular)]
        exact hregular

/-- What is new after a step is the file to which it has gone. -/
theorem Effected.made (hfresh : held.files.node? id = none) (hnode : left.files.node? id = some node) :
    (outcome.ok = true ∧ errand.goal? p left.files = some id) ∧
      left.files.bytesOf? id = some (errand.onto []) ∧
      node.mode = Files.withhold Files.freshMode p.mask := by
  cases h with
  | refused _ hleft => exact absurd (hfresh.symm.trans (hleft ▸ hnode)) (by simp)
  | nowhere _ hleft | irregular _ hleft =>
      rw [hleft, hfresh] at hnode
      cases hnode
  | @filed other before hok hgoal hgained hholds hbytes =>
      obtain ⟨rfl, hmode⟩ := hgained.fresh id node hfresh hnode
      have hnothing : before = [] := by
        rcases hholds with ⟨-, hnothing⟩ | hbefore
        · exact hnothing
        · exact absurd hbefore (by simp [Files.bytesOf?, hfresh])
      exact ⟨⟨hok, hgoal⟩, hnothing ▸ hbytes, hmode⟩

/-- A successful step leads in the end to where it has led. -/
theorem Effected.goal?_eq (hok : outcome.ok = true) (hrest : Carried start p left rest after) :
    errand.goal? p after.files = errand.goal? p left.files := by
  rcases h.led hok with ⟨id, hgoal, hthere⟩ | hnone
  · rw [hgoal, hrest.goal?_iff hthere, hgoal]
  · rw [hnone, hnone]

theorem Effected.goingTo_eq (hrest : Carried start p left rest after) :
    goingTo p after.files id ((errand, outcome) :: rest) =
      if outcome.ok = true ∧ errand.goal? p left.files = some id
        then errand :: goingTo p after.files id rest
      else goingTo p after.files id rest := by
  rw [goingTo_cons]
  by_cases hok : outcome.ok = true
  · rw [h.goal?_eq hok hrest]
  · rw [if_neg fun hgoes => hok hgoes.1, if_neg fun hgoes => hok hgoes.1]

end Effected

section Carried

variable {node : Node} (h : Carried start p held log after)

include h

theorem Carried.kept (hnode : held.files.node? id = some node) (hkind : node.isDirectory = false)
    (hnone : goingTo p after.files id log = []) : after.files.node? id = some node := by
  induction h with
  | nil => exact hnode
  | cons heffect hrest ih =>
      rw [(effected heffect).goingTo_eq hrest] at hnone
      split at hnone
      · cases hnone
      · rename_i hnot
        exact ih ((effected heffect).kept hnode hkind hnot) hnone

theorem Carried.written (hold : held.files.bytesOf? id = some old) :
    after.files.bytesOf? id = some (contentAfter (goingTo p after.files id log) old) := by
  induction h generalizing old with
  | nil => exact hold
  | cons heffect hrest ih =>
      -- the first step that goes to the file stands first in what is folded over what it held
      rw [ih ((effected heffect).written hold), (effected heffect).goingTo_eq hrest]
      split <;> rfl

theorem Carried.made (hfresh : held.files.node? id = none) (hnode : after.files.node? id = some node) :
    goingTo p after.files id log ≠ [] ∧
      after.files.bytesOf? id = some (contentAfter (goingTo p after.files id log) []) ∧
      node.mode = Files.withhold Files.freshMode p.mask := by
  induction h with
  | nil => exact absurd (hfresh.symm.trans hnode) (by simp)
  | @cons held between after errand outcome rest heffect hrest ih =>
      rw [(effected heffect).goingTo_eq hrest]
      -- the file is made by this step, or by one of the rest
      cases hbetween : between.files.node? id with
      | none =>
          rw [if_neg]
          · exact ih hbetween hnode
          · -- the step has led to something that was there then
            rintro ⟨hok, hgoal⟩
            rcases (effected heffect).led hok with ⟨other, hother, hthere⟩ | hnone
            · cases hother.symm.trans hgoal
              rw [hbetween] at hthere
              cases hthere
            · exact absurd ((hnone _).symm.trans hgoal) (by simp)
      | some middle =>
          obtain ⟨hgoes, hbytes, hmode⟩ := (effected heffect).made hfresh hbetween
          obtain ⟨changed, hchanged, hkept⟩ := hrest.modes hbetween
          cases hnode.symm.trans hchanged
          rw [if_pos hgoes, hrest.written hbytes]
          exact ⟨List.cons_ne_nil _ _, rfl, hkept.trans hmode⟩

theorem Carried.led : ∀ entry ∈ log, entry.2.ok = true →
    (∃ id, entry.1.goal? p after.files = some id ∧ (after.files.node? id).isSome = true) ∨
      ∀ files, entry.1.goal? p files = none := by
  induction h with
  | nil => exact fun entry hentry => absurd hentry List.not_mem_nil
  | cons heffect hrest ih =>
      intro entry hentry hok
      rcases List.mem_cons.mp hentry with rfl | hentry
      · rcases (effected heffect).led hok with ⟨id, hgoal, hthere⟩ | hnone
        · obtain ⟨node, hnode⟩ := Option.isSome_iff_exists.mp hthere
          obtain ⟨changed, hchanged, -⟩ := hrest.modes hnode
          exact .inl ⟨id, (hrest.goal?_iff hthere).mpr hgoal, by rw [hchanged]; rfl⟩
        · exact .inr hnone
      · exact ih entry hentry hok

/-- What steps come to upholds the files. -/
theorem Carried.upheld : Upheld p held.files log after.files where
  found := fun _ hid _ _ => h.found hid
  modes := fun _ _ hnode => by
    obtain ⟨changed, hchanged, hmode⟩ := h.modes hnode
    exact ⟨changed, hchanged, by unfold rwx; rw [hmode]⟩
  kept := fun _ _ => h.kept
  written := fun _ _ => h.written
  made := fun id node hfresh hnode => by
    obtain ⟨hgone, hbytes, hmode⟩ := h.made hfresh hnode
    have hcontent := Files.bytesOf?_eq_some.mp hbytes
    rw [hnode] at hcontent
    refine ⟨hgone, Option.some.inj hcontent, fun bit => ?_⟩
    rw [hmode, Files.testBit_withhold_freshMode]
  led := h.led

end Carried

/-! ## Steps that fail, and steps after a trial -/

/-- A step that fails changes nothing, so it can be left out. -/
theorem Carried.left_out
    (h : Carried start p held (before ++ (errand, outcome) :: behind) after)
    (hfailed : outcome.ok = false) : Carried start p held (before ++ behind) after := by
  obtain ⟨between, hbefore, hstep⟩ := carried_append.mp h
  cases hstep with
  | cons heffect hbehind =>
      refine carried_append.mpr ⟨between, hbefore, ?_⟩
      cases effected heffect with
      | refused _ hleft => exact hleft ▸ hbehind
      | nowhere hok | irregular hok | filed hok => exact absurd (hok.symm.trans hfailed) (by simp)

/-- A step that succeeds has opened its target; and where it can open it, it succeeds if nothing is
to be written or if its path leads to a regular file. -/
theorem ok_iff_opens (h : errand.effect? start p held = some (outcome, left))
    (htakes : errand.bytes = [] ∨
      ∃ id bytes, errand.goal? p left.files = some id ∧ left.files.bytesOf? id = some bytes) :
    outcome.ok = true ↔ errand.Opens start p held.files := by
  constructor
  · intro hok
    rw [opens_iff_land]
    unfold Errand.effect? at h
    cases hland : land start p held.files errand.target with
    | error failure =>
        rw [hland] at h
        cases h
        exact absurd (hok.symm.trans ok_answer) (by simp [Except.isOk, Except.toBool])
    | ok landed => exact ⟨landed, rfl⟩
  · intro hopens
    cases effected h with
    | refused _ hleft hcannot =>
        rcases hcannot with hnot | ⟨hwrites, hirregular⟩
        · exact absurd hopens hnot
        · rcases htakes with hnothing | ⟨id, bytes, hgoal, hbytes⟩
          · exact absurd hnothing hwrites
          · rw [hleft] at hgoal hbytes
            exact absurd ((hirregular id hgoal).symm.trans hbytes) (by simp)
    | nowhere hok | irregular hok | filed hok => exact hok

theorem bytes_trial (target : Target) : (⟨target, none⟩ : Errand).bytes = [] :=
  Errand.bytesOf_eq_nil_iff.mpr rfl

/-- What has been opened is opened again as the same, and nothing changes. -/
theorem land_again {target : Target} {endpoint : Endpoint} (hmask : p.mask &&& Files.writeBit = 0)
    (h : land start p files target = .ok (endpoint, later)) :
    land start p later target = .ok (endpoint, later) := by
  obtain ⟨path, hpath, hlimit, hend⟩ := land_eq_ok.mp h
  have hagain := endpointAt_again (writing target.mode) hmask hend
  exact land_eq_ok.mpr ⟨path, hpath, hlimit, hagain⟩

/-- A trial comes to an end, and a step with the same target that follows it comes to what it would
come to without it. -/
theorem effect?_again (start : System α) (held : Holdings) (target : Target)
    (hmask : p.mask &&& Files.writeBit = 0) :
    ∃ tried between, (⟨target, none⟩ : Errand).effect? start p held = some (tried, between) ∧
      ∀ text?, (⟨target, text?⟩ : Errand).effect? start p between =
        (⟨target, text?⟩ : Errand).effect? start p held := by
  cases hland : land start p held.files target with
  | error failure =>
      refine ⟨(⟨target, none⟩ : Errand).answer (.error failure), held, ?_, fun _ => rfl⟩
      unfold Errand.effect?
      rw [hland]
  | ok landed =>
      obtain ⟨endpoint, files⟩ := landed
      refine ⟨(⟨target, none⟩ : Errand).answer (.ok ()), { held with files := files }, ?_,
        fun text? => ?_⟩
      · unfold Errand.effect?
        rw [hland]
        dsimp only
        rw [if_pos (bytes_trial target)]
      · unfold Errand.effect?
        dsimp only
        rw [hland, land_again hmask hland]

/-- A trial of the target before a step makes no difference. -/
theorem carried_trial_iff {target : Target} {text : String} {written : Outcome}
    (hmask : p.mask &&& Files.writeBit = 0) :
    (∃ tried, Carried start p held
      (before ++ (⟨target, none⟩, tried) :: (⟨target, some text⟩, written) :: behind) after) ↔
      Carried start p held (before ++ (⟨target, some text⟩, written) :: behind) after := by
  simp only [carried_append]
  constructor
  · rintro ⟨tried, between, hbefore, hstep⟩
    refine ⟨between, hbefore, ?_⟩
    cases hstep with
    | cons htrial hstep =>
        cases hstep with
        | cons heffect hbehind =>
            obtain ⟨tried', middle, htrial', hagain⟩ :=
              effect?_again start between target hmask
            cases htrial.symm.trans htrial'
            exact .cons ((hagain _).symm.trans heffect) hbehind
  · rintro ⟨between, hbefore, hstep⟩
    cases hstep with
    | cons heffect hbehind =>
        obtain ⟨tried, middle, htrial, hagain⟩ :=
          effect?_again start between target hmask
        exact ⟨tried, between, hbefore, .cons htrial (.cons ((hagain _).trans heffect) hbehind)⟩

/-! ## A process that runs by itself -/

/-- The law of redirections: what a process that tries targets and writes texts to them comes to. -/
structure ContentLaw (launch : Launcher) (start : System (List Outcome))
    (p : Process (List Outcome)) : Prop where
  /-- What any steps leave in the files. -/
  upheld : ∀ log after, Comes launch start p log after → Upheld p start.files log after.files
  /-- A step succeeds exactly where its target can be opened, if nothing is to be written or if its
  path leads to a regular file. -/
  opens : ∀ before errand outcome between after, Comes launch start p before between →
    Comes launch start p (before ++ [(errand, outcome)]) after →
    (errand.bytes = [] ∨
      ∃ id bytes, errand.goal? p after.files = some id ∧ after.files.bytesOf? id = some bytes) →
    (outcome.ok = true ↔ errand.Opens start p between.files)
  /-- A step that fails changes nothing: without it, all the others come to the same. -/
  refused : ∀ before errand outcome behind after, outcome.ok = false →
    Comes launch start p (before ++ (errand, outcome) :: behind) after →
    Comes launch start p (before ++ behind) after
  /-- A trial before a step with the same target makes no difference, unless the permission to write
  is withheld from the owner of a new file. -/
  tried : p.mask &&& Files.writeBit = 0 → ∀ before target text written behind after,
    (∃ tried, Comes launch start p
      (before ++ (⟨target, none⟩, tried) :: (⟨target, some text⟩, written) :: behind) after) ↔
    Comes launch start p (before ++ (⟨target, some text⟩, written) :: behind) after
  /-- Steps come to one thing only. -/
  unique : ∀ log other after last, Comes launch start p log after →
    Comes launch start p other last → log.map Prod.fst = other.map Prod.fst →
    log = other ∧ after = last
  /-- Steps come to an end, unless one of them may have to wait for room in a pipe. -/
  total : ∀ errands : List Errand,
    (∀ errand ∈ errands, ∀ path, cleanBytes errand.target.path = .ok path → ¬p.NamesPipe path) →
    ∃ log after, log.map Prod.fst = errands ∧ Comes launch start p log after

/-- **The contents of redirections.** A process of a sound machine tries targets and writes texts to
them, in any order and under any names. In the end, every regular file holds what the steps that have
succeeded and lead to it have made of what it held: with `>` the text of the step alone, with `>>` the
text at the end of the rest, and no text for a trial. A file that was missing has been made, with the
permission bits that the mask leaves; one that was there has the bits that it had, and where no step
leads to it, it is as it was. A step that fails changes nothing, and a trial before a step with the
same target makes no difference. -/
theorem contents_of_errands (launch : Launcher) {start : System (List Outcome)}
    {p : Process (List Outcome)} (hable : Able start p) : ContentLaw launch start p := by
  have hcomes : ∀ {log after}, Comes launch start p log after ↔
      Carried start p ⟨start.files, start.pipes⟩ log after := comes_iff_carried launch hable
  refine ⟨fun log after h => ?_, fun before errand outcome between after hbefore h htakes => ?_,
    fun before errand outcome behind after hfailed h => ?_,
    fun hmask before target text written behind after => ?_,
    fun log other after last h hother hsame => ?_, fun errands hpipes => ?_⟩
  · exact (hcomes.mp h).upheld
  · obtain ⟨middle, hmiddle, hstep⟩ := carried_append.mp (hcomes.mp h)
    obtain ⟨-, rfl⟩ := (hcomes.mp hbefore).unique hmiddle rfl
    cases hstep with
    | cons heffect hrest =>
        cases hrest
        exact ok_iff_opens heffect htakes
  · exact hcomes.mpr ((hcomes.mp h).left_out hfailed)
  · simp only [hcomes]
    exact carried_trial_iff hmask
  · exact (hcomes.mp h).unique (hcomes.mp hother) hsame
  · obtain ⟨log, after, hsame, h⟩ := exists_carried start ⟨start.files, start.pipes⟩ hpipes
    exact ⟨log, after, hsame, hcomes.mpr h⟩

/-! ## A file that is added to, and one that is made -/

/-- A directory with a file that holds these bytes, with a directory, and with more names. -/
def ledgerFiles (bytes : Bytes) (names : List (Bytes × NodeId)) (more : List Node) : Files where
  nodes := [
    { content := .directory Files.root (([102], 1) :: ([100], 2) :: names), mode := 0o755 },
    { content := .regular bytes, mode := 0o600 },
    { content := .directory Files.root [], mode := 0o755 }] ++ more
  guarded := true

/-- A process in that directory. -/
def ledgerProcess : Process (List Outcome) where
  pid := 1
  parent := 0
  program := .pure []
  table := [Fd.stdin, Fd.stdout, Fd.stderr].map fun fd =>
    (fd, ⟨⟨.terminal, { read := true, write := true }, 0⟩, false⟩)
  limit := 64
  directory := Files.root
  bindings := []
  pending := []
  ending := none

/-- A machine with nothing but the process. -/
def ledgerMachine : System (List Outcome) where
  files := ledgerFiles [97, 98] [] []
  cells := [0]
  pipes := []
  typed := []
  processes := [ledgerProcess]
  nextPid := 2

/-- The process adds to the file, fails at the directory, tries a file that is missing and adds to
it. -/
def ledgerLog : Log := [
  (⟨⟨"f", .append⟩, some "c"⟩, .written (.ok ())),
  (⟨⟨"d", .truncate⟩, some "x"⟩, .written (.error (.system .isDirectory))),
  (⟨⟨"g", .truncate⟩, none⟩, .tried (.ok ())),
  (⟨⟨"g", .append⟩, some "y"⟩, .written (.ok ()))]

/-- What is left when the file has been added to. -/
def ledgerAdded : Holdings := ⟨ledgerFiles [97, 98, 99] [] [], []⟩

/-- What is left when a file with these bytes has been made, too. -/
def ledgerMade (bytes : Bytes) : Holdings :=
  ⟨ledgerFiles [97, 98, 99] [([103], 3)] [{ content := .regular bytes, mode := 0o644 }], []⟩

theorem able_ledger : Able ledgerMachine ledgerProcess :=
  ⟨.of_terminal rfl (by decide) (by unfold Table.Ordered; decide) rfl (by decide),
    List.mem_cons_self, rfl⟩

theorem carried_ledger : Carried ledgerMachine ledgerProcess ⟨ledgerFiles [97, 98] [] [], []⟩ ledgerLog
    (ledgerMade [121]) := by
  have hadded : (⟨⟨"f", .append⟩, some "c"⟩ : Errand).effect? ledgerMachine ledgerProcess
      ⟨ledgerFiles [97, 98] [] [], []⟩ = some (.written (.ok ()), ledgerAdded) := by cbv
  have hfailed : (⟨⟨"d", .truncate⟩, some "x"⟩ : Errand).effect? ledgerMachine ledgerProcess
      ledgerAdded =
      some (.written (.error (.system .isDirectory)), ledgerAdded) := by cbv
  have htried : (⟨⟨"g", .truncate⟩, none⟩ : Errand).effect? ledgerMachine ledgerProcess
      ledgerAdded =
      some (.tried (.ok ()), ledgerMade []) := by cbv
  have hmade : (⟨⟨"g", .append⟩, some "y"⟩ : Errand).effect? ledgerMachine ledgerProcess
      (ledgerMade []) =
      some (.written (.ok ()), ledgerMade [121]) := by cbv
  exact .cons hadded (.cons hfailed (.cons htried (.cons hmade .nil)))

/-- The process comes to that, and what it leaves is as the law has it. -/
theorem ledger_contents : Able ledgerMachine ledgerProcess ∧
    ContentLaw (fun _ _ => none) ledgerMachine ledgerProcess ∧
    Comes (fun _ _ => none) ledgerMachine ledgerProcess ledgerLog
      (ledgerMade [121]) ∧
    Upheld ledgerProcess (ledgerFiles [97, 98] [] []) ledgerLog (ledgerMade [121]).files := by
  have hlaw := contents_of_errands (fun _ _ => none) able_ledger
  have hcomes := (comes_iff_carried (fun _ _ => none) able_ledger).mpr carried_ledger
  exact ⟨able_ledger, hlaw, hcomes, hlaw.upheld _ _ hcomes⟩

end LineShell.Errands
