import LineShell.Proofs.Line.Agreement
import LineShell.Proofs.Pipeline.Promise
import LineShell.Proofs.Shell.Deposits

/-!
# What the inspection of a line does to the files

A line is inspected before it runs: its structure is checked, and if nothing is wrong with it, the
file of the redirection at its end is opened and given up again. That makes the file, or empties it,
so it must not happen to a line that is refused.

* **`asks_inspect`** — a file is opened only behind all the checks, and only the one at the end;
* **`readied_of_opened`** — what has been opened is ready to be written, and all else is as it was;
* **`exists_inspects`** — what an inspection comes to, and what it leaves;
* **`files_of_inspection`** — all this of a process that inspects a line by itself.
-/

namespace LineShell.Trials

open LineShell.System LineShell.Course LineShell.Errands Prog Structure

/-- What is said of a line. -/
abbrev Verdict := Except LineFault Unit

variable {launch : Launcher} {start s s' : System Verdict} {p : Process Verdict}
  {tokens : List Token} {mode : WriteMode} {path : String} {verdict other : Verdict}
  {before after : Files} {mask : Nat} {id : NodeId}

/-! ## Requests -/

/-- What an inspection may ask the system for: if the line passes its checks and ends with a
redirection, to open the file of that redirection and to give it up. -/
inductive Trial (tokens : List Token) : Call → Prop
  | opens {mode : WriteMode} {path : String} {bytes : Bytes} : lacksCommand tokens = false →
      lacksFile tokens = false → misplacesRedirection tokens = false →
      tokens.getLast? = some (.redirect mode path) → cleanBytes path = .ok bytes →
      Trial tokens (.openPath bytes mode.access true)
  | closes {mode : WriteMode} {path : String} {fd : Fd} : check tokens = .ok () →
      tokens.getLast? = some (.redirect mode path) → Trial tokens (.close fd)

theorem target?_eq_some_iff :
    target? tokens = some ⟨path, mode⟩ ↔ tokens.getLast? = some (.redirect mode path) := by
  unfold target?
  constructor
  · intro h
    split at h
    · next hlast =>
      cases h
      exact hlast
    · cases h
  · intro h
    rw [h]

theorem inspect_of_fault {fault : LineFault} (h : check tokens = .error fault) :
    inspect tokens = .pure (.error fault) := by
  unfold inspect
  rw [h]
  rfl

theorem inspect_of_plain (h : check tokens = .ok ()) (htarget : target? tokens = none) :
    inspect tokens = .pure (.ok ()) := by
  unfold inspect
  rw [h, htarget]
  rfl

theorem inspect_of_target {target : Target} (h : check tokens = .ok ())
    (htarget : target? tokens = some target) : inspect tokens = target.preflight := by
  unfold inspect
  rw [h, htarget]

theorem asks_inspect (tokens : List Token) : Asks (Trial tokens) (inspect tokens) := by
  cases hcheck : check tokens with
  | error fault =>
      rw [inspect_of_fault hcheck]
      exact .pure
  | ok done =>
      cases htarget : target? tokens with
      | none =>
          rw [inspect_of_plain hcheck htarget]
          exact .pure
      | some target =>
          obtain ⟨path, mode⟩ := target
          have hlast := target?_eq_some_iff.mp htarget
          obtain ⟨hcommand, hfile, hplace⟩ := Pipeline.check_eq_ok_iff.mp hcheck
          rw [inspect_of_target hcheck htarget]
          unfold Target.preflight Target.openFile
          dsimp only
          cases hbytes : cleanBytes path with
          | error word => exact .pure
          | ok bytes =>
              refine .ask (.opens hcommand hfile hplace hlast hbytes) fun answer => ?_
              cases answer with
              | error errno => exact .pure
              | ok fd => exact .ask (.closes hcheck hlast) fun _ => .pure

/-- Of several redirections, one stands before the end of the line. -/
theorem misplaces_of_several (h : 1 < tokens.countP Token.isRedirect) :
    misplacesRedirection tokens = true := by
  have hne : tokens ≠ [] := by
    rintro rfl
    exact absurd h (by decide)
  -- the last token is one redirection at most
  rw [← List.dropLast_append_getLast hne, List.countP_append, List.countP_singleton] at h
  unfold misplacesRedirection
  rw [List.any_eq_true, ← List.countP_pos_iff]
  split at h <;> omega

/-- A line with several redirections is refused, and the system is asked for nothing. -/
theorem inspect_of_several (h : 1 < tokens.countP Token.isRedirect) :
    ∃ fault, inspect tokens = .pure (.error fault) := by
  cases hcheck : check tokens with
  | error fault => exact ⟨fault, inspect_of_fault hcheck⟩
  | ok done =>
      obtain ⟨-, -, hplace⟩ := Pipeline.check_eq_ok_iff.mp hcheck
      rw [misplaces_of_several h] at hplace
      cases hplace

/-! ## A file that is ready to be written -/

/-- What a redirection leaves of what its file holds before anything is written. -/
def remaining : WriteMode → Bytes → Bytes
  | .truncate, _ => []
  | .append, old => old

/-- A file has been made ready to be written: it is there, and holds nothing or what it held. What is
no regular file is as it was, and so is all else, but for a directory in which the file is new. -/
structure Readied (mask : Nat) (mode : WriteMode) (before after : Files) (id : NodeId) : Prop where
  there : (after.node? id).isSome = true
  content : ∀ old, before.Holds id old → after.bytesOf? id = some (remaining mode old)
  irregular : before.node? id ≠ none → before.bytesOf? id = none → after = before
  others : ∀ other, other ≠ id → after.node? other = before.node? other ∨
    ∃ name, Files.Entered before after other name id
  gained : Files.Gained mask before after id

theorem eq_of_holds {files : Files} {old bytes : Bytes} (h : files.Holds id old)
    (hother : files.Holds id bytes) : old = bytes := by
  have hmissing : files.node? id = none → files.bytesOf? id = none := by
    intro hnone
    unfold Files.bytesOf?
    rw [hnone]
    rfl
  rcases h with ⟨hnone, rfl⟩ | hold <;> rcases hother with ⟨hnone', rfl⟩ | hbytes
  · rfl
  · rw [hmissing hnone] at hbytes
    cases hbytes
  · rw [hmissing hnone'] at hold
    cases hold
  · exact Option.some.inj (hold.symm.trans hbytes)

theorem others_of_opened {access : Access} (h : Files.Opened mask access before after id)
    {node : NodeId} (hnode : node ≠ id) : after.node? node = before.node? node ∨
      ∃ name, Files.Entered before after node name id := by
  cases h with
  | kept _ _ _ hlater =>
      left
      rw [hlater]
      unfold Files.afterOpening
      split
      · exact Files.node?_setBytes (Ne.symm hnode)
      · rfl
  | @made directory name hentered _ =>
      by_cases hdirectory : node = directory
      · right
        exact ⟨name, hdirectory ▸ hentered⟩
      · left
        exact hentered.kept node hdirectory hnode

/-- What has been opened to be written is ready for it. -/
theorem readied_of_opened (h : Files.Opened mask mode.access before after id) :
    Readied mask mode before after id := by
  have hremaining : ∀ old : Bytes,
      (if mode.access.truncate then [] else old) = remaining mode old := by
    intro old
    cases mode <;> rfl
  -- what is opened is a regular file then, or there and none, and then it is as it was
  refine ⟨?_, ?_, ?_, fun other hother => others_of_opened h hother, h.gained⟩
  · rcases h.holds with ⟨old, -, hbytes⟩ | ⟨hthere, -, rfl⟩
    · obtain ⟨node, hnode, -⟩ := Option.bind_eq_some_iff.mp hbytes
      rw [hnode]
      rfl
    · exact Option.isSome_iff_ne_none.mpr hthere
  · intro old hold
    rcases h.holds with ⟨bytes, hheld, hbytes⟩ | ⟨hthere, hnone, -⟩
    · rw [eq_of_holds hold hheld, hbytes, hremaining]
    · rcases hold with ⟨hmissing, -⟩ | hold
      · exact absurd hmissing hthere
      · rw [hnone] at hold
        cases hold
  · intro hthere hnone
    rcases h.holds with ⟨bytes, ⟨hmissing, -⟩ | hheld, -⟩ | ⟨-, -, hlater⟩
    · exact absurd hmissing hthere
    · rw [hnone] at hheld
      cases hheld
    · exact hlater

/-! ## What an inspection comes to -/

/-- What is said when a target has been tried. -/
def saying : Outcome → Prog Verdict
  | .tried verdict => .pure verdict
  | .written result => .pure (result.mapError fun _ => .cannotOpenFile)

theorem preflight_eq (target : Target) :
    target.preflight = (⟨target, none⟩ : Errand).run.bind saying := by
  show target.preflight = (target.preflight.bind fun verdict => .pure (.tried verdict)).bind saying
  rw [Prog.bind_assoc]
  exact (Prog.bind_pure _).symm

/-- Where a path leads whose file an inspection has tried, and what that leaves. -/
inductive Tried (p : Process Verdict) (mode : WriteMode) (bytes : Bytes) (before after : Files) : Prop
  | file {id : NodeId} : p.goal? after bytes = some id → Readied p.mask mode before after id →
      Tried p mode bytes before after
  /-- The path stands for an open file that is no node. -/
  | elsewhere : (∀ files, p.goal? files bytes = none) → after = before →
      Tried p mode bytes before after

/-- What is said of a line, by what is found, and what is left of the files. -/
inductive Judged (start : System Verdict) (p : Process Verdict) (tokens : List Token) :
    Verdict → Files → Prop
  | faulty {fault : LineFault} : check tokens = .error fault →
      Judged start p tokens (.error fault) start.files
  | plain : check tokens = .ok () → target? tokens = none →
      Judged start p tokens (.ok ()) start.files
  | denied {target : Target} : check tokens = .ok () → target? tokens = some target →
      ¬(⟨target, none⟩ : Errand).Opens start p start.files →
      Judged start p tokens (.error .cannotOpenFile) start.files
  | tried {target : Target} {bytes : Bytes} {after : Files} : check tokens = .ok () →
      target? tokens = some target → (⟨target, none⟩ : Errand).Opens start p start.files →
      cleanBytes target.path = .ok bytes → Tried p target.mode bytes start.files after →
      Judged start p tokens (.ok ()) after

namespace Judged

theorem refused {fault : LineFault} (h : Judged start p tokens (.error fault) after) :
    after = start.files := by
  cases h <;> rfl

theorem unchanged (h : Judged start p tokens (.ok ()) after)
    (hnone : ∀ mode path, tokens.getLast? ≠ some (.redirect mode path)) : after = start.files := by
  cases h with
  | plain => rfl
  | @tried target _ _ _ htarget =>
      exact absurd (target?_eq_some_iff.mp htarget) (hnone target.mode target.path)

theorem redirected (h : Judged start p tokens (.ok ()) after)
    (hlast : tokens.getLast? = some (.redirect mode path)) :
    ∃ bytes, cleanBytes path = .ok bytes ∧ Tried p mode bytes start.files after := by
  have htarget := target?_eq_some_iff.mpr hlast
  cases h with
  | plain _ hnone => exact absurd (htarget.symm.trans hnone) (by simp)
  | tried _ htarget' _ hbytes htried =>
      cases htarget.symm.trans htarget'
      exact ⟨_, hbytes, htried⟩

theorem passes (h : Judged start p tokens verdict after) : verdict = .ok () ↔
    check tokens = .ok () ∧ ∀ target, target? tokens = some target →
      (⟨target, none⟩ : Errand).Opens start p start.files := by
  cases h with
  | faulty hcheck => simp [hcheck]
  | plain hcheck htarget => simp [hcheck, htarget]
  | denied hcheck htarget hnot => simp [hcheck, htarget, hnot]
  | tried hcheck htarget hopens => simp [hcheck, htarget, hopens]

end Judged

/-- A process inspects a line and does nothing else, while the others stand still: it comes to an end
with what is said of the line, and this is the machine then. -/
def Inspects (launch : Launcher) (start : System Verdict) (p : Process Verdict) (tokens : List Token)
    (verdict : Verdict) (s : System Verdict) : Prop :=
  ∃ q, Steps launch p.pid (start.setProcess { p with program := inspect tokens }) s ∧
    s.process? p.pid = some q ∧ q.program = .pure verdict

theorem Inspects.unique (h : Inspects launch start p tokens verdict s)
    (hother : Inspects launch start p tokens other s') : verdict = other ∧ s = s' := by
  obtain ⟨q, hsteps, hq, hprogram⟩ := h
  obtain ⟨q', hsteps', hq', hprogram'⟩ := hother
  -- both have come to an end, and there is one way to get there
  obtain rfl := hsteps.eq_of_last hsteps' (step_of_pure hq hprogram) (step_of_pure hq' hprogram')
  cases hq.symm.trans hq'
  exact ⟨Prog.pure.inj (hprogram.symm.trans hprogram'), rfl⟩

/-- A trial comes to what its target is opened as. -/
theorem exists_tried (launch : Launcher) (hable : Able start p) (target : Target)
    (h : Stands start { p with program := target.preflight } ⟨start.files, start.pipes⟩ s) :
    ∃ verdict after s', Steps launch p.pid s s' ∧
      Stands start { p with program := .pure verdict } ⟨after, start.pipes⟩ s' ∧
      (verdict = .error .cannotOpenFile ∧ after = start.files ∧
          ¬(⟨target, none⟩ : Errand).Opens start p start.files ∨
        verdict = .ok () ∧ (⟨target, none⟩ : Errand).Opens start p start.files ∧
          ∃ bytes, cleanBytes target.path = .ok bytes ∧
            Tried p target.mode bytes start.files after) := by
  -- a trial is an errand without a text
  rw [preflight_eq] at h
  obtain ⟨s', hsteps, hreached⟩ := h.reaches launch hable
  unfold Errand.effect? at hreached
  dsimp only at hreached
  cases hland : land start p start.files target with
  | error failure =>
      rw [hland] at hreached
      exact ⟨_, _, s', hsteps, hreached, .inl ⟨rfl, rfl, not_opens_of_land hland⟩⟩
  | ok landed =>
      obtain ⟨endpoint, after⟩ := landed
      rw [hland] at hreached
      dsimp only at hreached
      rw [if_pos (bytes_trial target)] at hreached
      obtain ⟨bytes, hbytes, hlanded⟩ := landed_of_land hland
      refine ⟨_, after, s', hsteps, hreached,
        .inr ⟨rfl, opens_iff_land.mpr ⟨_, hland⟩, bytes, hbytes, ?_⟩⟩
      cases hlanded with
      | node hgoal hopened => exact .file hgoal (readied_of_opened hopened)
      | terminal hnowhere hlater | pipe hnowhere hlater => exact .elsewhere hnowhere hlater

/-- Where an inspection has come to an end: what is said and what is left of the files goes together,
and the rest is as it was. -/
structure Concluded (start : System Verdict) (p : Process Verdict) (tokens : List Token)
    (verdict : Verdict) (s : System Verdict) : Prop where
  judged : Judged start p tokens verdict s.files
  pipes : s.pipes = start.pipes
  processes : s.processes = (start.setProcess { p with program := .pure verdict }).processes

theorem concluded_of_stands {program : Prog Verdict} (hable : Able start p)
    (hprogram : inspect tokens = program)
    (hsteps : Steps launch p.pid (start.setProcess { p with program := program }) s)
    (hstands : Stands start { p with program := .pure verdict } ⟨after, start.pipes⟩ s)
    (hjudged : Judged start p tokens verdict after) :
    ∃ verdict s, Inspects launch start p tokens verdict s ∧ Concluded start p tokens verdict s := by
  obtain rfl : s.files = after := hstands.files
  subst hprogram
  exact ⟨verdict, s, ⟨_, hsteps, hstands.process? hable rfl, rfl⟩,
    ⟨hjudged, hstands.pipes, hstands.processes⟩⟩

variable (launch) in
/-- **An inspection comes to an end**, and leaves the files as is told and all else as it was. -/
theorem exists_inspects (hable : Able start p) (tokens : List Token) :
    ∃ verdict s, Inspects launch start p tokens verdict s ∧ Concluded start p tokens verdict s := by
  have hbegin : ∀ program : Prog Verdict, Stands start { p with program := program }
      ⟨start.files, start.pipes⟩ (start.setProcess { p with program := program }) :=
    fun _ => ⟨rfl, rfl, rfl, rfl⟩
  cases hcheck : check tokens with
  | error fault =>
      exact concluded_of_stands hable (inspect_of_fault hcheck) .refl (hbegin _) (.faulty hcheck)
  | ok done =>
      cases htarget : target? tokens with
      | none =>
          exact concluded_of_stands hable (inspect_of_plain hcheck htarget) .refl (hbegin _)
            (.plain hcheck htarget)
      | some target =>
          obtain ⟨verdict, after, s, hsteps, hstands, hresult⟩ :=
            exists_tried launch hable target (hbegin target.preflight)
          refine concluded_of_stands hable (inspect_of_target hcheck htarget) hsteps hstands ?_
          rcases hresult with ⟨rfl, rfl, hnot⟩ | ⟨rfl, hopens, bytes, hbytes, htried⟩
          · exact .denied hcheck htarget hnot
          · exact .tried hcheck htarget hopens hbytes htried

/-! ## The law -/

/-- What an inspection says of a line, and what it does to the files. -/
structure InspectionLaw (launch : Launcher) (start : System Verdict) (p : Process Verdict)
    (tokens : List Token) : Prop where
  /-- A file is opened only behind all the checks, and only that of a redirection at the end. -/
  asks : Asks (Trial tokens) (inspect tokens)
  /-- The inspection comes to an end, in one way only. -/
  total : ∃ verdict s, Inspects launch start p tokens verdict s
  unique : ∀ verdict s other s', Inspects launch start p tokens verdict s →
    Inspects launch start p tokens other s' → verdict = other ∧ s = s'
  /-- The line passes if nothing is wrong with its structure and its file can be opened. -/
  passes : ∀ verdict s, Inspects launch start p tokens verdict s →
    (verdict = .ok () ↔ check tokens = .ok () ∧ ∀ target, target? tokens = some target →
      (⟨target, none⟩ : Errand).Opens start p start.files)
  /-- The pipes are as they were, and so are the processes: no file is left open. -/
  rest : ∀ verdict s, Inspects launch start p tokens verdict s → s.pipes = start.pipes ∧
    s.processes = (start.setProcess { p with program := .pure verdict }).processes
  /-- A line that is refused has changed nothing. -/
  refused : ∀ fault s, Inspects launch start p tokens (.error fault) s → s.files = start.files
  /-- A line that passes has changed nothing, unless it ends with a redirection. -/
  plain : ∀ s, Inspects launch start p tokens (.ok ()) s →
    (∀ mode path, tokens.getLast? ≠ some (.redirect mode path)) → s.files = start.files
  /-- If it does, the file of the redirection is ready to be written. -/
  redirected : ∀ mode path s, tokens.getLast? = some (.redirect mode path) →
    Inspects launch start p tokens (.ok ()) s →
    ∃ bytes, cleanBytes path = .ok bytes ∧ Tried p mode bytes start.files s.files
  /-- Where there are several redirections, nothing is asked for at all. -/
  several : 1 < tokens.countP Token.isRedirect → ∃ fault, inspect tokens = .pure (.error fault)

/-- **What an inspection does to the files.** A process of a sound machine inspects a line, whatever
its tokens are. If the line is refused, for whatever reason, nothing has changed; and a file is opened
only if the line has a command in each stage, names a file and has its only redirection at the end. If
the line passes and ends with a redirection, the file that its path leads to is there then: it is
empty for `>`, and holds what it held for `>>`, and all else is as it was. If it passes without one,
nothing has changed. -/
theorem files_of_inspection (launch : Launcher) (hable : Able start p) (tokens : List Token) :
    InspectionLaw launch start p tokens := by
  -- whatever an inspection comes to is what it is known to come to
  have hconcluded : ∀ {verdict s}, Inspects launch start p tokens verdict s →
      Concluded start p tokens verdict s := by
    intro verdict s h
    obtain ⟨other, s', hother, hconcluded⟩ := exists_inspects launch hable tokens
    obtain ⟨rfl, rfl⟩ := h.unique hother
    exact hconcluded
  obtain ⟨verdict, s, hinspects, -⟩ := exists_inspects launch hable tokens
  exact
    { asks := asks_inspect tokens
      total := ⟨verdict, s, hinspects⟩
      unique := fun _ _ _ _ h hother => h.unique hother
      passes := fun _ _ h => (hconcluded h).judged.passes
      rest := fun _ _ h => ⟨(hconcluded h).pipes, (hconcluded h).processes⟩
      refused := fun _ _ h => (hconcluded h).judged.refused
      plain := fun _ h hnone => (hconcluded h).judged.unchanged hnone
      redirected := fun _ _ _ hlast h => (hconcluded h).judged.redirected hlast
      several := inspect_of_several }

/-! ## A file that is emptied -/

/-- A process in a directory with a file and a directory. -/
def shelfProcess : Process Verdict := { ledgerProcess with program := .pure (.ok ()) }

/-- A machine with nothing but the process. -/
def shelfMachine : System Verdict := { ledgerMachine with processes := [shelfProcess] }

/-- A command whose output is to replace what the file holds. -/
def shelfLine : List Token := [.word "echo", .redirect .truncate "f"]

theorem able_shelf : Able shelfMachine shelfProcess :=
  ⟨.of_terminal rfl (by decide) (by unfold Table.Ordered; decide) rfl (by decide),
    List.mem_cons_self, rfl⟩

/-- The line passes, and its file is empty then; the directory beside it is as it was. -/
theorem shelf_emptied : Able shelfMachine shelfProcess ∧
    InspectionLaw (fun _ _ => none) shelfMachine shelfProcess shelfLine ∧
    ∃ s, Inspects (fun _ _ => none) shelfMachine shelfProcess shelfLine (.ok ()) s ∧
      shelfMachine.files.bytesOf? 1 = some [97, 98] ∧ s.files.bytesOf? 1 = some [] ∧
      s.files.node? 2 = shelfMachine.files.node? 2 := by
  have hlaw := files_of_inspection (fun _ _ => none) able_shelf shelfLine
  obtain ⟨verdict, s, hinspects⟩ := hlaw.total
  have hopens : (⟨⟨"f", .truncate⟩, none⟩ : Errand).Opens shelfMachine shelfProcess
      shelfMachine.files := ⟨[102], 3, by cbv, by cbv⟩
  obtain rfl : verdict = .ok () := by
    refine (hlaw.passes verdict s hinspects).mpr ⟨by decide, fun target htarget => ?_⟩
    cases htarget
    exact hopens
  refine ⟨able_shelf, hlaw, s, hinspects, by cbv, ?_⟩
  obtain ⟨bytes, hbytes, htried⟩ := hlaw.redirected .truncate "f" s rfl hinspects
  obtain rfl : [102] = bytes := Except.ok.inj ((by cbv : cleanBytes "f" = .ok [102]).symm.trans hbytes)
  have hfound : shelfMachine.files.find Files.root [102] = .ok 1 := by cbv
  have hnode : shelfMachine.files.node? 1 = some { content := .regular [97, 98], mode := 0o600 } := rfl
  cases htried with
  | elsewhere hnone =>
      have hgoal : shelfProcess.goal? shelfMachine.files [102] = some 1 := by cbv
      exact absurd (hgoal.symm.trans (hnone _)) (by simp)
  | @file id hgoal hreadied =>
      -- the path leads to the file afterwards, as it did before
      have hlater := (hreadied.gained.found 1 (by cbv) Files.root [102]).mpr hfound
      have hgoal' : shelfProcess.goal? s.files [102] = some 1 := by
        show (s.files.find Files.root [102]).toOption = some 1
        rw [hlater]
        rfl
      obtain rfl : id = 1 := Option.some.inj (hgoal.symm.trans hgoal')
      refine ⟨hreadied.content [97, 98] (.inr (by cbv)), ?_⟩
      rcases hreadied.others 2 (by decide) with hsame | ⟨name, hentered⟩
      · exact hsame
      · -- the file is not new, so that no directory has grown
        exact absurd (hnode.symm.trans hentered.fresh) (by simp)

end LineShell.Trials
