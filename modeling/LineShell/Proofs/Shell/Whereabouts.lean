import LineShell.Proofs.Shell.Moving
import LineShell.Proofs.System.Ledgers
import LineShell.Proofs.System.Trails

/-!
# Where the shell is

The shell keeps a record of its directory, and the system keeps the directory of its process. They
name the same directory after every line, whatever the lines are.

* **`Peace`** — nobody renames or removes what lies on the way to the shell's directory;
* **`Meanwhile`** — what happens on the machine in peace, while the shell runs a line or after that;
* **`Meanwhile.keeps`** — what others leave to the shell, and what it keeps in its own steps, it
  has in every state that is reached;
* **`Departure`** — a line from which the shell may depart, and how far its `cd` has got
  (`Departure.at_of_meanwhile`).
-/

namespace LineShell.Whereabouts

open LineShell.System LineShell.Course Prog

/-! ## What happens meanwhile -/

section Meanwhile

variable {α : Type} {launch : Launcher} {s s' start : System α} {pid shell : Pid}
  {p q first : Process α} {path record : Bytes} {id : NodeId}

/-- The step of a process renames or removes nothing on the path of the shell's directory. Once the
shell has been told a path without links and asks to move there, that path counts as well: whoever
put a link in its place would take the shell elsewhere. -/
structure Peace (shell : Pid) (s s' : System α) (pid : Pid) : Prop where
  current : ∀ p q call record, s.process? shell = some p → s.process? pid = some q →
    q.program.request? = some call → call.relocates = true →
    s.files.pathOf p.directory = .ok record → Files.Stays s.files s'.files record
  ahead : ∀ p q call path, pid ≠ shell → s.process? shell = some p → s.process? pid = some q →
    q.program.request? = some call → call.unnames = true →
    p.program.request? = some (.changeDirectory path) → Files.Stays s.files s'.files path

/-- The states that are reached in peace. -/
inductive Meanwhile (launch : Launcher) (shell : Pid) (start : System α) : System α → Prop
  | start : Meanwhile launch shell start start
  | tick {before} (time : Nat) : Meanwhile launch shell start before →
      Meanwhile launch shell start (before.setClock time)
  | signal {before} (target : Pid) (number : Signal) : Meanwhile launch shell start before →
      Meanwhile launch shell start (before.signal target number).2
  | step {before after mover} : Meanwhile launch shell start before →
      Peace shell before after mover → System.step launch before mover = some after →
      Meanwhile launch shell start after

/-- The shell is in a directory, and the path spells it. -/
def Recorded (files : Files) (record : Bytes) (directory : NodeId) : Prop :=
  files.Spells record directory ∧ files.IsFolder directory

/-- What a change of the machine in peace leaves of a directory. -/
structure Onward (launch : Launcher) (shell : Pid) (s s' : System α) (directory : NodeId) :
    Prop where
  reached : ∀ base, Meanwhile launch shell base s → Meanwhile launch shell base s'
  tidy : s.files.Tidy
  lasts : s.files.Lasts s'.files
  recorded : ∀ record, Recorded s.files record directory → Recorded s'.files record directory

theorem Onward.of_level (htidy : s.files.Tidy) (h : Files.Level s.files s'.files)
    (hreached : ∀ base, Meanwhile launch shell base s → Meanwhile launch shell base s')
    (directory : NodeId) : Onward launch shell s s' directory := by
  exact ⟨hreached, htidy, h.lasts, fun record hrecorded =>
    ⟨hrecorded.1.level htidy h, h.isFolder.mpr hrecorded.2⟩⟩

theorem Onward.recorded_at (h : Onward launch shell s s' p.directory) (hsame : SamePlace p q)
    (hrecorded : Recorded s.files record p.directory) : Recorded s'.files record q.directory := by
  rw [hsame.1]
  exact h.recorded record hrecorded

/-- A step in peace leaves the path of the shell's directory. -/
theorem Peace.onward (htidy : s.files.Tidy) (hp : s.process? shell = some p)
    (hpeace : Peace shell s s' pid) (hstep : step launch s pid = some s') :
    Onward launch shell s s' p.directory := by
  obtain ⟨q, hq, -⟩ := process?_of_step hstep
  have hup := upkeep_step htidy hq hstep
  refine ⟨fun base hbase => hbase.step hpeace hstep, htidy, hup.lasts, fun record hrecorded => ?_⟩
  obtain ⟨hspells, hfolder⟩ := hrecorded
  refine ⟨hspells.stays htidy hup.lasts ?_, (hup.lasts.folder _ hfolder.there).mpr hfolder⟩
  by_cases hrelocates : ∃ call, q.program.request? = some call ∧ call.relocates = true
  · obtain ⟨call, hcall, hrelocates⟩ := hrelocates
    exact hpeace.current p q call record hp hq hcall hrelocates (hspells.pathOf htidy hfolder)
  · -- no other request takes the name of a directory away
    have hspared : ∀ id, s.files.IsFolder id → Spared s q id := by
      intro id hid call hcall _
      exact ⟨Bool.eq_false_iff.mpr fun hyes => hrelocates ⟨call, hcall, hyes⟩, hid⟩
    exact Files.stays_of_lists hup.lists hspared hspells (hspared _ hfolder)

/-- A step of another process in peace leaves the path that the shell is about to move to. -/
theorem Peace.ahead_stays (htidy : s.files.Tidy) (hp : s.process? shell = some p)
    (hpeace : Peace shell s s' pid) (hstep : step launch s pid = some s') (hne : pid ≠ shell)
    (hmoving : p.program.request? = some (.changeDirectory path))
    (hspells : s.files.Spells path id) : s'.files.Spells path id := by
  obtain ⟨q, hq, -⟩ := process?_of_step hstep
  have hup := upkeep_step htidy hq hstep
  refine hspells.stays htidy hup.lasts ?_
  by_cases hunnames : ∃ call, q.program.request? = some call ∧ call.unnames = true
  · obtain ⟨call, hcall, hunnames⟩ := hunnames
    exact hpeace.ahead p q call path hne hp hq hcall hunnames hmoving
  · have hspared : ∀ id, Spared s q id := fun id call hcall hyes =>
      absurd ⟨call, hcall, hyes⟩ hunnames
    exact Files.stays_of_lists hup.lists (fun id _ => hspared id) hspells (hspared id)

theorem Meanwhile.orderly (hstart : start.Orderly) (h : Meanwhile launch shell start s) :
    s.Orderly := by
  induction h with
  | start => exact hstart
  | tick time _ ih => exact ⟨ih.distinct, ih.numbered⟩
  | signal target number _ ih => exact ih.signal target number
  | step _ _ hstep ih => exact ih.step hstep

/-- The numbers of processes go up, so nobody gets the shell's. -/
theorem Meanwhile.grows (hstart : start.Orderly) (h : Meanwhile launch shell start s) :
    start.nextPid ≤ s.nextPid := by
  induction h with
  | start => exact Nat.le_refl _
  | tick time _ ih => exact ih
  | signal target number _ ih =>
      obtain ⟨hnext, -, -, -⟩ := signal_effect _ target number
      rw [hnext]
      exact ih
  | step hbefore _ hstep ih =>
      have horderly := hbefore.orderly hstart
      exact Nat.le_trans ih (step_keeps horderly.distinct horderly.numbered hstep).next

theorem Meanwhile.tidy (hstart : start.files.Tidy) (h : Meanwhile launch shell start s) :
    s.files.Tidy := by
  induction h with
  | start => exact hstart
  | @tick before time _ ih =>
      have hlevel : Files.Level before.files (before.setClock time).files := ⟨rfl, fun _ => rfl⟩
      exact hlevel.tidy ih
  | signal target number _ ih =>
      rw [files_signal]
      exact ih
  | step _ _ hstep ih =>
      obtain ⟨q, hq, -⟩ := process?_of_step hstep
      exact (upkeep_step ih hq hstep).tidy

/-- What others leave to the shell, and what it keeps in its own steps, it has in every state that
is reached. -/
theorem Meanwhile.keeps (hstart : start.Orderly) (htidy : start.files.Tidy)
    (hfirst : start.process? shell = some first) (holds : System α → Process α → Prop)
    (hbegins : holds start first)
    (hleft : ∀ {s s' p q}, holds s p → q.program = p.program → SamePlace p q →
      Onward launch shell s s' p.directory →
      (∀ path id, p.program.request? = some (.changeDirectory path) → s.files.Spells path id →
        s'.files.Spells path id) → holds s' q)
    (hown : ∀ {s s' p q}, Meanwhile launch shell start s → s.process? shell = some p →
      p.active = true → holds s p → System.step launch s shell = some s' →
      q ∈ s'.processes → q.pid = shell → Onward launch shell s s' p.directory → holds s' q)
    (h : Meanwhile launch shell start s) : ∀ {q}, s.process? shell = some q → holds s q := by
  obtain ⟨hmember, hpid⟩ := mem_of_process? hfirst
  have hbelow : shell < start.nextPid := hpid ▸ hstart.numbered first hmember
  -- only in its own step does the shell become anything else than what it was
  induction h with
  | start =>
      intro q hq
      cases hfirst.symm.trans hq
      exact hbegins
  | @tick s time hbefore ih =>
      intro q hq
      have hlevel : Files.Level s.files (s.setClock time).files := ⟨rfl, fun _ => rfl⟩
      have hq : s.process? shell = some q := hq
      exact hleft (ih hq) rfl ⟨rfl, rfl⟩ (.of_level (hbefore.tidy htidy) hlevel
        (fun base hbase => hbase.tick time) _)
        fun path id _ hspells => hspells.level (hbefore.tidy htidy) hlevel
  | @signal s target number hbefore ih =>
      intro q hq
      obtain ⟨old, hfound, hundisturbed⟩ := (hbefore.orderly hstart).undisturbed_signal hq
      have hfiles : (s.signal target number).2.files = s.files := files_signal target number
      have hlevel : Files.Level s.files (s.signal target number).2.files :=
        hfiles.symm ▸ ⟨rfl, fun _ => rfl⟩
      exact hleft (ih hfound) hundisturbed.program ⟨hundisturbed.directory, hundisturbed.bindings⟩
        (.of_level (hbefore.tidy htidy) hlevel (fun base hbase => hbase.signal target number) _)
        fun path id _ hspells => hspells.level (hbefore.tidy htidy) hlevel
  | @step s s' pid hbefore hpeace hstep ih =>
      intro q hq
      have hnow := hbefore.tidy htidy
      by_cases hmoves : pid = shell
      · subst hmoves
        obtain ⟨hmem, hsame⟩ := mem_of_process? hq
        obtain ⟨p, hp, hactive⟩ := process?_of_step hstep
        exact hown hbefore hp hactive (ih hp) hstep hmem hsame (hpeace.onward hnow hp hstep)
      · obtain ⟨old, hfound, hundisturbed⟩ := (hbefore.orderly hstart).undisturbed_step hstep
          (Ne.symm hmoves) (Nat.lt_of_lt_of_le hbelow (hbefore.grows hstart)) hq
        exact hleft (ih hfound) hundisturbed.program
          ⟨hundisturbed.directory, hundisturbed.bindings⟩ (hpeace.onward hnow hfound hstep)
          fun path id hmoving => hpeace.ahead_stays hnow hfound hstep hmoves hmoving

/-- A shell that stays where it is has its directory, its variables and its record in every state
that is reached. -/
theorem Meanwhile.stays {good : α → Prop} (hstart : start.Orderly) (htidy : start.files.Tidy)
    (hfirst : start.process? shell = some first) (habides : Abides good first.program)
    (hrecorded : Recorded start.files record first.directory)
    (h : Meanwhile launch shell start s) (hq : s.process? shell = some q) :
    Abides good q.program ∧ SamePlace first q ∧ Recorded s.files record q.directory := by
  refine h.keeps hstart htidy hfirst (fun s q => Abides good q.program ∧ SamePlace first q ∧
    Recorded s.files record q.directory) ⟨habides, ⟨rfl, rfl⟩, hrecorded⟩ ?_ ?_ hq
  · rintro s s' p q ⟨habides, hplace, hrecorded⟩ hprogram hsame honward -
    exact ⟨hprogram ▸ habides, hplace.trans hsame, honward.recorded_at hsame hrecorded⟩
  · rintro s s' p q hbefore hp hactive ⟨habides, hplace, hrecorded⟩ hstep hq hpid honward
    obtain ⟨hlater, hsame⟩ :=
      abides_step (hbefore.orderly hstart).numbered hp hactive habides hstep hq hpid
    exact ⟨hlater, hplace.trans hsame, honward.recorded_at hsame hrecorded⟩

end Meanwhile

/-! ## The course of a move -/

/-- A line that the shell begins: the machine and the shell, the record, and the text. -/
structure Departure where
  /-- What turns files into programs. -/
  launch : Launcher
  /-- The number of the shell. -/
  shell : Pid
  /-- The machine when the line begins. -/
  start : System Answer
  /-- The shell when the line begins. -/
  first : Process Answer
  /-- What the shell has recorded. -/
  environment : Environment
  /-- The text that the report repeats. -/
  text : String

namespace Departure

variable {cd : Departure} {operand : Option String} {s s' : System Answer}
  {p q : Process Answer} {path : Bytes}

/-- On the way to a state the shell has asked for something. -/
structure Asked (cd : Departure) (s : System Answer) (call : Call) (m : System Answer) : Prop where
  before : Meanwhile cd.launch cd.shell cd.start m
  after : Meanwhile cd.launch cd.shell m s
  asks : ∃ own, m.process? cd.shell = some own ∧ own.program.request? = some call

/-- The path that the shell is to go to, counted from what it has recorded. -/
def joined (cd : Departure) (path : Bytes) : Bytes := Path.join cd.environment.directory path

/-- The `cd` has followed its operand, or what stands for it, from the directory of the shell to a
path without links. -/
def Follows (cd : Departure) (operand : Option String) (s : System Answer)
    (canonical : Bytes) : Prop :=
  ∃ path m, goal? operand cd.first.bindings = some path ∧
    cd.Asked s (.canonical (cd.joined path)) m ∧
    m.files.canonical cd.first.directory (cd.joined path) = .ok canonical ∧
    (path ≠ [] → m.files.canonical cd.first.directory path = .ok canonical)

/-- The system has let the shell move to a path. -/
def Arrives (cd : Departure) (s : System Answer) (canonical : Bytes) (directory : NodeId) :
    Prop :=
  ∃ m, cd.Asked s (.changeDirectory canonical) m ∧
    m.files.findDirectory cd.first.directory canonical = .ok directory

/-- Why a `cd` does not move the shell. -/
inductive Trouble (cd : Departure) (operand : Option String) (s : System Answer) : Prop
  | homeless : goal? operand cd.first.bindings = none → Trouble cd operand s
  | nul {goal} : goal? operand cd.first.bindings = some goal →
      (cd.joined goal).contains 0 = true → Trouble cd operand s
  | lost {goal m errno} : goal? operand cd.first.bindings = some goal →
      cd.Asked s (.canonical (cd.joined goal)) m →
      m.files.canonical cd.first.directory (cd.joined goal) = .error errno → Trouble cd operand s
  | refused {canonical m errno} : cd.Follows operand s canonical →
      cd.Asked s (.changeDirectory canonical) m →
      m.files.findDirectory cd.first.directory canonical = .error errno → Trouble cd operand s

/-- What the `cd` has still to do before it knows the path without links. -/
inductive Seeks (cd : Departure) (operand : Option String) : Prog Answer → Prop
  | flushing : Seeks cd operand (.ask .flush (fun _ => false) fun _ =>
      (Builtin.cd operand cd.environment).bind (concluding cd.text))
  | looking : (∀ bindings, goal? operand bindings = bindings.lookup Builtin.homeVariable) →
      Seeks cd operand (.ask .bindings (fun _ => false) fun bindings =>
        heading cd.environment cd.text (bindings.lookup Builtin.homeVariable))
  | asking {goal} : goal? operand cd.first.bindings = some goal →
      Seeks cd operand (.ask (.canonical (cd.joined goal)) (fun _ => false)
        (found cd.environment cd.text))

/-- What a `cd` has still to do that has not moved. -/
inductive Stays (cd : Departure) (operand : Option String) (s : System Answer) : Prog Answer → Prop
  | seeks {program} : Seeks cd operand program → Stays cd operand s program
  | fails {program} : cd.Trouble operand s →
      Abides (· = (.ok (.completed ⟨cd.text, [1]⟩), cd.environment)) program →
      Stays cd operand s program
  | found {canonical id} : cd.Follows operand s canonical → s.files.Spells canonical id →
      s.files.linkAt? id = none → Stays cd operand s (changing cd.environment cd.text canonical)

/-- The record after the `cd` has moved. -/
def recordOf (cd : Departure) (canonical : Bytes) : Environment :=
  { cd.environment with directory := canonical }

/-- How far the `cd` has got. -/
inductive At (cd : Departure) (operand : Option String) (s : System Answer)
    (q : Process Answer) : Prop
  | stays : SamePlace cd.first q → Recorded s.files cd.environment.directory q.directory →
      cd.Stays operand s q.program → At cd operand s q
  | moved {canonical} : cd.Follows operand s canonical → cd.Arrives s canonical q.directory →
      Recorded s.files canonical q.directory →
      Abides (· = (.ok (.completed ⟨cd.text, [0]⟩), cd.recordOf canonical)) q.program →
      At cd operand s q

section Later

variable {canonical : Bytes} {directory : NodeId} {m : System Answer} {call : Call}
  (hreached : ∀ base, Meanwhile cd.launch cd.shell base s → Meanwhile cd.launch cd.shell base s')

include hreached

theorem Asked.later (h : cd.Asked s call m) : cd.Asked s' call m :=
  ⟨h.before, hreached m h.after, h.asks⟩

theorem Follows.later (h : cd.Follows operand s canonical) : cd.Follows operand s' canonical := by
  obtain ⟨path, m, hgoal, hasked, hcanonical, hsame⟩ := h
  exact ⟨path, m, hgoal, hasked.later hreached, hcanonical, hsame⟩

theorem Arrives.later (h : cd.Arrives s canonical directory) :
    cd.Arrives s' canonical directory := by
  obtain ⟨m, hasked, hfound⟩ := h
  exact ⟨m, hasked.later hreached, hfound⟩

theorem Trouble.later (h : cd.Trouble operand s) : cd.Trouble operand s' := by
  cases h with
  | homeless hgoal => exact .homeless hgoal
  | nul hgoal hnul => exact .nul hgoal hnul
  | lost hgoal hasked hlost => exact .lost hgoal (hasked.later hreached) hlost
  | refused hfollows hasked hrefused =>
      exact .refused (hfollows.later hreached) (hasked.later hreached) hrefused

end Later

theorem stays_following (h : goal? operand cd.first.bindings = some path) :
    cd.Stays operand s (following cd.environment cd.text path) := by
  unfold following
  split
  · rename_i hnul
    exact .fails (.nul h hnul) (abides_failing _ _)
  · exact .seeks (.asking h)

section Own

variable (hbefore : Meanwhile cd.launch cd.shell cd.start s)
  (hreached : ∀ base, Meanwhile cd.launch cd.shell base s → Meanwhile cd.launch cd.shell base s')
  (hp : s.process? cd.shell = some p) (hactive : p.active = true)
  (hplace : SamePlace cd.first p)
  (hstep : step cd.launch s cd.shell = some s') (hq : q ∈ s'.processes) (hpid : q.pid = cd.shell)

include hbefore hreached hp hactive hplace hstep hq hpid

omit hactive hplace hstep hq hpid in
theorem asked_of_program {call : Call} {again : call.Result → Bool}
    {next : call.Result → Prog Answer} (hprogram : p.program = .ask call again next) :
    cd.Asked s' call s :=
  ⟨hbefore, hreached s .start, p, hp, by rw [hprogram]; rfl⟩

/-- A `cd` that seeks stays where it is, and comes to know where it goes or fails. -/
theorem Seeks.step (htidy : s.files.Tidy)
    (hrecorded : Recorded s.files cd.environment.directory p.directory)
    (h : cd.Seeks operand p.program) : SamePlace p q ∧ cd.Stays operand s' q.program := by
  generalize hprogram : p.program = program at h
  cases h with
  | flushing =>
      refine ⟨samePlace_step hp hactive hprogram rfl hstep hq hpid, ?_⟩
      rcases program_of_flush hp hactive hstep hq hpid hprogram with heq | ⟨reply, heq⟩
      · rw [heq, hprogram]
        exact .seeks .flushing
      · replace heq : q.program = (Builtin.cd operand cd.environment).bind
          (concluding cd.text) := heq
        rw [heq]
        rcases cd_bind cd.environment cd.text operand with ⟨path, hgoal, hcd⟩ | ⟨hgoal, hcd⟩
        · rw [hcd]
          exact stays_following (hgoal _)
        · rw [hcd]
          exact .seeks (.looking hgoal)
  | looking hgoal =>
      obtain ⟨rfl, -⟩ := eq_of_answer hp hactive hprogram rfl rfl rfl hstep hq hpid
      refine ⟨⟨rfl, rfl⟩, ?_⟩
      show cd.Stays operand _
        (heading cd.environment cd.text (p.bindings.lookup Builtin.homeVariable))
      rw [hplace.2, ← hgoal]
      cases hpath : goal? operand cd.first.bindings with
      | none => exact .fails (.homeless hpath) (abides_failing _ _)
      | some path => exact stays_following hpath
  | @asking path hgoal =>
      have hasked := asked_of_program hbefore hreached hp hprogram
      obtain ⟨rfl, hfiles⟩ := eq_of_answer hp hactive hprogram rfl rfl rfl hstep hq hpid
      refine ⟨⟨rfl, rfl⟩, ?_⟩
      show cd.Stays operand _ (found cd.environment cd.text (s.files.canonical p.directory _))
      cases hcanonical : s.files.canonical p.directory (cd.joined path) with
      | error errno =>
          exact .fails (.lost hgoal hasked (hplace.1 ▸ hcanonical)) (abides_failing _ _)
      | ok canonical =>
          obtain ⟨id, hspells, hlink⟩ := Files.spells_of_canonical htidy hcanonical
          refine .found ⟨path, s, hgoal, hasked, hplace.1 ▸ hcanonical, fun hfilled => ?_⟩
            (hfiles ▸ hspells) (hfiles ▸ hlink)
          rw [← hplace.1]
          -- an absolute operand is followed as it stands, any other from the directory
          by_cases habsolute : path.head? = some Path.slash
          · rwa [show cd.joined path = path from if_pos (beq_iff_eq.mpr habsolute)] at hcanonical
          · exact hrecorded.1.canonical_join hrecorded.2 hfilled habsolute hcanonical

/-- A request to move is refused, or moves the shell to what the path spells. -/
theorem At.of_changing {canonical : Bytes} {id : NodeId}
    (hrecorded : Recorded s'.files cd.environment.directory p.directory)
    (hprogram : p.program = changing cd.environment cd.text canonical)
    (hfollows : cd.Follows operand s canonical) (hspells : s.files.Spells canonical id)
    (hlink : s.files.linkAt? id = none) : cd.At operand s' q := by
  have hasked := asked_of_program hbefore hreached hp hprogram
  have hfollows := hfollows.later hreached
  cases hfound : s.files.findDirectory p.directory canonical with
  | error errno =>
      have hanswer : s.answer p (.changeDirectory canonical) = some (.error errno, p, s) := by
        simp only [answer, hfound]
      obtain ⟨rfl, -⟩ := eq_of_answer hp hactive hprogram rfl hanswer rfl hstep hq hpid
      rw [hplace.1] at hfound
      exact .stays hplace hrecorded
        (.fails (.refused hfollows hasked hfound) (abides_failing _ _))
  | ok directory =>
      have hanswer : s.answer p (.changeDirectory canonical) =
          some (.ok (), { p with directory := directory }, s) := by
        simp only [answer, hfound]
      obtain ⟨rfl, hfiles⟩ := eq_of_answer hp hactive hprogram rfl hanswer rfl hstep hq hpid
      -- the path leads through entries alone, so whatever is found there is what it spells
      obtain ⟨rfl, hfolder⟩ := hspells.findDirectory hlink hfound
      refine .moved hfollows ⟨s, hasked, hplace.1 ▸ hfound⟩ ?_ ?_
      · rw [hfiles]
        exact ⟨hspells, hfolder⟩
      · have hsaid : Abides (· = (.ok (.completed ⟨cd.text, [0]⟩), cd.recordOf canonical))
            (concluding cd.text (.ok 0, cd.recordOf canonical)) := abides_concluding rfl
        exact hsaid

end Own

/-- How far the `cd` has got after each step of the machine. -/
theorem at_of_meanwhile (hstart : cd.start.Orderly) (htidy : cd.start.files.Tidy)
    (hfirst : cd.start.process? cd.shell = some cd.first)
    (hrecorded : Recorded cd.start.files cd.environment.directory cd.first.directory)
    (hprogram : cd.Seeks operand cd.first.program) (h : Meanwhile cd.launch cd.shell cd.start s)
    (hq : s.process? cd.shell = some q) : cd.At operand s q := by
  refine h.keeps hstart htidy hfirst (cd.At operand)
    (.stays ⟨rfl, rfl⟩ hrecorded (.seeks hprogram)) ?_ ?_ hq
  · -- others leave the shell where it is, and the path that it asks to move to
    intro s s' p q hat hprogram hsame honward hahead
    cases hat with
    | stays hplace hrecorded hstays =>
        refine .stays (hplace.trans hsame) (honward.recorded_at hsame hrecorded) ?_
        rw [hprogram]
        generalize hprogram : p.program = program at hstays
        cases hstays with
        | seeks hseeks => exact .seeks hseeks
        | fails htrouble habides => exact .fails (htrouble.later honward.reached) habides
        | @found canonical id hfollows hspells hlink =>
            have hthere := hspells.there honward.tidy
            refine .found (hfollows.later honward.reached) (hahead canonical id ?_ hspells)
              ((honward.lasts.link id hthere).trans hlink)
            rw [hprogram]
            rfl
    | moved hfollows harrives hrecorded habides =>
        rw [← hsame.1] at harrives
        exact .moved (hfollows.later honward.reached) (harrives.later honward.reached)
          (honward.recorded_at hsame hrecorded) (hprogram ▸ habides)
  · -- its own steps take it from one place of its course to the next
    intro s s' p q hbefore hp hactive hat hstep hq hpid honward
    have hnumbered := (hbefore.orderly hstart).numbered
    cases hat with
    | stays hplace hrecorded hstays =>
        generalize hprogram : p.program = program at hstays
        cases hstays with
        | seeks hseeks =>
            obtain ⟨hsame, hstays⟩ := Seeks.step hbefore honward.reached hp hactive hplace hstep hq
              hpid honward.tidy hrecorded (hprogram ▸ hseeks)
            exact .stays (hplace.trans hsame) (honward.recorded_at hsame hrecorded) hstays
        | fails htrouble habides =>
            obtain ⟨habides, hsame⟩ :=
              abides_step hnumbered hp hactive (hprogram ▸ habides) hstep hq hpid
            exact .stays (hplace.trans hsame) (honward.recorded_at hsame hrecorded)
              (.fails (htrouble.later honward.reached) habides)
        | found hfollows hspells hlink =>
            exact .of_changing hbefore honward.reached hp hactive hplace hstep hq hpid
              (honward.recorded _ hrecorded) hprogram hfollows hspells hlink
    | moved hfollows harrives hrecorded habides =>
        obtain ⟨habides, hsame⟩ := abides_step hnumbered hp hactive habides hstep hq hpid
        rw [← hsame.1] at harrives
        exact .moved (hfollows.later honward.reached) (harrives.later honward.reached)
          (honward.recorded_at hsame hrecorded) habides

/-- What a `cd` has come to when it ends. -/
theorem At.ends {answer : Answer} (h : cd.At operand s q) (hprogram : q.program = .pure answer) :
    (answer = (.ok (.completed ⟨cd.text, [1]⟩), cd.environment) ∧
        cd.Trouble operand s ∧ q.directory = cd.first.directory ∧
        Recorded s.files cd.environment.directory q.directory) ∨
      ∃ canonical, answer = (.ok (.completed ⟨cd.text, [0]⟩), cd.recordOf canonical) ∧
        cd.Follows operand s canonical ∧ cd.Arrives s canonical q.directory ∧
        Recorded s.files canonical q.directory := by
  cases h with
  | stays hplace hrecorded hstays =>
      rw [hprogram] at hstays
      cases hstays with
      | seeks hseeks => cases hseeks
      | fails htrouble habides => exact .inl ⟨habides.value, htrouble, hplace.1, hrecorded⟩
  | moved hfollows harrives hrecorded habides =>
      rw [hprogram] at habides
      exact .inr ⟨_, habides.value, hfollows, harrives, hrecorded⟩

end Departure

end LineShell.Whereabouts
