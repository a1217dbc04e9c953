import LineShell.Proofs.Pipeline.Wiring
import LineShell.Proofs.System.Company

/-!
# What can go wrong before a pipeline is started

A pipeline may fail for a word with a NUL, for its target, or for want of pipes. These are looked at
in this order, and nothing has been started when one of them is found: no process is made before all
words are known to be clean, the target has been opened and all pipes have been made.

* **`firstNul?`** — the word that a pipeline fails for, found by one look at all its words;
* **`Assigns`** — each process that the shell makes is given the words of its stage;
* **`Provided`** — what the shell has got by the time at which it makes the first process;
* **`early_failures`** — which failure comes first, and what has been touched by then.
-/

namespace LineShell.Onset

open LineShell.System LineShell.Course LineShell.Descriptors Prog

variable {launch : Launcher} {s s' : System Outcome} {shell pid : Pid} {p q : Process Outcome}
  {pipeline : Pipeline} {command : String}

/-! ## Words with NULs -/

/-- The text holds a NUL. -/
def holdsNul (text : String) : Bool := (Text.bytesOf text).contains 0

/-- The complaint about the first word of a pipeline that holds a NUL, in the order of the stages
and of their words: it tells at which byte the first NUL stands. -/
def firstNul? (pipeline : Pipeline) : Option NulWord :=
  ((pipeline.stages.flatMap Stage.arguments).find? holdsNul).map fun argument =>
    ⟨(Text.bytesOf argument).idxOf 0⟩

/-- The words of the stages, as bytes. -/
def wordsOf (pipeline : Pipeline) : List (List Bytes) :=
  pipeline.stages.map fun stage => stage.arguments.map Text.bytesOf

/-- A word is rejected for its first NUL. -/
theorem cleanBytes_eq_error {text : String} (h : holdsNul text = true) :
    cleanBytes text = .error ⟨(Text.bytesOf text).idxOf 0⟩ := if_pos h

/-- A stage is rejected for the first of its words that holds a NUL. -/
theorem mapM_cleanBytes (texts : List String) :
    texts.mapM cleanBytes = match texts.find? holdsNul with
      | some argument => .error ⟨(Text.bytesOf argument).idxOf 0⟩
      | none => .ok (texts.map Text.bytesOf) := by
  induction texts with
  | nil => rfl
  | cons text texts ih =>
      rw [List.mapM_cons, List.find?_cons]
      cases hnul : holdsNul text with
      | true =>
          rw [cleanBytes_eq_error hnul]
          rfl
      | false =>
          rw [cleanBytes_eq (by simpa [holdsNul] using hnul), ih]
          dsimp only [Bind.bind, Except.bind]
          cases texts.find? holdsNul <;> rfl

/-- A pipeline is rejected for the first of all its words that holds a NUL. -/
theorem mapM_argumentBytes (stages : List Stage) :
    stages.mapM Stage.argumentBytes =
      match (stages.flatMap Stage.arguments).find? holdsNul with
      | some argument => .error ⟨(Text.bytesOf argument).idxOf 0⟩
      | none => .ok (stages.map fun stage => stage.arguments.map Text.bytesOf) := by
  induction stages with
  | nil => rfl
  | cons stage stages ih =>
      rw [List.mapM_cons, List.flatMap_cons, List.find?_append, ih, Stage.argumentBytes,
        mapM_cleanBytes]
      dsimp only [Bind.bind, Except.bind]
      cases stage.arguments.find? holdsNul with
      | some argument => rfl
      | none =>
          dsimp only [Option.none_or]
          cases (stages.flatMap Stage.arguments).find? holdsNul <;> rfl

/-- A pipeline with a NUL in one of its words is over before anything has been asked of the
system. -/
theorem execute_of_nul {word : NulWord} (h : firstNul? pipeline = some word) :
    execute pipeline command = .pure (.error (.nul word)) := by
  obtain ⟨argument, hargument, rfl⟩ := Option.map_eq_some_iff.mp h
  unfold execute
  rw [mapM_argumentBytes, hargument]
  rfl

/-- Without NULs the words are what is handed to the programs. -/
theorem execute_of_clean (h : firstNul? pipeline = none) :
    execute pipeline command = opening command .pure (wordsOf pipeline) pipeline.target := by
  rw [← bind_pure (execute pipeline command), execute_bind, mapM_argumentBytes,
    Option.map_eq_none_iff.mp h]
  rfl

/-! ## The words of a stage -/

/-- What the process of a stage asks: it becomes the program of its words, or, where a file is found
that is no program, the shell for scripts with the file and the words behind the name. -/
def IsStaging (arguments : List Bytes) : Call → Prop
  | .exec path given _ => given = arguments ∨
      path = Search.scriptShell ∧ ∃ file, given = Search.scriptShell :: file :: arguments.tail
  | .duplicate .. | .close _ | .bindings | .write .. | .exit _ => True
  | _ => False

theorem asks_complaining (arguments : List Bytes) (text : Bytes) (code : Int) :
    Asks (IsStaging arguments) ((complain text).bind fun _ => exit (α := Outcome) code) :=
  .ask trivial fun _ => .ask trivial fun answer => answer.elim

theorem asks_searching (arguments : List Bytes) :
    Asks (IsStaging arguments) (searching (α := Outcome) arguments) :=
  (asks_looking (fun _ _ => .inl rfl) (fun file _ => .inr ⟨rfl, file, rfl⟩) trivial _).bind
    fun _ => asks_complaining _ _ _

theorem asks_wire (arguments : List Bytes) (source : Option Fd) (stream : Fd) :
    Asks (IsStaging arguments) (wire source stream) := by
  unfold wire
  split
  · split
    · exact .pure
    · exact .ask trivial fun _ => .pure
  · exact .pure

/-- The process of a stage becomes nothing but the program of its words. -/
theorem asks_runStage (plumbing : Plumbing) (stage : Nat) (arguments : List Bytes) :
    Asks (IsStaging arguments) (runStage (α := Outcome) plumbing stage arguments) := by
  rw [runStage_eq_wire]
  have hdropping : ∀ wired, Asks (IsStaging arguments)
      (dropping (α := Outcome) arguments wired plumbing.descriptors) := by
    intro wired
    refine (asks_closeAll (fun _ => trivial) _).bind fun _ => ?_
    cases wired with
    | error errno => exact asks_complaining _ _ _
    | ok done => exact asks_searching arguments
  refine (asks_wire _ _ _).bind fun wired => ?_
  cases wired with
  | error errno => exact hdropping _
  | ok done => exact (asks_wire _ _ _).bind hdropping

/-! ## Handing the words out -/

/-- What a shell asks on its way through a pipeline besides making processes. -/
def IsOwn : Call → Prop
  | .openPath .. | .pipe | .flush | .close _ | .wait _ => True
  | _ => False

/-- Whatever it is answered, a shell that has made so many processes gives each further one the work
of the next stage, with the words of that stage. -/
inductive Assigns (programs : List (List Bytes)) : Nat → Prog Outcome → Prop
  | pure {count outcome} : Assigns programs count (.pure outcome)
  | ask {count call again next} : IsOwn call →
      (∀ answer, Assigns programs count (next answer)) →
      Assigns programs count (.ask call again next)
  | fork {count plumbing arguments} {next : Except Errno ForkSide → Prog Outcome} :
      programs[count]? = some arguments →
      next (.ok .child) = runStage plumbing count arguments →
      (∀ child, Assigns programs (count + 1) (next (.ok (.parent child)))) →
      (∀ errno, Assigns programs count (next (.error errno))) →
      Assigns programs count (.ask .fork (fun _ => false) next)

section Assigning

variable {programs : List (List Bytes)} {count : Nat}

theorem assigns_closeAll {rest : Unit → Prog Outcome} (h : Assigns programs count (rest ()))
    (left : List Fd) : Assigns programs count ((Plumbing.closeAll left).bind rest) := by
  induction left with
  | nil => exact h
  | cons fd left ih => exact .ask trivial fun _ => ih

theorem assigns_reap {rest : Unit → Prog Outcome} (h : Assigns programs count (rest ()))
    (children : List Pid) : Assigns programs count ((reap children).bind rest) := by
  induction children with
  | nil => exact h
  | cons child left ih =>
      show Assigns programs count (((awaitCode child).bind _).bind rest)
      rw [Prog.bind_assoc]
      refine .ask trivial fun news => ?_
      rcases news with errno | ⟨pid, ending | signal | _⟩ <;> exact ih

theorem assigns_waiting (codes : List Int) (left : List Pid) :
    Assigns programs count (waiting command .pure codes left) := by
  induction left generalizing codes with
  | nil =>
      rw [waiting_nil]
      exact .pure
  | cons child left ih =>
      rw [waiting_cons]
      refine .ask trivial fun news => ?_
      rcases news with errno | ⟨pid, ending | signal | _⟩
      · exact .pure
      · dsimp only [Prog.bind]
        cases ending.code? with
        | ok code => exact ih _
        | error errno => exact .pure
      · exact .pure
      · exact .pure

theorem assigns_forking {plumbing : Plumbing} {done left : List (List Bytes)}
    (hsplit : programs = done ++ left) (children : List Pid) :
    Assigns programs done.length
      (forking command .pure plumbing done.length left children) := by
  induction left generalizing done children with
  | nil => exact assigns_closeAll (assigns_waiting _ _) _
  | cons arguments left ih =>
      rw [forking_cons]
      refine .fork ?_ rfl (fun child => ?_) fun errno => ?_
      · rw [hsplit, List.getElem?_append_right (Nat.le_refl _), Nat.sub_self]
        rfl
      · have hmore : programs = (done ++ [arguments]) ++ left := by
          rw [List.append_assoc]
          exact hsplit
        have hlater := ih hmore (children ++ [child])
        rwa [List.length_append] at hlater
      · exact assigns_closeAll (assigns_reap .pure _) _

theorem assigns_laying (left : Nat) (plumbing : Plumbing) :
    Assigns programs 0 (laying command .pure programs left plumbing) := by
  induction left generalizing plumbing with
  | zero => exact .ask trivial fun _ => assigns_forking (List.nil_append _).symm []
  | succ left ih =>
      rw [laying_succ]
      refine .ask trivial fun laid => ?_
      cases laid with
      | ok ends => exact ih _
      | error errno => exact assigns_closeAll .pure _

/-- From the beginning on. -/
theorem assigns_opening (target : Option Target) :
    Assigns programs 0 (opening command .pure programs target) := by
  cases target with
  | none => exact assigns_laying _ _
  | some target =>
      rw [opening_some]
      cases cleanBytes target.path with
      | error word => exact .pure
      | ok path =>
          refine .ask trivial fun opened => ?_
          cases opened with
          | error errno => exact .pure
          | ok fd => exact assigns_laying _ _

/-- The shell goes on so in each step that makes no process. -/
theorem assigns_step (h : Assigns programs count p.program) (hp : s.process? shell = some p)
    (hactive : p.active = true) (hnot : p.program.request? ≠ some .fork)
    (hstep : step launch s shell = some s') (hq : q ∈ s'.processes) (hsame : q.pid = shell) :
    Assigns programs count q.program := by
  generalize hprogram : p.program = program at h hnot
  cases h with
  | pure => exact absurd (hstep.symm.trans (step_pure hp hactive hprogram)) (by simp)
  | fork => exact absurd rfl hnot
  | @ask _ call again next hcall hnext =>
      have hproceed : ∀ answer,
          Assigns programs count (Process.proceed call again next answer) :=
        holds_proceed (.ask hcall hnext) hnext
      cases call with
      | openPath path access closeOnExec | pipe | close fd | wait child =>
          obtain ⟨reply, heq⟩ := program_of_answered hp hactive hstep hq hsame rfl hprogram
          exact heq ▸ hproceed reply
      | flush =>
          rcases program_of_flush hp hactive hstep hq hsame hprogram with heq | ⟨reply, heq⟩
          · rw [heq, hprogram]
            exact .ask hcall hnext
          · exact heq ▸ hproceed reply
      | _ => exact hcall.elim

/-- When it makes a process, that one has the words of its stage, and the shell goes on to the
next. -/
theorem assigns_fork_step (h : Assigns programs count p.program) (hp : s.process? shell = some p)
    (hactive : p.active = true) (hfork : p.program.request? = some .fork)
    (hnumbered : ∀ p ∈ s.processes, p.pid < s.nextPid) (hstep : step launch s shell = some s') :
    s'.nextPid = s.nextPid + 1 ∧
    (∀ q ∈ s'.processes, q.pid = shell → Assigns programs (count + 1) q.program) ∧
    ∀ r ∈ s'.processes, r.pid = s.nextPid →
      ∃ arguments, programs[count]? = some arguments ∧ Asks (IsStaging arguments) r.program := by
  generalize hprogram : p.program = program at h hfork
  obtain ⟨hmem, hpid⟩ := mem_of_process? hp
  have hlt := hpid ▸ hnumbered p hmem
  cases h with
  | pure => cases hfork
  | @ask _ call _ _ hcall =>
      cases hfork
      exact hcall.elim
  | @fork _ plumbing arguments next hplace hchild hparent _ =>
      cases hstep.symm.trans (step_fork hp hactive hprogram)
      refine ⟨rfl, fun q hq hsame => ?_, fun r hr hnew => ⟨arguments, hplace, ?_⟩⟩
      · rcases List.mem_append.mp hq with hq | hq
        · rw [eq_of_own hp hq hsame rfl]
          exact hparent _
        · rw [List.mem_singleton.mp hq] at hsame
          exact absurd hsame (Nat.ne_of_gt hlt)
      · rcases List.mem_append.mp hr with hr | hr
        · -- the others have earlier numbers
          have hbelow : r.pid < s.nextPid := by
            rcases mem_setProcess.mp hr with ⟨rfl, -⟩ | ⟨hr, -⟩
            · exact hnumbered p hmem
            · exact hnumbered r hr
          exact absurd hnew (Nat.ne_of_lt hbelow)
        · rw [List.mem_singleton.mp hr]
          show Asks (IsStaging arguments) (next (.ok .child))
          rw [hchild]
          exact asks_runStage _ _ _

end Assigning

/-! ## Before the first process -/

/-- What the shell has got by the time at which it makes a process: there has been room for
everything, all pipes have been made, and the target has been opened. -/
structure Provided (room : Nat) (goal : Option Bytes) (stages : Nat) (ledger : Ledger) : Prop where
  room : need goal.toList.length stages ≤ room
  pipes : ledger.pipes.length = stages - 1
  target : ∀ path, goal = some path → ∃ handle, ledger.opened = [(path, handle)]

section Way

variable {before laid : Table} {limit : Nat} {goal : Option Bytes} {programs : List (List Bytes)}
  {fair idle : Prop} {ledger : Ledger} {plumbing : Plumbing} {start : System Outcome}
  {first : Process Outcome} {became : List Pid}

/-- A shell that is about to make a process has got everything. -/
theorem provided_of_fork
    (h : ShellAt before limit goal programs command fair idle ledger plumbing laid p)
    (hfork : p.program.request? = some .fork) :
    Provided (before.room limit) goal programs.length ledger := by
  obtain ⟨-, -, -, -, hfitted, -, hcount, -⟩ := Wiring.of_fork h hfork
  refine ⟨hfitted.need_le hcount, hfitted.pipes.length_eq.trans hcount, fun path hgoal => ?_⟩
  have hsome := hfitted.target
  rw [hgoal, Option.isSome_some] at hsome
  obtain ⟨fd, hfd⟩ := Option.isSome_iff_exists.mp hsome
  obtain ⟨other, descriptor, hother, -, hopened⟩ := hfitted.opened fd hfd
  cases hgoal.symm.trans hother
  exact ⟨descriptor.handle, hopened⟩

theorem Provided.congr {room stages : Nat} {later : Ledger}
    (h : Provided room goal stages ledger) (hpipes : later.pipes = ledger.pipes)
    (hopened : later.opened = ledger.opened) : Provided room goal stages later :=
  ⟨h.room, hpipes ▸ h.pipes, hopened ▸ h.target⟩

/-- The shell is on its way, and hands the words out. -/
def Sets (before : Table) (limit : Nat) (goal : Option Bytes) (programs : List (List Bytes))
    (command : String) (fair idle : Prop) (ledger : Ledger) (p : Process Outcome) : Prop :=
  OnWay before limit goal programs command fair idle ledger p ∧
    Assigns programs ledger.children.length p.program

/-- The process of a stage becomes nothing but the program of its words. -/
def Stands (programs : List (List Bytes)) (place : Nat) (p : Process Outcome) : Prop :=
  ∃ arguments, programs[place]? = some arguments ∧ Asks (IsStaging arguments) p.program

/-- A process of a stage stays so until it becomes a program. -/
theorem stands_step {place : Nat} (hp : s.process? pid = some p) (hactive : p.active = true)
    (h : Stands programs place p) (hstep : step launch s pid = some s') :
    (successor? launch s pid).isSome = true ∨
      ∀ q ∈ s'.processes, q.pid = pid → q.ending = none → Stands programs place q := by
  obtain ⟨arguments, hplace, hasks⟩ := h
  have hplain : ∀ call, IsStaging arguments call →
      call.isPlain = true ∧ ∀ target number, call ≠ .kill target number := by
    intro call hcall
    cases call <;> first | exact hcall.elim | exact ⟨rfl, by simp⟩
  exact (asks_step hplain (fun _ _ _ _ => trivial) (fun _ _ _ hcall => hcall.elim) hp hactive hasks
    hstep).imp_right fun hgoes q hq hsame halive => ⟨arguments, hplace, hgoes q hq hsame halive⟩

/-- A step of the shell keeps all that, and a process that is made in it stands for its stage. -/
theorem Sets.step (hordered : before.Ordered) (horderly : s.Orderly)
    (hopens : fair → ∀ path access closeOnExec,
      p.program.request? = some (.openPath path access closeOnExec) →
      ∃ endpoint files, s.endpointAt p path access = .ok (endpoint, files))
    (hp : s.process? shell = some p) (hactive : p.active = true)
    (h : Sets before limit goal programs command fair idle ledger p)
    (hsettled : ledger.children ≠ [] → Provided (before.room limit) goal programs.length ledger)
    (hstep : System.step launch s shell = some s') (hq : s'.process? shell = some q) :
    let later := ledger.note s s' p q
    Sets before limit goal programs command fair idle later q ∧
      (later.children ≠ [] → Provided (before.room limit) goal programs.length later) ∧
      Brings (Stands programs) ledger later s s' := by
  intro later
  obtain ⟨⟨hlimit, hpending, plumbing, laid, hat⟩, hassigns⟩ := h
  obtain ⟨hlimit', hpending', hchildren, plumbing', laid', hat', hkept⟩ :=
    hat.step hordered hp hactive hlimit hpending hstep hq horderly.numbered hopens
  have hway : OnWay before limit goal programs command fair idle later q :=
    ⟨hlimit', hpending', plumbing', laid', hat'⟩
  obtain ⟨hmem, hpid⟩ := mem_of_process? hq
  by_cases hfork : p.program.request? = some .fork
  · obtain ⟨hgrown, hgoes, hnew⟩ :=
      assigns_fork_step hassigns hp hactive hfork horderly.numbered hstep
    obtain ⟨-, -, -, hpipes, hopened⟩ := hkept (.inr hfork)
    have hmade : later.children = ledger.children ++ [s.nextPid] := Ledger.note_children hgrown
    refine ⟨⟨hway, ?_⟩, fun _ => (provided_of_fork hat hfork).congr hpipes hopened,
      .inr ⟨hmade, hgrown, hnew⟩⟩
    rw [hmade, List.length_append]
    exact hgoes q hmem hpid
  · have hsame := hchildren hfork
    refine ⟨⟨hway, ?_⟩, fun hsome => ?_, .inl hsame⟩
    · rw [hsame]
      exact assigns_step hassigns hp hactive hfork hstep hmem hpid
    · rw [hsame] at hsome
      obtain ⟨-, -, -, hpipes, hopened⟩ := hkept (.inl hsome)
      exact (hsettled hsome).congr hpipes hopened

/-- The shell and its stages, from the opening of the target on. -/
theorem company_of_opening (hordered : before.Ordered) (hstart : start.Orderly)
    (hfirst : start.process? shell = some first) {target : Option Target}
    (hprogram : first.program = opening command .pure programs target)
    (hbegins : OnWay before limit goal programs command fair idle {} first)
    (hopens : fair → ∀ {ledger became s p}, Course launch shell start ledger became s →
      s.process? shell = some p → p.active = true → ∀ path access closeOnExec,
      p.program.request? = some (.openPath path access closeOnExec) →
      ∃ endpoint files, s.endpointAt p path access = .ok (endpoint, files))
    (hcourse : Course launch shell start ledger became s) :
    Company (Sets before limit goal programs command fair idle)
      (fun ledger => ledger.children ≠ [] →
        Provided (before.room limit) goal programs.length ledger)
      (Stands programs) shell ledger became s := by
  refine company_of_course hstart hfirst ⟨hbegins, hprogram ▸ assigns_opening target⟩
    (fun hsome => absurd rfl hsome) ?_ ?_ ?_ stands_step hcourse
  · rintro ledger p q ⟨⟨hlimit, hpending, plumbing, laid, hat⟩, hassigns⟩ hundisturbed halive
    obtain ⟨-, htable, hsame⟩ := hundisturbed.underway halive
    refine ⟨⟨hundisturbed.limit.trans hlimit, fun hidle => hsame.trans (hpending hidle), plumbing,
      laid, hat.congr hundisturbed.program htable⟩, ?_⟩
    rw [hundisturbed.program]
    exact hassigns
  · rintro place p q ⟨arguments, hplace, hasks⟩ hundisturbed -
    exact ⟨arguments, hplace, hundisturbed.program ▸ hasks⟩
  · intro ledger became s s' p q hcourse hp hactive hsets hsettled hstep hq
    exact hsets.step hordered (hcourse.orderly hstart) (fun hfair => hopens hfair hcourse hp hactive)
      hp hactive hsettled hstep hq

/-- A shell that is done makes no process any more. -/
theorem company_of_pure (hstart : start.Orderly) (hfirst : start.process? shell = some first)
    {outcome : Outcome} (hpure : first.program = .pure outcome)
    (hcourse : Course launch shell start ledger became s) :
    Company (fun _ p => p.program = .pure outcome) (fun ledger => ledger.children = [])
      (fun _ _ => True) shell ledger became s := by
  refine company_of_course hstart hfirst hpure rfl ?_ (fun _ _ _ => trivial) ?_
    (fun _ _ _ _ => .inr fun _ _ _ _ => trivial) hcourse
  · intro ledger p q hdone hundisturbed _
    exact hundisturbed.program.trans hdone
  · intro ledger became s s' p q _ hp hactive hdone _ hstep _
    exact absurd (hstep.symm.trans (step_pure hp hactive hdone)) (by simp)

end Way

/-! ## The order of the failures -/

/-- The target comes first: a name with a NUL is rejected before anything has been asked, and any
other name is what a shell asks for first. If it cannot be opened, the shell is done, and nothing
on the machine has changed but its program. -/
def TargetFirst (launch : Launcher) (pipeline : Pipeline) (command : String) : Prop :=
  ∀ target, pipeline.target = some target →
    (0 ∈ Text.bytesOf target.path →
      execute pipeline command = .pure (.error (.target target.path .nul))) ∧
    (0 ∉ Text.bytesOf target.path → ∀ {s : System Outcome} {pid p}, s.process? pid = some p →
      p.active = true → p.program = execute pipeline command →
      p.program.request? =
        some (.openPath (Text.bytesOf target.path) target.mode.access true) ∧
      ∀ errno, errno ≠ .interrupted →
        (s.openPath p (Text.bytesOf target.path) target.mode.access true).1 = .error errno →
        step launch s pid = some (s.setProcess { p with
          program := .pure (.error (.target target.path (.system errno))) }))

/-- The pipes come next: where nothing but want of room for all of them is against a pipeline, the
shell makes no process and comes, in fewer steps than four for each stage and without waiting for
anything, to the failure of a pipe; then it has the open files that it had before, and has given up
once every number that it took. -/
def PipesNext (launch : Launcher) (shell : Pid) (m : System Outcome) (p : Process Outcome)
    (pipeline : Pipeline) (command : String) : Prop :=
  Openable launch shell (begun m p pipeline command) pipeline →
  pipeline.target.toList.length ≤ p.table.room p.limit →
  p.table.room p.limit < need pipeline.target.toList.length pipeline.stages.length →
  ∀ {ledger became s q}, Course launch shell (begun m p pipeline command) ledger became s →
    s.process? shell = some q → q.ending = none →
    ledger.children = [] ∧
    ((∃ errno, q.program = .pure (.error (.pipe errno)) ∧ q.table = p.table ∧
        ledger.closed.Perm (ledger.taken.map Prod.fst) ∧ ledger.closed.Nodup) ∨
      ledger.rounds < 4 * pipeline.stages.length ∧
        (q.active = true → (step launch s shell).isSome = true))

/-- The stages come last: when the shell is about to make a process, or has made one, there is no
NUL in any word, all pipes have been made and the target has been opened; and the process of a stage
becomes the program of its words, byte for byte, if it becomes anything. (A file that is no program
is given to the shell for scripts, with the words behind the name.) -/
def StagesLast (launch : Launcher) (shell : Pid) (m : System Outcome) (p : Process Outcome)
    (pipeline : Pipeline) (command : String) : Prop :=
  ∀ {ledger : Ledger} {became : List Pid} {s : System Outcome},
    Course launch shell (begun m p pipeline command) ledger became s →
    (ledger.children ≠ [] ∨ (∃ q, s.process? shell = some q ∧ q.ending = none ∧
        q.program.request? = some .fork) →
      firstNul? pipeline = none ∧ ledger.pipes.length = pipeline.stages.length - 1 ∧
      ∀ target, pipeline.target = some target →
        ∃ path handle, cleanBytes target.path = .ok path ∧ ledger.opened = [(path, handle)]) ∧
    ∀ (place : Nat) (child : Pid) (r : Process Outcome) (path : Bytes) (given : List Bytes)
      (bindings : Variables), ledger.children[place]? = some child → child ∉ became →
      s.process? child = some r → r.ending = none →
      r.program.request? = some (.exec path given bindings) →
      ∃ stage : Stage, pipeline.stages[place]? = some stage ∧
        (given = stage.arguments.map Text.bytesOf ∨ path = Search.scriptShell ∧
          ∃ file, given = Search.scriptShell :: file :: (stage.arguments.map Text.bytesOf).tail)

section Order

variable {m : System Outcome}

theorem targetFirst (hclean : firstNul? pipeline = none) : TargetFirst launch pipeline command := by
  intro target htarget
  have hopening : execute pipeline command = _ := execute_of_clean hclean
  rw [htarget, opening_some] at hopening
  refine ⟨fun hnul => ?_, fun hname {s pid p} hp hactive hprogram => ?_⟩
  · rw [hopening, cleanBytes_eq_error (by simpa [holdsNul] using hnul)]
  · rw [cleanBytes_eq hname] at hopening
    have hask := hprogram.trans hopening
    refine ⟨by rw [hask]; rfl, fun errno herrno hrefused => ?_⟩
    have hgives : interrupted (.error errno) ≠ true := by simpa [interrupted] using herrno
    rcases hopen : s.openPath p (Text.bytesOf target.path) target.mode.access true
      with ⟨reply, answered, after⟩
    rw [hopen] at hrefused
    obtain rfl : reply = .error errno := hrefused
    rw [step_answered hp hactive rfl hask]
    simp only [answer, Option.map_some, hopen]
    cases openPath_cases hopen with
    | refused =>
        unfold Process.proceed
        rw [if_neg hgives]
        rfl

/-- A shell that has not got room for all pipes is done, or can go on without making a process. -/
theorem moves_of_room {before laid : Table} {limit : Nat} {goal : Option Bytes}
    {programs : List (List Bytes)} {fair idle : Prop} {ledger : Ledger} {plumbing : Plumbing}
    (h : ShellAt before limit goal programs command fair idle ledger plumbing laid q)
    (hfair : fair) (hfits : goal.toList.length ≤ before.room limit)
    (hroom : before.room limit < need goal.toList.length programs.length)
    (hq : s.process? shell = some q) :
    (∃ outcome, q.program = .pure outcome) ∨ ledger.rounds < 4 * programs.length ∧
      (q.active = true → (step launch s shell).isSome = true) := by
  have hgoal : goal.toList.length ≤ 1 := by cases goal <;> simp
  have hanswered : ∀ {call : Call} {again next}, call.isSpecial = false →
      q.program = .ask call again next → (s.answer q call).isSome = true → q.active = true →
      (step launch s shell).isSome = true := by
    intro call again next hcall hprogram hanswer hactive
    rw [step_answered hq hactive hcall hprogram, Option.isSome_map]
    exact hanswer
  unfold need at hroom
  cases h with
  | opening _ _ hprogram _ _ hrounds =>
      have hpace := hrounds hfair
      exact .inr ⟨by omega, hanswered rfl hprogram rfl⟩
  | laying hprogram _ hcount _ hrounds =>
      have hpace := hrounds hfair
      exact .inr ⟨by omega, hanswered rfl (hprogram.trans (laying_succ _ _ _ _ _)) rfl⟩
  | abandoning hprogram _ _ hrounds =>
      have hpace := hrounds hfair
      refine .inr ⟨by omega, fun hactive => ?_⟩
      rw [step_closeAll hq hactive hprogram]
      rfl
  | flushing _ hfitted _ hcount =>
      have hneed := hfitted.need_le hcount
      unfold need at hneed
      omega
  | forking _ hfitted _ hcount =>
      have hneed := hfitted.need_le hcount
      unfold need at hneed
      omega
  | releasing _ _ hneed =>
      unfold need at hneed
      omega
  | waiting _ _ hneed =>
      unfold need at hneed
      omega
  | finished hprogram => exact .inl ⟨_, hprogram⟩

/-- A pipeline that nothing but want of room is against holds no NUL. -/
theorem firstNul?_of_clean (h : Clean pipeline) : firstNul? pipeline = none := by
  unfold firstNul?
  rw [Option.map_eq_none_iff, List.find?_eq_none]
  intro argument hargument
  obtain ⟨stage, hstage, hin⟩ := List.mem_flatMap.mp hargument
  simpa [holdsNul] using h.arguments stage hstage argument hin

theorem length_wordsOf (pipeline : Pipeline) :
    (wordsOf pipeline).length = pipeline.stages.length := List.length_map _

/-- A shell that finds a NUL in a word or in the name of the target is done at once. -/
theorem execute_eq_pure (h : ¬(firstNul? pipeline = none ∧
      ∀ target, pipeline.target = some target → ∃ path, cleanBytes target.path = .ok path)) :
    ∃ outcome, execute pipeline command = .pure outcome := by
  cases hnul : firstNul? pipeline with
  | some word => exact ⟨_, execute_of_nul hnul⟩
  | none =>
      have hopening : execute pipeline command = _ := execute_of_clean hnul
      cases htarget : pipeline.target with
      | none => exact absurd ⟨hnul, fun target hsome => by simp [htarget] at hsome⟩ h
      | some target =>
          rw [htarget, opening_some] at hopening
          cases hpath : cleanBytes target.path with
          | error word =>
              rw [hpath] at hopening
              exact ⟨_, hopening⟩
          | ok path =>
              refine absurd ⟨hnul, fun other hsome => ⟨path, ?_⟩⟩ h
              cases htarget.symm.trans hsome
              exact hpath

variable (horderly : m.Orderly) (hp : m.process? shell = some p) (hordered : p.table.Ordered)

include horderly hp hordered

/-- The shell and its stages, when the words hold no NUL and the target's name does not either. -/
theorem company_of_begun (fair : Prop) (hclean : firstNul? pipeline = none)
    (hname : ∀ target, pipeline.target = some target → ∃ path, cleanBytes target.path = .ok path)
    (hopens : fair → Openable launch shell (begun m p pipeline command) pipeline)
    {ledger : Ledger} {became : List Pid}
    (hcourse : Course launch shell (begun m p pipeline command) ledger became s) :
    ∃ goal, Means pipeline goal (wordsOf pipeline) ∧
      Company (Sets p.table p.limit goal (wordsOf pipeline) command fair False)
        (fun ledger => ledger.children ≠ [] →
          Provided (p.table.room p.limit) goal (wordsOf pipeline).length ledger)
        (Stands (wordsOf pipeline)) shell ledger became s := by
  have hprogram : ({ p with program := execute pipeline command } : Process Outcome).program =
    opening command .pure (wordsOf pipeline) pipeline.target := execute_of_clean hclean
  obtain ⟨goal, hmeans, hat⟩ := shellAt_opening p.limit fair False hprogram
    (length_wordsOf pipeline) hname rfl hordered
  exact ⟨goal, hmeans, company_of_opening hordered horderly.setProcess (process?_begun horderly hp)
    hprogram ⟨rfl, False.elim, _, _, hat⟩ (fun hfair => (hopens hfair).opens) hcourse⟩

theorem pipesNext : PipesNext launch shell m p pipeline command := by
  intro hopenable hfits hroom ledger became s q hcourse hq halive
  have hclean := hopenable.clean
  obtain ⟨goal, hmeans, hcompany⟩ := company_of_begun horderly hp hordered True
    (firstNul?_of_clean hclean) (fun target htarget => ⟨_, cleanBytes_eq (hclean.name target htarget)⟩)
    (fun _ => hopenable) hcourse
  rw [← hmeans.targets] at hfits hroom
  rw [← hmeans.stages] at hroom ⊢
  obtain ⟨⟨-, -, plumbing, laid, hat⟩, -⟩ := hcompany.onWatched hq halive
  refine ⟨?_, ?_⟩
  · by_contra hsome
    exact absurd (hcompany.onLedger hsome).room (Nat.not_le_of_lt hroom)
  · rcases moves_of_room hat trivial hfits hroom hq with ⟨outcome, hpure⟩ | hmoves
    · left
      obtain ⟨hdrained, hforetold⟩ := hat.of_pure hpure
      obtain ⟨errno, rfl⟩ := (hforetold trivial).2.1.mpr ⟨hfits, hroom⟩
      have hstrip := hdrained.strip
      have hpaid := hdrained.paid
      rw [Table.without_nil] at hstrip
      rw [List.append_nil] at hpaid
      exact ⟨errno, hpure, hstrip, hpaid, hpaid.nodup_iff.mpr hdrained.once⟩
    · exact .inr hmoves

theorem stagesLast : StagesLast launch shell m p pipeline command := by
  intro ledger became s hcourse
  have hfirst : (begun m p pipeline command).process? shell =
      some { p with program := execute pipeline command } := process?_begun horderly hp
  -- a shell that is done from the beginning makes no process
  have hover : ∀ outcome, execute pipeline command = .pure outcome →
      ledger.children = [] ∧ ∀ q, s.process? shell = some q → q.ending = none →
        q.program.request? = none := by
    intro outcome hpure
    have hcompany := company_of_pure horderly.setProcess hfirst hpure hcourse
    refine ⟨hcompany.onLedger, fun q hq halive => ?_⟩
    rw [hcompany.onWatched hq halive]
    rfl
  by_cases hstarts : firstNul? pipeline = none ∧
      ∀ target, pipeline.target = some target → ∃ path, cleanBytes target.path = .ok path
  · obtain ⟨hclean, hname⟩ := hstarts
    obtain ⟨goal, hmeans, hcompany⟩ :=
      company_of_begun horderly hp hordered False hclean hname False.elim hcourse
    refine ⟨fun hforks => ?_, fun place child r path given bindings hget hnot hr halive hexec => ?_⟩
    · have hprovided : Provided (p.table.room p.limit) goal (wordsOf pipeline).length ledger := by
        rcases hforks with hsome | ⟨q, hq, halive, hfork⟩
        · exact hcompany.onLedger hsome
        · obtain ⟨⟨-, -, plumbing, laid, hat⟩, -⟩ := hcompany.onWatched hq halive
          exact provided_of_fork hat hfork
      refine ⟨hclean, length_wordsOf pipeline ▸ hprovided.pipes, fun target htarget => ?_⟩
      obtain ⟨path, hpath, hgoal⟩ := hmeans.target target htarget
      obtain ⟨handle, hopened⟩ := hprovided.target path hgoal
      exact ⟨path, handle, hpath, hopened⟩
    · obtain ⟨arguments, hplace, hasks⟩ := hcompany.onChild hget hnot hr halive
      obtain ⟨stage, hstage, rfl⟩ := List.getElem?_map .. ▸ hplace |> Option.map_eq_some_iff.mp
      exact ⟨stage, hstage, hasks.of_request? hexec⟩
  · obtain ⟨outcome, hpure⟩ := execute_eq_pure hstarts
    obtain ⟨hnone, hidle⟩ := hover outcome hpure
    refine ⟨fun hforks => ?_, fun place child r path given bindings hget => ?_⟩
    · rcases hforks with hsome | ⟨q, hq, halive, hfork⟩
      · exact absurd hnone hsome
      · rw [hidle q hq halive] at hfork
        cases hfork
    · rw [hnone] at hget
      cases hget

/-- **Early failures.** Where a word holds a NUL, the first one is what the pipeline fails for, at
once and whatever else is against it; otherwise the target is opened first, and a target that cannot
be opened is what it fails for; otherwise the pipes are made, and a pipe for which there is no room
is what it fails for, with everything given up again. No process is made before all that has gone
well, and each process that is made is given the words of its stage, byte for byte. -/
theorem early_failures :
    (∀ word, firstNul? pipeline = some word →
      execute pipeline command = .pure (.error (.nul word))) ∧
    (firstNul? pipeline = none → TargetFirst launch pipeline command) ∧
    PipesNext launch shell m p pipeline command ∧
    StagesLast launch shell m p pipeline command :=
  ⟨fun _ => execute_of_nul, targetFirst, pipesNext horderly hp hordered,
    stagesLast horderly hp hordered⟩

end Order

/-- A shell with room for one more open file starts nothing for two programs, of which one feeds the
other: it is refused the pipe. -/
theorem crammed_starts_nothing :
    ∃ ledger q errno, Course (fun _ _ => none) 1 (begun crammed crammedShell joint "yes | head")
      ledger [] (crammed.setProcess q) ∧ q.program = .pure (.error (.pipe errno)) ∧
      ledger.children = [] ∧ q.table = crammedShell.table := by
  have hsound : crammed.Sound := .of_terminal rfl (by decide) (by unfold Table.Ordered; decide) rfl
    (by decide)
  have hordered : crammedShell.table.Ordered := hsound.ordered _ List.mem_cons_self
  have hrefused : (crammed.setProcess refusedShell).process? 1 = some refusedShell := rfl
  obtain ⟨ledger, hcourse⟩ : ∃ ledger, Course (fun _ _ => none) 1
      (begun crammed crammedShell joint "yes | head") ledger [] (crammed.setProcess refusedShell) :=
    ⟨_, .own .start rfl rfl hrefused⟩
  have hclean : Clean joint := ⟨by decide, fun target htarget => by cases htarget⟩
  have hpipes : PipesNext (fun _ _ => none) 1 crammed crammedShell joint "yes | head" :=
    (early_failures hsound.orderly rfl hordered).2.2.1
  obtain ⟨hnone, -⟩ :=
    hpipes (openable_of_unredirected hsound.orderly rfl hordered hclean rfl) (by decide) (by decide)
      hcourse hrefused rfl
  exact ⟨ledger, refusedShell, .tooManyFiles, hcourse, rfl, hnone, rfl⟩

end LineShell.Onset
