import LineShell.Proofs.Pipeline.LineCourse
import LineShell.Proofs.Pipeline.Prospects
import LineShell.Proofs.Shell.Repertoire
import LineShell.Proofs.System.Streams
import LineShell.Shell.Builtin
import Mathlib

/-!
# What a refused line leaves of the files

A line that is refused has changed no file, with one exception: if it passes the checks of its
structure and the trial with its file, and is refused only then, the trial has opened the file.

* **`Mild`** — what is still to be done leaves the files alone, or opens the target once more and
  does not refuse the line after that;
* **`runLine_cases`** — so does a line, or it begins with the trial with its file;
* **`mild_step`**, **`at_step`** — what each step of the shell keeps;
* **`Confined`** — what the trial changes;
* **`files_of_rejected`** — where the shell comes to refuse a line, the files are as before, or as
  the trial has left them.
-/

namespace LineShell.Refusal

open LineShell.System LineShell.Course Prog

variable {launch : Launcher} {s s' after : System Answer} {pid : Pid} {p q : Process Answer}

/-! ## Programs -/

/-- The request leaves the files alone, but for what the standard streams lead to. -/
def IsMild : Call → Prop
  | .write fd _ => fd = Fd.stderr
  | .flush | .put _ | .names _ | .status .. | .canonical _ | .changeDirectory _ | .bindings => True
  | _ => False

/-- Whatever it is answered, the shell does not refuse the line any more. -/
abbrev Committed : Prog Answer → Prop := Comes fun answer => answer.1 ≠ .ok .rejected

/-- Whatever it is answered, the shell leaves the files alone until it is committed to the line, or
opens a path and is committed once that has succeeded. -/
inductive Mild : Prog Answer → Prop
  | finished {answer} : Mild (.pure answer)
  | committed {program} : Committed program → Mild program
  | ask {call again next} : IsMild call → (∀ answer, Mild (next answer)) →
      Mild (.ask call again next)
  | reopen {path access closeOnExec again next} : (∀ fd, again (.ok fd) = false) →
      (∀ errno, Mild (next (.error errno))) → (∀ fd, Committed (next (.ok fd))) →
      Mild (.ask (.openPath path access closeOnExec) again next)

theorem Mild.of_asks {program : Prog Answer} (h : Asks IsMild program) : Mild program := by
  induction h with
  | pure => exact .finished
  | ask hcall _ ih => exact .ask hcall ih

theorem mild_of_domestic {call : Call} (h : Repertoire.IsDomestic call) : IsMild call := by
  cases call <;> first
    | exact h
    | trivial

theorem mild_refusing (environment : Environment) (message : String) :
    Mild (refusing environment message) :=
  .of_asks (.ask rfl fun _ => .pure)

/-! ## The way through a pipeline -/

theorem committed_finishing_ok (environment : Environment) (report : Report) :
    Committed (finishing environment (.ok report)) :=
  .ask rfl fun _ => .pure (by simp)

theorem committed_finishing_error (environment : Environment) {failure : ExecFailure}
    (h : failure.fatal = true) : Committed (finishing environment (.error failure)) := by
  cases failure with
  | pipe errno | fork errno | wait errno => exact .pure (by simp)
  | target path cause => cases h
  | nul word => cases h

theorem mild_finishing (environment : Environment) {failure : ExecFailure}
    (h : failure.fatal = false) : Mild (finishing environment (.error failure)) := by
  cases failure with
  | pipe errno | fork errno | wait errno => cases h
  | target path cause => exact mild_refusing environment _
  | nul word => exact mild_refusing environment _

/-- A pipeline of programs is not refused any more once its target is open. -/
theorem mild_running (environment : Environment) (text : String) (pipeline : Pipeline) :
    Mild (running environment text pipeline) := by
  have hlaying : ∀ programs count plumbing,
      Committed (laying text (finishing environment) programs count plumbing) :=
    comes_laying (committed_finishing_ok environment)
      fun _ => committed_finishing_error environment
  refine .ask trivial fun _ => ?_
  rw [execute_bind]
  cases pipeline.stages.mapM Stage.argumentBytes with
  | error word => exact mild_finishing environment rfl
  | ok programs =>
      dsimp only
      cases pipeline.target with
      | none => exact .committed (hlaying _ _ _)
      | some target =>
          rw [opening_some]
          cases cleanBytes target.path with
          | error word => exact mild_finishing environment rfl
          | ok path =>
              exact .reopen (fun _ => rfl) (fun _ => mild_refusing environment _)
                fun fd => hlaying _ _ _

/-! ## A line -/

/-- What the shell does with a line that has been read. -/
def answering (shell : Shell) (environment : Environment) (text : String) :
    Except LineFault Pipeline → Prog Answer
  | .error fault => refusing environment fault.message
  | .ok pipeline => serving shell environment text pipeline

/-- What the shell does with a line that has passed the inspection. -/
def reading (shell : Shell) (environment : Environment) (text : String) : Prog Answer :=
  answering shell environment text
    (Pipeline.ofTokens shell.config.maxArguments (Token.ofLine text))

/-- What the shell does with a line that has been inspected. -/
def inspected (shell : Shell) (environment : Environment) (text : String) :
    Except LineFault Unit → Prog Answer
  | .error fault => refusing environment fault.message
  | .ok () => reading shell environment text

theorem runLine_eq_inspect {line : String} (h : (Text.trimString line).isEmpty = false)
    (shell : Shell) (environment : Environment) : shell.runLine environment line =
      (inspect (Token.ofLine (Text.trimString line))).bind
        (inspected shell environment (Text.trimString line)) := by
  unfold Shell.runLine
  dsimp only
  rw [h, if_neg Bool.false_ne_true]
  show (Prog.bind (Prog.bind _ _) _) = _
  rw [Prog.bind_assoc]
  congr 1
  funext outcome
  cases outcome with
  | error fault => rfl
  | ok done =>
      show _ = answering shell environment _ _
      show Prog.bind (.pure (Pipeline.ofTokens shell.config.maxArguments _)) _ = _
      cases Pipeline.ofTokens shell.config.maxArguments (Token.ofLine (Text.trimString line)) <;> rfl

theorem mild_reading {shell : Shell} (hbuiltins : shell.commands = Builtin.all)
    (environment : Environment) (text : String) : Mild (reading shell environment text) := by
  unfold reading answering
  split
  · exact mild_refusing environment _
  · rename_i pipeline _
    cases hcommand : pipeline.simple?.bind shell.commands.find? with
    | none =>
        rw [serving_eq hcommand]
        exact mild_running environment text pipeline
    | some command =>
        obtain ⟨stage, -, hfind⟩ := Option.bind_eq_some_iff.mp hcommand
        rw [hbuiltins] at hfind
        unfold serving
        rw [hcommand]
        refine .of_asks (Asks.bind ?_ fun answer => .pure)
        refine .ask trivial fun _ => ((Repertoire.asks_found hfind environment).mono
          fun _ => mild_of_domestic).bind fun answer => ?_
        obtain ⟨message | code, later⟩ := answer
        · exact (Asks.bind (.ask rfl fun _ => .pure) fun _ => .pure)
        · exact (Asks.bind (.ask rfl fun _ => .pure) fun _ => .pure)

/-- What the shell does when it has tried to open the file of a line. -/
def tried (shell : Shell) (environment : Environment) (text : String) :
    Except Errno Fd → Prog Answer
  | .ok fd => .ask (.close fd) (fun _ => false) fun _ => reading shell environment text
  | .error _ => refusing environment LineFault.cannotOpenFile.message

/-- The file that the shell tries to open for a line: the line passes the checks of its structure
and names the path. -/
def Tries (text : String) (path : Bytes) (mode : WriteMode) : Prop :=
  Structure.check (Token.ofLine text) = .ok () ∧
    ∃ target, Structure.target? (Token.ofLine text) = some target ∧ target.mode = mode ∧
      cleanBytes target.path = .ok path

theorem runLine_of_target {line : String} {target : Target} {path : Bytes}
    (hempty : (Text.trimString line).isEmpty = false)
    (hcheck : Structure.check (Token.ofLine (Text.trimString line)) = .ok ())
    (htarget : Structure.target? (Token.ofLine (Text.trimString line)) = some target)
    (hpath : cleanBytes target.path = .ok path) (shell : Shell) (environment : Environment) :
    shell.runLine environment line = .ask (.openPath path target.mode.access true) interrupted
      (tried shell environment (Text.trimString line)) := by
  rw [runLine_eq_inspect hempty]
  unfold inspect
  rw [hcheck, htarget]
  dsimp only
  unfold Target.preflight Target.openFile
  rw [hpath]
  show Prog.ask _ _ _ = Prog.ask _ _ _
  congr 1 <;> funext reply <;> cases reply <;> rfl

/-- A line begins with the trial with its file, or is mild from the beginning. -/
theorem runLine_cases {shell : Shell} (hbuiltins : shell.commands = Builtin.all)
    (environment : Environment) (line : String) :
    Mild (shell.runLine environment line) ∨ ∃ path mode,
      Tries (Text.trimString line) path mode ∧ shell.runLine environment line =
        .ask (.openPath path mode.access true) interrupted
          (tried shell environment (Text.trimString line)) := by
  cases hempty : (Text.trimString line).isEmpty with
  | true =>
      refine .inl ?_
      unfold Shell.runLine
      dsimp only
      rw [hempty, if_pos rfl]
      exact .finished
  | false =>
      rw [runLine_eq_inspect hempty]
      unfold inspect
      cases hcheck : Structure.check (Token.ofLine (Text.trimString line)) with
      | error fault => exact .inl (mild_refusing environment _)
      | ok done =>
          cases htarget : Structure.target? (Token.ofLine (Text.trimString line)) with
          | none => exact .inl (mild_reading hbuiltins environment _)
          | some target =>
              dsimp only
              cases hpath : cleanBytes target.path with
              | error word =>
                  unfold Target.preflight Target.openFile
                  rw [hpath]
                  exact .inl (mild_refusing environment _)
              | ok path =>
                  refine .inr ⟨path, target.mode, ⟨hcheck, target, htarget, rfl, hpath⟩, ?_⟩
                  rw [← runLine_of_target hempty hcheck htarget hpath, runLine_eq_inspect hempty]
                  unfold inspect
                  rw [hcheck, htarget]

/-! ## Files -/

/-- The standard output or the standard error leads to a node. -/
def IsOutput (table : Table) (id : NodeId) : Prop :=
  ∃ fd descriptor, (fd = Fd.stdout ∨ fd = Fd.stderr) ∧ table.get? fd = some descriptor ∧
    descriptor.handle.endpoint = .node id

/-- No node has been made or removed, no name has changed, and what neither the standard output nor
the standard error leads to is as before. -/
structure Spared (table : Table) (files later : Files) : Prop where
  alike : Files.Alike files later
  kept : ∀ id, ¬IsOutput table id → later.node? id = files.node? id

theorem Spared.refl {table : Table} {files : Files} : Spared table files files :=
  ⟨.refl, fun _ _ => rfl⟩

theorem Spared.trans {table : Table} {files later last : Files} (h : Spared table files later)
    (hlast : Spared table later last) : Spared table files last :=
  ⟨h.alike.trans hlast.alike, fun id hid => (hlast.kept id hid).trans (h.kept id hid)⟩

/-- What is written to a standard stream goes to nothing else. -/
theorem spared_writeSome {table : Table} {fd : Fd} {bytes : Bytes} {reply : Except Errno Bytes}
    (hfd : fd = Fd.stdout ∨ fd = Fd.stderr)
    (h : s.writeSome table fd bytes = some (reply, after)) : Spared table s.files after.files := by
  cases writeSome_outcome h with
  | refused | nothing | swallowed | queued => exact .refl
  | @stored descriptor id _ _ hget hend =>
      exact ⟨Files.alike_setBytes, fun other hother =>
        Files.node?_setBytes fun heq => hother ⟨fd, descriptor, hfd, hget, heq ▸ hend⟩⟩

/-! ## Steps -/

/-- The answer to a mild request leaves the machine and the open files as they are. -/
theorem answer_mild {call : Call} {reply : call.Result} {answered : Process Answer}
    (hmild : IsMild call) (hspecial : call.isSpecial = false)
    (h : s.answer p call = some (reply, answered, after)) :
    after = s ∧ answered.pid = p.pid ∧ answered.table = p.table := by
  cases call with
  | put bytes | names path | status path follow | canonical path | bindings =>
      simp only [answer, Option.some.injEq, Prod.mk.injEq] at h
      obtain ⟨-, rfl, rfl⟩ := h
      exact ⟨rfl, rfl, rfl⟩
  | changeDirectory path =>
      simp only [answer] at h
      split at h <;> cases h <;> exact ⟨rfl, rfl, rfl⟩
  | write | flush => cases hspecial
  | _ => exact hmild.elim

theorem mild_proceed {call : Call} {again : call.Result → Bool} {next : call.Result → Prog Answer}
    (h : IsMild call) (hnext : ∀ answer, Mild (next answer)) (answer : call.Result) :
    Mild (Process.proceed call again next answer) := holds_proceed (.ask h hnext) hnext answer

/-- What a step of a mild shell comes to: it is committed, or it is mild as before and has spared
the files. -/
def Proceeds (table : Table) (files : Files) (s' : System Answer) (q : Process Answer) : Prop :=
  Committed q.program ∨ Mild q.program ∧ q.table = table ∧ Spared table files s'.files

/-- A shell that is mild stays so, and leaves the files alone until it is committed. -/
theorem mild_step (hnumbered : ∀ q ∈ s.processes, q.pid < s.nextPid)
    (hp : s.process? pid = some p) (hactive : p.active = true) (h : Mild p.program)
    (hstep : step launch s pid = some s') :
    ∀ q ∈ s'.processes, q.pid = pid → Proceeds p.table s.files s' q := by
  intro q hq hsame
  generalize hprogram : p.program = program at h
  cases h with
  | finished => exact absurd (hstep.symm.trans (step_pure hp hactive hprogram)) (by simp)
  | committed hcommitted =>
      exact .inl (comes_step hnumbered hp hactive (hprogram ▸ hcommitted) hstep q hq hsame)
  | @reopen path access closeOnExec again next hagain herror hok =>
      obtain ⟨reply, answered, after, hopened, rfl⟩ := step_openPath hp hactive hstep hprogram
      cases hopened with
      | @refused errno =>
          -- the path may be asked for once more, or the line is refused for it
          rw [eq_of_own hp hq hsame rfl]
          refine .inr ⟨?_, rfl, .refl⟩
          show Mild (if again _ = true then Prog.ask _ again next else next _)
          split
          · exact .reopen hagain herror hok
          · exact herror errno
      | opened =>
          rw [eq_of_own hp hq hsame rfl]
          refine .inl ?_
          show Committed (if again _ = true then Prog.ask _ again next else next _)
          rw [if_neg (by rw [hagain]; exact Bool.false_ne_true)]
          exact hok p.table.free
  | @ask call again next hcall hnext =>
      have hproceed : ∀ answer, Mild (Process.proceed call again next answer) :=
        mild_proceed hcall hnext
      cases step_cases hp hactive hstep with
      | unrolled heq => cases hprogram.symm.trans heq
      | answered heq hspecial hanswer =>
          cases hprogram.symm.trans heq
          obtain ⟨rfl, hchanged, htable⟩ := answer_mild hcall hspecial hanswer
          rw [eq_of_own hp hq hsame hchanged]
          exact .inr ⟨hproceed _, htable, .refl⟩
      | forked heq | became heq | refused heq | exited heq | read heq | signalled heq =>
          cases hprogram.symm.trans heq
          exact hcall.elim
      | wrote heq hwrite =>
          cases hprogram.symm.trans heq
          have hspared := spared_writeSome (.inr hcall) hwrite
          rw [eq_of_own hp hq hsame rfl]
          exact .inr ⟨holds_writeOn (fun _ => .ask hcall hnext) hnext _, rfl, hspared⟩
      | idle heq =>
          cases hprogram.symm.trans heq
          rw [eq_of_own hp hq hsame rfl]
          exact .inr ⟨hproceed _, rfl, .refl⟩
      | dropped heq _ hwrite =>
          cases hprogram.symm.trans heq
          have hspared := spared_writeSome (.inl rfl) hwrite
          rw [eq_of_own hp hq hsame rfl]
          exact .inr ⟨hproceed _, rfl, hspared⟩
      | flushed _ _ hwrite =>
          have hspared := spared_writeSome (.inl rfl) hwrite
          rw [eq_of_own hp hq hsame rfl]
          exact .inr ⟨hprogram ▸ .ask hcall hnext, rfl, hspared⟩

/-! ## Runs -/

/-- The store in which a shell has opened the file that a line tries. -/
def Opened (text : String) (start : System Answer) (p : Process Answer) (files : Files) : Prop :=
  ∃ path mode endpoint, Tries text path mode ∧
    start.endpointAt p path mode.access = .ok (endpoint, files)

/-- Where the shell is with a line: it tries its file, gives it up again, goes on mildly, or is
committed. The files are as before, or as the trial has left them. -/
inductive At (text : String) (start : System Answer) (first : Process Answer) (s : System Answer)
    (p : Process Answer) : Prop
  | trying {path : Bytes} {mode : WriteMode} {next : Except Errno Fd → Prog Answer} :
      Tries text path mode → p.program = .ask (.openPath path mode.access true) interrupted next →
      (∀ errno, Mild (next (.error errno))) →
      (∀ fd, ∃ rest, next (.ok fd) = .ask (.close fd) (fun _ => false) (fun _ => rest) ∧
        Mild rest) →
      p = first → s.files = start.files → At text start first s p
  | closing {fd : Fd} {descriptor : Descriptor} {rest : Prog Answer} :
      p.program = .ask (.close fd) (fun _ => false) (fun _ => rest) → Mild rest →
      p.table = first.table.set fd descriptor → first.table.get? fd = none →
      Opened text start first s.files → At text start first s p
  | mild {files : Files} : Mild p.program → p.table = first.table →
      files = start.files ∨ Opened text start first files → Spared first.table files s.files →
      At text start first s p
  | committed : Committed p.program → At text start first s p

theorem endpointAt_congr {path : Bytes} {access : Access} (h : s'.files = s.files) :
    s'.endpointAt p path access = s.endpointAt p path access := by
  unfold endpointAt
  rw [h]

/-- Every step brings the shell further on its way. -/
theorem at_step {text : String} {start : System Answer} {first : Process Answer}
    (hordered : first.table.Ordered) (hnumbered : ∀ q ∈ s.processes, q.pid < s.nextPid)
    (hp : s.process? pid = some p) (hactive : p.active = true) (h : At text start first s p)
    (hstep : step launch s pid = some s') :
    ∀ q ∈ s'.processes, q.pid = pid → At text start first s' q := by
  intro q hq hsame
  cases h with
  | @trying path mode next htries hprogram herror hok hfirst hfiles =>
      obtain ⟨reply, answered, after, hopened, rfl⟩ := step_openPath hp hactive hstep hprogram
      cases hopened with
      | @refused errno =>
          rw [eq_of_own hp hq hsame rfl]
          -- an interruption leaves it where it is
          by_cases hretry : interrupted (.error errno) = true
          · have hback : Process.proceed (.openPath path mode.access true) interrupted next
                (.error errno) = p.program := (if_pos hretry).trans hprogram.symm
            rw [hback]
            exact .trying htries hprogram herror hok hfirst hfiles
          · refine .mild ?_ (by rw [hfirst]) (.inl rfl) (hfiles ▸ .refl)
            show Mild (if interrupted _ = true then _ else next _)
            rw [if_neg hretry]
            exact herror errno
      | @opened endpoint files _ hendpoint =>
          rw [eq_of_own hp hq hsame rfl]
          obtain ⟨rest, hnext, hrest⟩ := hok p.table.free
          subst hfirst
          refine .closing hnext hrest rfl hordered.get?_free ⟨path, mode, endpoint, htries, ?_⟩
          exact (endpointAt_congr hfiles).symm.trans hendpoint
  | @closing fd descriptor rest hprogram hrest htable hfree hopened =>
      cases hstep.symm.trans (step_close hp hactive hprogram)
      rw [eq_of_own hp hq hsame rfl]
      refine .mild hrest ?_ (.inr hopened) .refl
      show p.table.erase fd = first.table
      rw [htable, Table.erase_set hfree]
  | @mild files hmild htable hbase hspared =>
      rcases mild_step hnumbered hp hactive hmild hstep q hq hsame with hcommitted |
        ⟨hmild', htable', hspared'⟩
      · exact .committed hcommitted
      · rw [htable] at hspared' htable'
        exact .mild hmild' htable' hbase (hspared.trans hspared')
  | committed hcommitted =>
      exact .committed (comes_step hnumbered hp hactive hcommitted hstep q hq hsame)

/-- The machine has come here by steps of the shell alone. -/
def Alone (launch : Launcher) (shell : Pid) : System Answer → System Answer → Prop :=
  Relation.ReflTransGen fun s s' => step launch s shell = some s'

/-- In a sound machine a shell is about to run a line. -/
structure Begins (shell : Shell) (environment : Environment) (line : String)
    (start : System Answer) (p : Process Answer) : Prop where
  sound : start.Sound
  process : p ∈ start.processes
  program : p.program = shell.runLine environment line

/-- What holds all along of a shell that runs a line. -/
structure Along (text : String) (start : System Answer) (first : Process Answer)
    (s : System Answer) : Prop where
  distinct : s.Distinct
  numbered : ∀ q ∈ s.processes, q.pid < s.nextPid
  onShell : ∀ q ∈ s.processes, q.pid = first.pid → At text start first s q

theorem Begins.along {shell : Shell} {environment : Environment} {line : String}
    {start : System Answer} (hbuiltins : shell.commands = Builtin.all)
    (h : Begins shell environment line start p) : Along (Text.trimString line) start p start := by
  refine ⟨h.sound.distinct, h.sound.numbered, fun q hq hsame => ?_⟩
  obtain rfl := h.sound.distinct.eq_of_pid h.process hq hsame
  rcases runLine_cases hbuiltins environment line with hmild | ⟨path, mode, htries, hprogram⟩
  · exact .mild (h.program ▸ hmild) rfl (.inl rfl) .refl
  · refine .trying htries (h.program.trans hprogram) (fun _ => mild_refusing environment _)
      (fun fd => ⟨_, rfl, mild_reading hbuiltins environment _⟩) rfl rfl

theorem Along.run {text : String} {start : System Answer} {first : Process Answer}
    (hordered : first.table.Ordered) (h : Along text start first start)
    (hrun : Alone launch first.pid start s) : Along text start first s := by
  induction hrun with
  | refl => exact h
  | @tail s s' _ hstep ih =>
      obtain ⟨p, hp, hactive⟩ := process?_of_step hstep
      have hkeeps := step_keeps ih.distinct ih.numbered hstep
      obtain ⟨hmem, hpid⟩ := mem_of_process? hp
      exact ⟨hkeeps.distinct, hkeeps.numbered,
        at_step hordered ih.numbered hp hactive (ih.onShell p hmem hpid) hstep⟩

/-! ## What the trial leaves -/

/-- What a file holds when it has been opened to be written: `>` empties it. -/
def heldIn : WriteMode → Bytes → Bytes
  | .truncate, _ => []
  | .append, old => old

/-- The store has changed at one file only, which is opened as its operator says: it is made if it is
missing, and holds nothing or what it held. -/
structure Confined (mode : WriteMode) (endpoint : Endpoint) (files later : Files) : Prop where
  names : Files.Alike files later ∨ ∃ directory entry id, endpoint = .node id ∧
    Files.Entered files later directory entry id
  others : ∀ id, endpoint ≠ .node id → (∀ parent entries,
    (files.node? id).map Node.content ≠ some (.directory parent entries)) →
    later.node? id = files.node? id
  held : ∀ id old, endpoint = .node id → files.bytesOf? id = some old →
    later.bytesOf? id = some (heldIn mode old)

theorem heldIn_eq {mode : WriteMode} {old : Bytes} :
    heldIn mode old = if mode.access.truncate then [] else old := by
  cases mode <;> rfl

theorem confined_self {mode : WriteMode} {endpoint : Endpoint} {files : Files}
    (h : ∀ id, endpoint ≠ .node id) : Confined mode endpoint files files :=
  ⟨.inl .refl, fun _ _ _ => rfl, fun id _ hend => absurd hend (h id)⟩

theorem confined_afterOpening {mode : WriteMode} {id : NodeId} {files : Files} :
    Confined mode (.node id) files (files.afterOpening mode.access id) := by
  refine ⟨.inl Files.alike_afterOpening, fun other hother _ => ?_, fun other old hend hold => ?_⟩
  · unfold Files.afterOpening
    split
    · exact Files.node?_setBytes fun heq => hother (congrArg _ heq)
    · rfl
  · cases hend
    rw [Files.bytesOf?_afterOpening hold, heldIn_eq]

theorem confined_openPath {mode : WriteMode} {here id : NodeId} {path : Bytes} {mask : Nat}
    {files later : Files} (h : files.openPath here path mode.access mask = .ok (id, later)) :
    Confined mode (.node id) files later := by
  have hcreate : mode.access.create = true := by cases mode <;> rfl
  have hexclusive : mode.access.exclusive = false := by cases mode <;> rfl
  rcases Files.openPath_leads hcreate hexclusive h with ⟨-, rfl⟩ | ⟨-, -, directory, entry, hnew⟩
  · exact confined_afterOpening
  · refine ⟨.inr ⟨directory, entry, id, rfl, hnew⟩, fun other hother hkind => ?_, ?_⟩
    · exact Files.node?_of_openPath hcreate hexclusive h (fun heq => hother (congrArg _ heq.symm))
        hkind
    · -- the new file was none before
      intro other old hend hold
      cases hend
      exact absurd hold (by simp [Files.bytesOf?, hnew.fresh])

theorem confined_reopen {mode : WriteMode} {endpoint opened : Endpoint} {files later : Files}
    (h : reopen files endpoint mode.access = .ok (opened, later)) :
    Confined mode opened files later := by
  unfold reopen at h
  split at h
  · cases h
    exact confined_self fun _ => Endpoint.noConfusion
  · cases h
    exact confined_self fun _ => by split <;> exact Endpoint.noConfusion
  · cases h
    exact confined_self fun _ => by split <;> exact Endpoint.noConfusion
  · split at h
    · cases h
    · split at h
      · cases h
      · split at h
        · cases h
        · cases h
          exact confined_afterOpening

theorem confined_endpointAt {mode : WriteMode} {path : Bytes} {endpoint : Endpoint} {files : Files}
    (h : s.endpointAt p path mode.access = .ok (endpoint, files)) :
    Confined mode endpoint s.files files := by
  cases hown : ownFile? path with
  | none =>
      obtain ⟨id, hopen, rfl⟩ := endpointAt_of_ownFile? hown h
      exact confined_openPath hopen
  | some fd =>
      unfold endpointAt at h
      rw [hown] at h
      dsimp only at h
      split at h
      · cases h
      · exact confined_reopen h

/-- **Refused lines.** Where a shell with its own commands comes to refuse a line, the files are as
before but for what its standard output and standard error lead to; or the line has passed the
checks of its structure and named a file, and has been refused after the trial with that file: then
the file is made if it was missing, emptied if it is to be written over and kept if it is to be
written on, and no other file has changed. -/
theorem files_of_rejected {shell : Shell} {environment later : Environment} {line : String}
    {start : System Answer} (hbuiltins : shell.commands = Builtin.all)
    (hbegins : Begins shell environment line start p) (hrun : Alone launch p.pid start s)
    (hq : q ∈ s.processes) (hpid : q.pid = p.pid) (hrejected : q.program = .pure (.ok .rejected, later)) :
    ∃ files, Spared p.table files s.files ∧ (files = start.files ∨ ∃ path mode endpoint,
      Tries (Text.trimString line) path mode ∧
      start.endpointAt p path mode.access = .ok (endpoint, files) ∧
      Confined mode endpoint start.files files) := by
  have hordered := hbegins.sound.ordered p hbegins.process
  cases ((hbegins.along hbuiltins).run hordered hrun).onShell q hq hpid with
  | trying _ hprogram => exact absurd (hrejected.symm.trans hprogram) (by simp)
  | closing hprogram => exact absurd (hrejected.symm.trans hprogram) (by simp)
  | mild _ _ hbase hspared =>
      refine ⟨_, hspared, hbase.imp_right ?_⟩
      rintro ⟨path, mode, endpoint, htries, hopened⟩
      exact ⟨path, mode, endpoint, htries, hopened, confined_endpointAt hopened⟩
  | committed hcommitted =>
      -- a shell that is committed does not refuse
      rw [hrejected] at hcommitted
      cases hcommitted with
      | pure hne => exact absurd rfl hne

/-! ## A file that is emptied -/

/-- A shell that lets a program have no arguments. -/
def strictShell : Shell := ⟨{ maxArguments := 1 }, Builtin.all⟩

/-- What the shell does when it has tried to open the file. -/
def strictTried : Except Errno Fd → Prog Answer
  | .ok fd => .ask (.close fd) (fun _ => false) fun _ =>
      refusing ⟨[47], false⟩ LineFault.tooManyArguments.message
  | .error _ => refusing ⟨[47], false⟩ LineFault.cannotOpenFile.message

/-- The shell is about to run a line that has one argument too many. -/
def strictProcess : Process Answer where
  pid := 1
  parent := 0
  program := .ask (.openPath [102] WriteMode.truncate.access true) interrupted strictTried
  table := [Fd.stdin, Fd.stdout, Fd.stderr].map fun fd =>
    (fd, ⟨⟨.terminal, { read := true, write := true }, 0⟩, false⟩)
  limit := 64
  directory := Files.root
  bindings := []
  pending := []
  ending := none

/-- A directory with a file that holds two bytes. -/
def strictFiles : Files where
  nodes := [
    { content := .directory Files.root [([102], 1)], mode := 0o755 },
    { content := .regular [1, 2], mode := 0o644 }]

/-- A machine with nothing but the shell. -/
def strictMachine : System Answer where
  files := strictFiles
  cells := [0]
  pipes := []
  typed := []
  processes := [strictProcess]
  nextPid := 2

/-- The machine after steps of the shell. -/
def strictAfter : Nat → System Answer
  | 0 => strictMachine
  | count + 1 => (step (fun _ _ => none) (strictAfter count) 1).getD (strictAfter count)

theorem alone_strictAfter (count : Nat) :
    Alone (fun _ _ => none) 1 strictMachine (strictAfter count) := by
  induction count with
  | zero => exact .refl
  | succ count ih =>
      unfold strictAfter
      cases hstep : step (fun _ _ => none) (strictAfter count) 1 with
      | none => exact ih
      | some later => exact .tail ih hstep

/-- The shell has come to refuse a line. -/
def saysRejected (p : Process Answer) : Bool :=
  match p.program with
  | .pure (.ok .rejected, _) => true
  | _ => false

theorem rejected_of_says (h : saysRejected p = true) :
    ∃ later, p.program = .pure (.ok .rejected, later) := by
  unfold saysRejected at h
  split at h
  · rename_i later hprogram
    exact ⟨later, hprogram⟩
  · exact absurd h (by simp)

theorem runLine_strict : strictShell.runLine ⟨[47], false⟩ "echo hi > f" =
    .ask (.openPath [102] WriteMode.truncate.access true) interrupted strictTried := by
  have hempty : (Text.trimString "echo hi > f").isEmpty = false := by cbv
  have hcheck : Structure.check (Token.ofLine (Text.trimString "echo hi > f")) = .ok () := by cbv
  have htarget : Structure.target? (Token.ofLine (Text.trimString "echo hi > f")) =
      some ⟨"f", .truncate⟩ := by cbv
  have hrefused : Pipeline.ofTokens strictShell.config.maxArguments
      (Token.ofLine (Text.trimString "echo hi > f")) = .error .tooManyArguments := by cbv
  rw [runLine_of_target hempty hcheck htarget rfl]
  show Prog.ask _ _ _ = Prog.ask _ _ _
  congr 1
  funext reply
  cases reply with
  | error errno => rfl
  | ok fd =>
      unfold tried reading
      rw [hrefused]
      rfl

theorem begins_strict : Begins strictShell ⟨[47], false⟩ "echo hi > f" strictMachine strictProcess :=
  ⟨.of_terminal rfl (by decide) (by unfold Table.Ordered; decide) rfl (by decide),
    List.mem_cons_self, runLine_strict.symm⟩

theorem strict_rejected : ∃ q ∈ (strictAfter 3).processes, q.pid = strictProcess.pid ∧
    ∃ later, q.program = .pure (.ok .rejected, later) := by
  have hends : (strictAfter 3).processes.map (fun p => (p.pid, saysRejected p)) = [(1, true)] := by
    cbv
  obtain ⟨q, rest, hlast, hq, -⟩ := List.map_eq_cons_iff.mp hends
  obtain ⟨hpid, hsays⟩ := Prod.mk.inj hq
  refine ⟨q, ?_, hpid, rejected_of_says hsays⟩
  rw [hlast]
  exact List.mem_cons_self

theorem strict_emptied : (strictAfter 3).files.bytesOf? 1 = some [] := by cbv

/-- The line is refused, and the file that it names holds nothing any more. -/
theorem emptied_by_rejected : strictShell.commands = Builtin.all ∧
    Begins strictShell ⟨[47], false⟩ "echo hi > f" strictMachine strictProcess ∧
    Alone (fun _ _ => none) strictProcess.pid strictMachine (strictAfter 3) ∧
    (∃ q ∈ (strictAfter 3).processes, q.pid = strictProcess.pid ∧
      ∃ later, q.program = .pure (.ok .rejected, later)) ∧
    strictMachine.files.bytesOf? 1 = some [1, 2] ∧ (strictAfter 3).files.bytesOf? 1 = some [] :=
  ⟨rfl, begins_strict, alone_strictAfter 3, strict_rejected, rfl, strict_emptied⟩

/-- The file is the only one that has changed. -/
theorem strict_confined : ∃ files, Spared strictProcess.table files (strictAfter 3).files ∧
    (files = strictFiles ∨ ∃ path mode endpoint, Tries (Text.trimString "echo hi > f") path mode ∧
      strictMachine.endpointAt strictProcess path mode.access = .ok (endpoint, files) ∧
      Confined mode endpoint strictFiles files) := by
  obtain ⟨q, hq, hpid, later, hprogram⟩ := strict_rejected
  exact files_of_rejected rfl begins_strict (alone_strictAfter 3) hq hpid hprogram

end LineShell.Refusal
