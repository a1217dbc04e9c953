import LineShell.Proofs.Line.Inspection
import LineShell.Proofs.Line.Reading
import LineShell.Proofs.Pipeline.LineCourse
import LineShell.Proofs.Shell.Repertoire
import Mathlib

/-!
# One verdict for each line

What the shell itself writes to standard error while it runs a line, whatever the system and the
children do and whatever the shell's own commands are.

* **`execute_outcome`** — running a pipeline writes nothing to standard error, reports one code for
  each stage, and forks nothing if it fails without being fatal;
* **`runLine_verdict`** — a line is blank and nothing is done, or it is refused by one line and
  without a fork, or it is reported by one line behind everything else, or the shell fails and
  says nothing.
-/

namespace LineShell.Verdicts

open Prog RawText

variable {α β : Type}

/-- The process writes to standard error. -/
def IsComplaint (call : Call) : Prop := ∃ bytes, call = .write Fd.stderr bytes

/-- The process writes to standard error or makes a copy of itself. -/
def IsLoud (call : Call) : Prop := IsComplaint call ∨ call = .fork

/-- What is not loud is no complaint. -/
theorem avoids_complaint {program : Prog α} (h : Avoids IsLoud program) :
    Avoids IsComplaint program :=
  fun trace value hyields exchange hmem hcomplaint =>
    h trace value hyields exchange hmem (.inl hcomplaint)

/-- Requests other than these two are not loud. -/
theorem not_isLoud {call : Call} (hwrite : ∀ bytes, call ≠ .write Fd.stderr bytes)
    (hfork : call ≠ .fork) : ¬IsLoud call := by
  rintro (⟨bytes, heq⟩ | heq)
  · exact hwrite bytes heq
  · exact hfork heq

/-! ## Starting and waiting -/

/-- Nothing loud is asked before a process is started. -/
theorem avoids_handling {program : Prog α} (h : Asks Repertoire.IsHandling program) :
    Avoids IsLoud program := by
  refine Repertoire.avoids_of_asks h ?_
  rintro call hcall (⟨bytes, rfl⟩ | rfl)
  · exact hcall
  · exact hcall

theorem avoids_waiting {program : Prog α} (h : Asks Repertoire.IsWaiting program) :
    Avoids IsComplaint program := by
  refine Repertoire.avoids_of_asks h ?_
  rintro call hcall ⟨bytes, rfl⟩
  exact hcall

theorem avoids_closeAll (left : List Fd) : Avoids IsComplaint (Plumbing.closeAll left) :=
  avoids_complaint (avoids_handling (Course.asks_closeAll (fun _ => trivial) left))

/-- The process of a stage does not come back. -/
theorem not_yields_runStage {plumbing : Plumbing} {stage : Nat} {arguments : List Bytes}
    {trace : List Exchange} {value : α} : ¬Yields (runStage plumbing stage arguments) trace value := by
  intro h
  obtain ⟨wired, _, _, -, -, h⟩ := yields_bind_iff.mp h
  obtain ⟨-, _, _, -, -, h⟩ := yields_bind_iff.mp h
  cases wired with
  | error errno =>
      obtain ⟨-, _, _, -, -, h⟩ := yields_bind_iff.mp h
      exact not_yields_exit h
  | ok _ =>
      obtain ⟨-, _, _, -, -, h⟩ := yields_bind_iff.mp h
      obtain ⟨-, _, _, -, -, h⟩ := yields_bind_iff.mp h
      exact not_yields_exit h

/-- Only the copies that come of a fork write to standard error, and they do not come back. -/
theorem avoids_start (plumbing : Plumbing) (stage : Nat) (programs : List (List Bytes))
    (children : List Pid) : Avoids IsComplaint (start plumbing stage programs children) := by
  induction programs generalizing stage children with
  | nil => exact avoids_pure _
  | cons arguments rest ih =>
      have hfork : ¬IsComplaint .fork := by simp [IsComplaint]
      refine (avoids_call hfork).bind fun forked => ?_
      rcases forked with errno | child | _
      · refine (avoids_closeAll _).bind fun _ => ?_
        exact (avoids_waiting (Repertoire.asks_reap _)).bind fun _ => avoids_pure _
      · exact ih _ _
      · exact fun trace value h => absurd h not_yields_runStage

/-- There are so many of them, or the failure is fatal. -/
def Amounts (count : Nat) : Except ExecFailure (List β) → Prop
  | .ok results => results.length = count
  | .error failure => failure.fatal = true

/-- There is one process for each stage. -/
theorem start_outcome {plumbing : Plumbing} {stage : Nat} {programs : List (List Bytes)}
    {children : List Pid} {trace : List Exchange} {result : Except ExecFailure (List Pid)}
    (h : Yields (start plumbing stage programs children) trace result) :
    Amounts (children.length + programs.length) result := by
  induction programs generalizing stage children trace with
  | nil =>
      obtain ⟨rfl, -⟩ := yields_pure_iff.mp h
      rfl
  | cons arguments rest ih =>
      obtain ⟨forked, _, _, -, -, h⟩ := yields_bind_iff.mp h
      rcases forked with errno | child | _
      · obtain ⟨-, _, _, -, -, h⟩ := yields_bind_iff.mp h
        obtain ⟨-, _, _, -, -, h⟩ := yields_bind_iff.mp h
        obtain ⟨rfl, -⟩ := yields_pure_iff.mp h
        rfl
      · have hmore := ih h
        rw [List.length_append, List.length_singleton, Nat.add_assoc, Nat.add_comm 1] at hmore
        exact hmore
      · exact absurd h not_yields_runStage

/-- There is one code for each child. -/
theorem awaitAll_outcome {children : List Pid} {trace : List Exchange}
    {result : Except ExecFailure (List Int)} (h : Yields (awaitAll children) trace result) :
    Amounts children.length result := by
  induction children generalizing trace result with
  | nil =>
      obtain ⟨rfl, -⟩ := yields_pure_iff.mp h
      rfl
  | cons child rest ih =>
      obtain ⟨code, _, _, -, -, h⟩ := yields_bind_iff.mp h
      cases code with
      | error errno =>
          obtain ⟨rfl, -⟩ := yields_pure_iff.mp h
          rfl
      | ok code =>
          obtain ⟨codes, _, _, -, hcodes, h⟩ := yields_bind_iff.mp h
          have hmore := ih hcodes
          cases codes with
          | error failure =>
              obtain ⟨rfl, -⟩ := yields_pure_iff.mp h
              exact hmore
          | ok codes =>
              obtain ⟨rfl, -⟩ := yields_pure_iff.mp h
              exact congrArg (· + 1) hmore

/-! ## Running a pipeline -/

theorem avoids_execute (pipeline : Pipeline) (command : String) :
    Avoids IsComplaint (execute pipeline command) := by
  unfold execute
  cases pipeline.stages.mapM Stage.argumentBytes with
  | error word => exact avoids_pure _
  | ok programs =>
      refine (avoids_complaint (avoids_handling (Repertoire.asks_openTarget _))).bind fun opened => ?_
      cases opened with
      | error failure => exact avoids_pure _
      | ok target =>
          refine (avoids_complaint (avoids_handling (Repertoire.asks_lay _ _))).bind fun laid => ?_
          cases laid with
          | error errno => exact avoids_pure _
          | ok plumbing =>
              have hflush : ¬IsComplaint .flush := by simp [IsComplaint]
              refine (avoids_call hflush).bind fun _ => (avoids_start _ _ _ _).bind fun started => ?_
              cases started with
              | error failure => exact avoids_pure _
              | ok children =>
                  refine (avoids_closeAll _).bind fun _ => ?_
                  refine (avoids_waiting (Repertoire.asks_awaitAll _)).bind fun awaited => ?_
                  cases awaited <;> exact avoids_pure _

/-- What a pipeline may come to by way of these exchanges: a report of the command with one code
for each stage, a fatal failure, or a failure before anything was forked. -/
def PipelineOutcome (pipeline : Pipeline) (command : String) (trace : List Exchange) :
    Except ExecFailure Report → Prop
  | .ok report => report.command = command ∧ report.codes.length = pipeline.stages.length
  | .error failure => failure.fatal = true ∨ ∀ exchange ∈ trace, ¬IsLoud exchange.call

theorem execute_outcome {pipeline : Pipeline} {command : String} {trace : List Exchange}
    {result : Except ExecFailure Report} (h : Yields (execute pipeline command) trace result) :
    PipelineOutcome pipeline command trace result := by
  unfold execute at h
  cases hwords : pipeline.stages.mapM Stage.argumentBytes with
  | error word =>
      rw [hwords] at h
      obtain ⟨rfl, rfl⟩ := yields_pure_iff.mp h
      exact .inr fun exchange hmem => by cases hmem
  | ok programs =>
      rw [hwords] at h
      obtain ⟨opened, first, second, rfl, hopened, h⟩ := yields_bind_iff.mp h
      cases opened with
      | error failure =>
          -- the only failure that is not fatal, and nothing has been forked before it
          obtain ⟨rfl, rfl⟩ := yields_pure_iff.mp h
          rw [List.append_nil]
          exact .inr (avoids_handling (Repertoire.asks_openTarget _) _ _ hopened)
      | ok target =>
          obtain ⟨laid, _, _, -, -, h⟩ := yields_bind_iff.mp h
          cases laid with
          | error errno =>
              obtain ⟨rfl, -⟩ := yields_pure_iff.mp h
              exact .inl rfl
          | ok plumbing =>
              obtain ⟨-, _, _, -, -, h⟩ := yields_bind_iff.mp h
              obtain ⟨started, _, _, -, hstarted, h⟩ := yields_bind_iff.mp h
              have hcount := start_outcome hstarted
              cases started with
              | error failure =>
                  obtain ⟨rfl, -⟩ := yields_pure_iff.mp h
                  exact .inl hcount
              | ok children =>
                  obtain ⟨-, _, _, -, -, h⟩ := yields_bind_iff.mp h
                  obtain ⟨awaited, _, _, -, hawaited, h⟩ := yields_bind_iff.mp h
                  have hcodes := awaitAll_outcome hawaited
                  cases awaited with
                  | error failure =>
                      obtain ⟨rfl, -⟩ := yields_pure_iff.mp h
                      exact .inl hcodes
                  | ok codes =>
                      obtain ⟨rfl, -⟩ := yields_pure_iff.mp h
                      have hstages := (forall₂_of_mapM_eq_ok hwords).length_eq
                      rw [List.length_nil, Nat.zero_add] at hcount
                      exact ⟨rfl, (hcodes.trans hcount).trans hstages.symm⟩

/-! ## The stages of a line -/

theorem length_pieces (text : List Char) : (pieces text).length = text.count '|' + 1 := by
  unfold pieces
  rw [List.splitOn_eq_splitOnP]
  induction text with
  | nil => rfl
  | cons c rest ih =>
      rw [List.splitOnP_cons_eq_if_modifyHead, List.count_cons]
      split
      · rw [List.length_cons, ih]
      · rw [List.length_modifyHead, ih, Nat.add_zero]

theorem count_dropWhile {p : Char → Bool} {c : Char} (h : p c = false) (text : List Char) :
    (text.dropWhile p).count c = text.count c := by
  induction text with
  | nil => rfl
  | cons d rest ih =>
      rw [List.dropWhile_cons]
      split
      case isTrue hd =>
        have hne : d ≠ c := by
          rintro rfl
          exact absurd hd (by simp [h])
        rw [ih, List.count_cons_of_ne hne]
      case isFalse => rfl

/-- Blanks are no pipes, so a line has as many pieces as what is left of it without the blanks at
its ends. -/
theorem length_pieces_trim (text : List Char) :
    (pieces (Text.trim text)).length = (pieces text).length := by
  have hpipe : Text.isBlank '|' = false := by decide
  unfold Text.trim Text.trimRight Text.trimLeft
  rw [length_pieces, length_pieces, List.count_reverse, count_dropWhile hpipe,
    List.count_reverse, count_dropWhile hpipe]

/-- A line that is read as a pipeline has as many stages as pieces. -/
theorem length_stages {limit : Nat} {line : String} {pipeline : Pipeline}
    (h : Pipeline.ofTokens limit (Token.ofLine (Text.trimString line)) = .ok pipeline) :
    pipeline.stages.length = (pieces line.toList).length := by
  obtain ⟨rest, -, -, harguments⟩ := Pipeline.parts_of_ofTokens h
  have hlength := congrArg List.length harguments
  unfold Token.ofLine Text.trimString at hlength
  rw [List.length_map, List.length_map, List.length_append, initChunks_scan, List.length_map,
    String.toList_ofList] at hlength
  rw [hlength, ← length_pieces_trim, pieces_eq, List.length_append]
  rfl

/-- A line that is read as a pipeline is one that the parser accepts. -/
theorem ofTokens_of_yields_readLine {config : Config} {tokens : List Token}
    {trace : List Exchange} {pipeline : Pipeline}
    (h : Yields (Shell.readLine config tokens) trace (.ok pipeline)) :
    Pipeline.ofTokens config.maxArguments tokens = .ok pipeline := by
  rcases ends_readLine_iff.mp h with ⟨fault, -, heq⟩ | ⟨-, heq⟩
  · cases heq
  · exact heq.symm

theorem length_of_simple? {pipeline : Pipeline} {stage : Stage}
    (h : pipeline.simple? = some stage) : pipeline.stages.length = 1 := by
  unfold Pipeline.simple? at h
  split at h
  · rfl
  · cases h

/-! ## The verdicts -/

/-- The line asks for a command of the shell's own: it is read as a single stage without a
redirection, and the table has the command for that stage. -/
def Calls (shell : Shell) (line : String) (command : Command) : Prop :=
  ∃ pipeline stage,
    Pipeline.ofTokens shell.config.maxArguments (Token.ofLine (Text.trimString line)) =
      .ok pipeline ∧
    pipeline.simple? = some stage ∧ shell.commands.find? stage = some command

/-- The texts with which the shell refuses a line of its own accord. -/
def IsRefusal (message : String) : Prop :=
  (∃ fault : LineFault, message = fault.message) ∨
    ∃ word : NulWord, message = (ExecFailure.nul word).message

/-- The request that refuses a line. -/
def refusal (message : String) : Call :=
  .write Fd.stderr (Text.bytesOf ("Error: " ++ message ++ "\n"))

/-- The request that reports a line. -/
def completion (report : Report) : Call := .write Fd.stderr (Text.bytesOf report.emitted)

/-- `Account shell environment line trace outcome later`: for the line the shell has made the
exchanges of the trace, and what it has come to accounts for them. -/
inductive Account (shell : Shell) (environment : Environment) (line : String) :
    List Exchange → Except ExecFailure Verdict → Environment → Prop
  /-- Nothing was done. -/
  | blank : Blank line.toList → Account shell environment line [] (.ok .blank) environment
  /-- The shell refused the line of its own accord, and nothing was forked. -/
  | refused {before message answer} : ¬Blank line.toList →
      (∀ exchange ∈ before, ¬IsLoud exchange.call) → IsRefusal message →
      Account shell environment line (before ++ [⟨refusal message, answer⟩]) (.ok .rejected)
        environment
  /-- A command of the shell's own failed, and its text is the reason that is given. -/
  | failed {before aside command message later answer} : ¬Blank line.toList →
      (∀ exchange ∈ before, ¬IsLoud exchange.call) → Calls shell line command →
      Yields (command environment) aside (.error message, later) →
      Account shell environment line (before ++ aside ++ [⟨refusal message, answer⟩])
        (.ok .rejected) later
  /-- A command of the shell's own came to a code, and the line has a single stage. -/
  | served {before aside command code later answer} : ¬Blank line.toList →
      (∀ exchange ∈ before, ¬IsLoud exchange.call) → Calls shell line command →
      Yields (command environment) aside (.ok code, later) → (pieces line.toList).length = 1 →
      Account shell environment line
        (before ++ aside ++ [⟨completion ⟨Text.trimString line, [code]⟩, answer⟩])
        (.ok (.completed ⟨Text.trimString line, [code]⟩)) later
  /-- Programs were run, and there is a code for each stage. -/
  | reported {before report answer} : ¬Blank line.toList →
      (∀ exchange ∈ before, ¬IsComplaint exchange.call) →
      report.command = Text.trimString line →
      report.codes.length = (pieces line.toList).length →
      Account shell environment line (before ++ [⟨completion report, answer⟩])
        (.ok (.completed report)) environment
  /-- The system refused a pipe, a fork or a wait, and the shell has said nothing. -/
  | broken {trace failure} : ¬Blank line.toList → failure.fatal = true →
      (∃ errno, failure = .pipe errno ∨ failure = .fork errno ∨ failure = .wait errno) →
      (∀ exchange ∈ trace, ¬IsComplaint exchange.call) →
      Account shell environment line trace (.error failure) environment

theorem yields_complain {text : Bytes} {trace : List Exchange} {done : Unit}
    (h : Yields (complain text) trace done) :
    ∃ answer, trace = [⟨.write Fd.stderr text, answer⟩] := by
  obtain ⟨answer, _, _, rfl, hwritten, h⟩ := yields_bind_iff.mp h
  obtain ⟨-, rfl⟩ := yields_pure_iff.mp h
  rw [yields_call_iff.mp hwritten]
  exact ⟨answer, rfl⟩

theorem yields_reject {message : String} {trace : List Exchange} {verdict : Verdict}
    (h : Yields (Shell.reject message) trace verdict) :
    verdict = .rejected ∧ ∃ answer, trace = [⟨refusal message, answer⟩] := by
  obtain ⟨done, _, _, rfl, hcomplained, h⟩ := yields_bind_iff.mp h
  obtain ⟨rfl, rfl⟩ := yields_pure_iff.mp h
  obtain ⟨answer, rfl⟩ := yields_complain hcomplained
  exact ⟨rfl, answer, rfl⟩

theorem yields_complete {report : Report} {trace : List Exchange} {verdict : Verdict}
    (h : Yields (Shell.complete report) trace verdict) :
    verdict = .completed report ∧ ∃ answer, trace = [⟨completion report, answer⟩] := by
  obtain ⟨done, _, _, rfl, hcomplained, h⟩ := yields_bind_iff.mp h
  obtain ⟨rfl, rfl⟩ := yields_pure_iff.mp h
  obtain ⟨answer, rfl⟩ := yields_complain hcomplained
  exact ⟨rfl, answer, rfl⟩

/-- The fatal failures are those of a pipe, a fork and a wait. -/
theorem fatal_cases {failure : ExecFailure} (h : failure.fatal = true) :
    ∃ errno, failure = .pipe errno ∨ failure = .fork errno ∨ failure = .wait errno := by
  cases failure with
  | pipe errno => exact ⟨errno, .inl rfl⟩
  | fork errno => exact ⟨errno, .inr (.inl rfl)⟩
  | wait errno => exact ⟨errno, .inr (.inr rfl)⟩
  | target path cause => cases h
  | nul word => cases h

section Line

variable {shell : Shell} {environment later : Environment} {line : String}
  {before trace : List Exchange}

/-- To write what is held back for standard output is not loud. -/
theorem quiet_append_flush (h : ∀ exchange ∈ before, ¬IsLoud exchange.call)
    (answer : Call.flush.Result) :
    ∀ exchange ∈ before ++ [⟨.flush, answer⟩], ¬IsLoud exchange.call := by
  refine List.forall_mem_append.mpr ⟨h, fun exchange hmem => ?_⟩
  rw [List.mem_singleton.mp hmem]
  exact not_isLoud (by simp) (by simp)

/-- The account of a line that the shell refuses. -/
theorem account_reject {message : String} {verdict : Verdict}
    (hline : ¬Blank line.toList)
    (hbefore : ∀ exchange ∈ before, ¬IsLoud exchange.call) (hmessage : IsRefusal message)
    (h : Yields (Shell.reject message) trace verdict) :
    Account shell environment line (before ++ trace) (.ok verdict) environment := by
  obtain ⟨rfl, answer, rfl⟩ := yields_reject h
  exact .refused hline hbefore hmessage

/-- The account of a line that asks for a command of the shell's own. -/
theorem account_runCommand {command : Command} {verdict : Verdict}
    (hline : ¬Blank line.toList)
    (hbefore : ∀ exchange ∈ before, ¬IsLoud exchange.call) (hcalls : Calls shell line command)
    (hsingle : (pieces line.toList).length = 1)
    (h : Yields (Shell.runCommand command environment (Text.trimString line)) trace
      (verdict, later)) :
    Account shell environment line (before ++ trace) (.ok verdict) later := by
  obtain ⟨flushed, _, _, rfl, hflush, h⟩ := yields_bind_iff.mp h
  have hquiet := quiet_append_flush hbefore flushed
  rw [yields_call_iff.mp hflush]
  obtain ⟨⟨reply, between⟩, aside, _, rfl, hcommand, h⟩ := yields_bind_iff.mp h
  cases reply with
  | error message =>
      obtain ⟨_, _, _, rfl, hreject, h⟩ := yields_bind_iff.mp h
      obtain ⟨heq, rfl⟩ := yields_pure_iff.mp h
      obtain ⟨rfl, answer, rfl⟩ := yields_reject hreject
      cases heq
      rw [← List.append_assoc, ← List.append_assoc, List.append_nil]
      exact .failed hline hquiet hcalls hcommand
  | ok code =>
      obtain ⟨_, _, _, rfl, hcomplete, h⟩ := yields_bind_iff.mp h
      obtain ⟨heq, rfl⟩ := yields_pure_iff.mp h
      obtain ⟨rfl, answer, rfl⟩ := yields_complete hcomplete
      cases heq
      rw [← List.append_assoc, ← List.append_assoc, List.append_nil]
      exact .served hline hquiet hcalls hcommand hsingle

/-- The account of a line of programs. -/
theorem account_runPipeline {pipeline : Pipeline} {outcome : Except ExecFailure Verdict}
    (hline : ¬Blank line.toList) (hbefore : ∀ exchange ∈ before, ¬IsLoud exchange.call)
    (hstages : pipeline.stages.length = (pieces line.toList).length)
    (h : Yields (Shell.runPipeline pipeline (Text.trimString line)) trace outcome) :
    Account shell environment line (before ++ trace) outcome environment := by
  obtain ⟨flushed, _, _, rfl, hflush, h⟩ := yields_bind_iff.mp h
  have hquiet := quiet_append_flush hbefore flushed
  rw [yields_call_iff.mp hflush]
  obtain ⟨result, first, _, rfl, hexecute, h⟩ := yields_bind_iff.mp h
  have hcomplaints : ∀ exchange ∈ before ++ [⟨.flush, flushed⟩] ++ first,
      ¬IsComplaint exchange.call :=
    List.forall_mem_append.mpr ⟨fun exchange hmem hcomplaint =>
      hquiet exchange hmem (.inl hcomplaint), avoids_execute pipeline _ _ _ hexecute⟩
  have houtcome := execute_outcome hexecute
  rw [← List.append_assoc, ← List.append_assoc]
  cases result with
  | ok report =>
      obtain ⟨_, _, _, rfl, hcomplete, h⟩ := yields_bind_iff.mp h
      obtain ⟨rfl, rfl⟩ := yields_pure_iff.mp h
      obtain ⟨rfl, answer, rfl⟩ := yields_complete hcomplete
      rw [List.append_nil]
      exact .reported hline hcomplaints houtcome.1 (houtcome.2.trans hstages)
  | error failure =>
      cases failure with
      | pipe errno | fork errno | wait errno =>
          obtain ⟨rfl, rfl⟩ := yields_pure_iff.mp h
          rw [List.append_nil]
          exact .broken hline rfl (fatal_cases rfl) hcomplaints
      | target path cause =>
          -- the failure is not fatal, so nothing was forked before the line is refused for it
          have hunforked := houtcome.resolve_left Bool.false_ne_true
          obtain ⟨_, _, _, rfl, hreject, h⟩ := yields_bind_iff.mp h
          obtain ⟨rfl, rfl⟩ := yields_pure_iff.mp h
          rw [List.append_nil]
          exact account_reject hline (List.forall_mem_append.mpr ⟨hquiet, hunforked⟩)
            (.inl ⟨.cannotOpenFile, rfl⟩) hreject
      | nul word =>
          have hunforked := houtcome.resolve_left Bool.false_ne_true
          obtain ⟨_, _, _, rfl, hreject, h⟩ := yields_bind_iff.mp h
          obtain ⟨rfl, rfl⟩ := yields_pure_iff.mp h
          rw [List.append_nil]
          exact account_reject hline (List.forall_mem_append.mpr ⟨hquiet, hunforked⟩)
            (.inr ⟨word, rfl⟩) hreject

end Line

/-- **One verdict for each line.** Whatever the commands of the shell, the line, the system and
the children are: where `runLine` comes back by way of some exchanges, they account for what it
comes to, and it says that the line is blank exactly if it is. -/
theorem runLine_verdict {shell : Shell} {environment later : Environment} {line : String}
    {trace : List Exchange} {outcome : Except ExecFailure Verdict}
    (h : Yields (shell.runLine environment line) trace (outcome, later)) :
    Account shell environment line trace outcome later ∧
      (outcome = .ok .blank ↔ Blank line.toList) := by
  suffices haccount : Account shell environment line trace outcome later by
    refine ⟨haccount, ?_⟩
    cases haccount <;> simp_all
  have hempty : (Text.trimString line).isEmpty = true ↔ Blank line.toList := isEmpty_ofList_trim
  unfold Shell.runLine at h
  dsimp only at h
  split at h
  case isTrue htrim =>
    obtain ⟨heq, rfl⟩ := yields_pure_iff.mp h
    cases heq
    exact .blank (hempty.mp htrim)
  case isFalse htrim =>
    have hline : ¬Blank line.toList := fun hblank => htrim (hempty.mpr hblank)
    -- what is exchanged until the line has been read is silent, whatever comes of the line
    obtain ⟨read, first, _, rfl, hread, h⟩ := yields_bind_iff.mp h
    have hquiet := avoids_handling (Repertoire.asks_readLine _ _) _ _ hread
    cases read with
    | error fault =>
        obtain ⟨verdict, _, _, rfl, hreject, h⟩ := yields_bind_iff.mp h
        obtain ⟨heq, rfl⟩ := yields_pure_iff.mp h
        cases heq
        rw [List.append_nil]
        exact account_reject hline hquiet (.inl ⟨fault, rfl⟩) hreject
    | ok pipeline =>
        have hparsed := ofTokens_of_yields_readLine hread
        have hstages := length_stages hparsed
        cases hcommand : pipeline.simple?.bind shell.commands.find? with
        | some command =>
            simp only [hcommand] at h
            obtain ⟨⟨verdict, after⟩, _, _, rfl, hrun, h⟩ := yields_bind_iff.mp h
            obtain ⟨heq, rfl⟩ := yields_pure_iff.mp h
            cases heq
            obtain ⟨stage, hsimple, hfind⟩ := Option.bind_eq_some_iff.mp hcommand
            rw [List.append_nil]
            exact account_runCommand hline hquiet ⟨pipeline, stage, hparsed, hsimple, hfind⟩
              (hstages ▸ length_of_simple? hsimple) hrun
        | none =>
            simp only [hcommand] at h
            obtain ⟨result, _, _, rfl, hrun, h⟩ := yields_bind_iff.mp h
            obtain ⟨heq, rfl⟩ := yields_pure_iff.mp h
            cases heq
            rw [List.append_nil]
            exact account_runPipeline hline hquiet hstages hrun

/-- Two programs, the first one feeding the second one. -/
def feeding : Pipeline := ⟨[⟨"yes", []⟩, ⟨"head", []⟩], none⟩

/-- An interruption, a first stage that a broken pipe kills and a second one that ends well. -/
def feedingTrace : List Exchange :=
  [⟨.flush, .ok ()⟩, ⟨.pipe, .ok (3, 4)⟩, ⟨.flush, .ok ()⟩, ⟨.fork, .ok (.parent 2)⟩,
   ⟨.fork, .ok (.parent 3)⟩, ⟨.close 3, .ok ()⟩, ⟨.close 4, .ok ()⟩,
   ⟨.wait (some 2), .error .interrupted⟩, ⟨.wait (some 2), .ok (2, .ended (.killed 13))⟩,
   ⟨.wait (some 3), .ok (3, .ended (.exited 0))⟩,
   ⟨completion ⟨"yes | head", [141, 0]⟩, .ok ()⟩]

/-- A shell without commands of its own runs the two programs and reports them. -/
theorem feeding_accounted : Account ⟨{}, []⟩ ⟨[47], false⟩ "yes | head" feedingTrace
    (.ok (.completed ⟨"yes | head", [141, 0]⟩)) ⟨[47], false⟩ := by
  have hline : Text.trimString "yes | head" = "yes | head" := rfl
  have hparsed : Pipeline.ofTokens 16 (Token.ofLine (Text.trimString "yes | head")) =
      .ok feeding := by cbv
  have hreplay : replay feedingTrace (Shell.runLine ⟨{}, []⟩ ⟨[47], false⟩ "yes | head") =
      some (.ok (.completed ⟨"yes | head", [141, 0]⟩), ⟨[47], false⟩) := by
    rw [Course.runLine_eq hparsed rfl, hline]
    rfl
  exact (runLine_verdict (yields_of_replay hreplay)).1

end LineShell.Verdicts
