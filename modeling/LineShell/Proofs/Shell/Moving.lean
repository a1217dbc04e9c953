import LineShell.Proofs.Shell.Dispatch
import LineShell.Proofs.System.Reshaping

/-!
# Which lines move the shell

* **`Abides`** — whatever it is answered, a shell stays in its directory, and ends with a value of
  one kind (`abides_step`);
* **`abides_line`** — so does every line but a lone `cd` the operands of which are understood;
* **`cd_bind`** — such a line asks for a path without links, and then to move there.
-/

namespace LineShell

/-- The request leaves a process where it is, and what it runs. -/
def Call.isStill : Call → Bool
  | .changeDirectory _ => false
  | .flush | .write .. => true
  | call => !call.isSpecial

namespace Whereabouts

open LineShell.System LineShell.Course Prog

variable {α β : Type} {good : α → Prop}

/-! ## Programs that stay where they are -/

/-- Whatever it is answered, a shell that does not find itself on the side of a child stays in its
directory, and ends with a value of one kind. -/
inductive Abides (good : α → Prop) : Prog α → Prop
  | pure {value} : good value → Abides good (.pure value)
  | fork {again next} : (∀ reply, reply ≠ .ok .child → Abides good (next reply)) →
      Abides good (.ask .fork again next)
  | ask {call again next} : call.isStill = true → (∀ answer, Abides good (next answer)) →
      Abides good (.ask call again next)

theorem abides_of_asks {program : Prog α} (h : Asks (·.isStill = true) program) :
    Abides (fun _ => True) program := by
  induction h with
  | pure => exact .pure trivial
  | ask hcall _ ih => exact .ask hcall ih

theorem abides_of_comes {program : Prog α} (h : Comes good program) : Abides good program := by
  induction h with
  | pure hgood => exact .pure hgood
  | fork _ ih => exact .fork ih
  | @ask call again next hcall _ ih =>
      refine .ask ?_ ih
      cases call <;> first | rfl | exact absurd hcall Bool.false_ne_true

theorem Abides.value {value : α} (h : Abides good (.pure value)) : good value := by
  cases h with
  | pure hgood => exact hgood

theorem Abides.bind {ends : β → Prop} {program : Prog α} {rest : α → Prog β}
    (h : Abides good program) (hrest : ∀ value, good value → Abides ends (rest value)) :
    Abides ends (program.bind rest) := by
  induction h with
  | pure hgood => exact hrest _ hgood
  | fork _ ih => exact .fork ih
  | ask hcall _ ih => exact .ask hcall ih

theorem Abides.proceed {call : Call} {again : call.Result → Bool} {next : call.Result → Prog α}
    (hcall : call.isStill = true) (hnext : ∀ answer, Abides good (next answer))
    (answer : call.Result) : Abides good (Process.proceed call again next answer) :=
  System.holds_proceed (.ask hcall hnext) hnext answer

section Step

variable {launch : Launcher} {s s' : System α} {pid : Pid} {p : Process α}

/-- A request that is answered without a change of the machine. -/
theorem eq_of_answer {call : Call} {again : call.Result → Bool} {next : call.Result → Prog α}
    {reply : call.Result} {answered : Process α} (hp : s.process? pid = some p)
    (hactive : p.active = true) (hprogram : p.program = .ask call again next)
    (hcall : call.isSpecial = false) (hanswer : s.answer p call = some (reply, answered, s))
    (hanswered : answered.pid = p.pid) (hstep : step launch s pid = some s') {q : Process α}
    (hq : q ∈ s'.processes) (hsame : q.pid = pid) :
    q = { answered with program := Process.proceed call again next reply } ∧
      s'.files = s.files := by
  rw [step_answered hp hactive hcall hprogram, hanswer] at hstep
  cases hstep
  exact ⟨eq_of_own hp hq hsame hanswered, rfl⟩

/-- A process has kept its directory and its variables. -/
def SamePlace (p q : Process α) : Prop := q.directory = p.directory ∧ q.bindings = p.bindings

theorem SamePlace.trans {q later : Process α} (h : SamePlace p q) (hlater : SamePlace q later) :
    SamePlace p later := ⟨hlater.1.trans h.1, hlater.2.trans h.2⟩

/-- A request that leaves a process where it is has left it there after the step. -/
theorem samePlace_step {call : Call} {again : call.Result → Bool} {next : call.Result → Prog α}
    (hp : s.process? pid = some p) (hactive : p.active = true)
    (hprogram : p.program = .ask call again next) (hcall : call.isStill = true)
    (hstep : step launch s pid = some s') {q : Process α} (hq : q ∈ s'.processes)
    (hsame : q.pid = pid) : SamePlace p q := by
  have hself : ∀ {other : Call} {again : other.Result → Bool} {next : other.Result → Prog α},
      p.program = .ask other again next → other.isStill = true := by
    intro other _ _ heq
    cases hprogram.symm.trans heq
    exact hcall
  cases step_cases hp hactive hstep with
  | unrolled heq => cases hprogram.symm.trans heq
  | answered heq _ hanswer =>
      -- of what is answered, only a request to move is left out
      obtain ⟨hbindings, hdirectory⟩ := answer_directory hanswer
      have hpid := (answer_settled hanswer).pid
      rw [eq_of_own hp hq hsame hpid]
      refine ⟨hdirectory fun path hmove => ?_, hbindings⟩
      have hstill := hself heq
      rw [hmove] at hstill
      cases hstill
  | forked heq | became heq | refused heq | exited heq | read heq | signalled heq =>
      cases hself heq
  | wrote | idle | dropped | flushed =>
      rw [eq_of_own hp hq hsame rfl]
      exact ⟨rfl, rfl⟩

/-- A shell that stays where it is has done so after each of its steps. -/
theorem abides_step (hnumbered : ∀ q ∈ s.processes, q.pid < s.nextPid)
    (hp : s.process? pid = some p) (hactive : p.active = true) (h : Abides good p.program)
    (hstep : step launch s pid = some s') {q : Process α} (hq : q ∈ s'.processes)
    (hsame : q.pid = pid) : Abides good q.program ∧ SamePlace p q := by
  obtain ⟨hmem, hpid⟩ := mem_of_process? hp
  generalize hprogram : p.program = program at h
  cases h with
  | pure => exact absurd (hstep.symm.trans (step_pure hp hactive hprogram)) (by simp)
  | @fork again next hnext =>
      cases hstep.symm.trans (step_fork hp hactive hprogram)
      rcases List.mem_append.mp hq with hq | hq
      · rw [eq_of_own hp hq hsame rfl]
        refine ⟨?_, rfl, rfl⟩
        show Abides good (if again _ = true then Prog.ask .fork again next else next _)
        split
        · exact .fork hnext
        · exact hnext _ (by simp)
      · -- the child has the next number, and the shell an earlier one
        rw [List.mem_singleton.mp hq] at hsame
        exact absurd (hnumbered p hmem) (by
          rw [hpid, ← hsame]
          exact Nat.lt_irrefl _)
  | @ask call again next hcall hnext =>
      -- what it goes on with is the same request, or what is behind it
      have hproceed : ∀ answer, Abides good (Process.proceed call again next answer) :=
        Abides.proceed hcall hnext
      refine ⟨?_, samePlace_step hp hactive hprogram hcall hstep hq hsame⟩
      by_cases hspecial : call.isSpecial = false
      · obtain ⟨reply, heq⟩ := program_of_answered hp hactive hstep hq hsame hspecial hprogram
        exact heq ▸ hproceed reply
      · cases call with
        | flush =>
            rcases program_of_flush hp hactive hstep hq hsame hprogram with heq | ⟨reply, heq⟩
            · rw [heq, hprogram]
              exact .ask hcall hnext
            · exact heq ▸ hproceed reply
        | write fd bytes =>
            obtain ⟨reply, heq⟩ := program_of_write hp hactive hstep hq hsame hprogram
            exact heq ▸ holds_writeOn (fun _ => .ask rfl hnext) hnext reply
        | fork | exec path arguments bindings | exit code | readAll fd sofar | kill target number =>
            cases hcall
        | _ => exact absurd rfl hspecial

end Step

/-! ## Lines that stay where they are -/

section Lines

variable {good : Answer → Prop} {shell : Shell} {environment : Environment} {line text : String}

theorem abides_refusing (h : good (.ok .rejected, environment)) (message : String) :
    Abides good (refusing environment message) :=
  .ask rfl fun _ => .pure h

/-- A pipeline of programs moves nothing but the processes of its stages. -/
theorem abides_running (h : ∀ outcome, good (outcome, environment)) (pipeline : Pipeline) :
    Abides good (running environment text pipeline) := by
  have hreport : ∀ report, Comes good (finishing environment (.ok report)) :=
    fun report => .ask rfl fun _ => .pure (h _)
  have hfatal : ∀ failure : ExecFailure, failure.fatal = true →
      Comes good (finishing environment (.error failure)) := by
    intro failure hfailure
    cases failure with
    | pipe errno | fork errno | wait errno => exact .pure (h _)
    | target path cause => cases hfailure
    | nul word => cases hfailure
  refine .ask rfl fun _ => ?_
  rw [execute_bind]
  -- whatever the pipeline does in the shell, up to a report or a failure, asks for no move
  cases pipeline.stages.mapM Stage.argumentBytes with
  | error word => exact abides_refusing (h _) _
  | ok programs =>
      dsimp only
      cases pipeline.target with
      | none => exact abides_of_comes (comes_laying hreport hfatal _ _ _)
      | some target =>
          rw [opening_some]
          cases cleanBytes target.path with
          | error word => exact abides_refusing (h _) _
          | ok path =>
              refine .ask rfl fun opened => ?_
              cases opened with
              | error errno => exact abides_refusing (h _) _
              | ok fd => exact abides_of_comes (comes_laying hreport hfatal _ _ _)

/-- A line stays where it is if what it is read as does. -/
theorem abides_runLine (h : ∀ outcome, good (outcome, environment))
    (hserving : ∀ pipeline,
      Abides good (serving shell environment (Text.trimString line) pipeline)) :
    Abides good (shell.runLine environment line) := by
  have hreading : Abides good (Refusal.reading shell environment (Text.trimString line)) := by
    unfold Refusal.reading Refusal.answering
    split
    · exact abides_refusing (h _) _
    · exact hserving _
  cases hempty : (Text.trimString line).isEmpty with
  | true =>
      unfold Shell.runLine
      dsimp only
      rw [hempty, if_pos rfl]
      exact .pure (h _)
  | false =>
      -- the line is refused at the first check that it fails, and read after the last one
      have hinspect := Refusal.runLine_eq_inspect hempty shell environment
      unfold inspect at hinspect
      cases hcheck : Structure.check (Token.ofLine (Text.trimString line)) with
      | error fault =>
          rw [hinspect, hcheck]
          exact abides_refusing (h _) _
      | ok done =>
          rw [hcheck] at hinspect
          cases htarget : Structure.target? (Token.ofLine (Text.trimString line)) with
          | none =>
              rw [hinspect, htarget]
              exact hreading
          | some target =>
              cases hpath : cleanBytes target.path with
              | error word =>
                  rw [hinspect, htarget]
                  dsimp only
                  unfold Target.preflight Target.openFile
                  rw [hpath]
                  exact abides_refusing (h _) _
              | ok path =>
                  rw [Refusal.runLine_of_target hempty hcheck htarget hpath]
                  refine .ask rfl fun tried => ?_
                  cases tried with
                  | error errno => exact abides_refusing (h _) _
                  | ok fd => exact .ask rfl fun _ => hreading

/-- What the shell says of a command of its own. -/
def verdictOf (text : String) : Except String Int → Verdict
  | .ok code => .completed ⟨text, [code]⟩
  | .error _ => .rejected

/-- To say what a command of the shell has come to. -/
def concluding (text : String) (answer : Except String Int × Environment) : Prog Answer :=
  match answer with
  | (.ok code, environment) =>
      (Shell.complete ⟨text, [code]⟩).bind fun verdict => .pure (.ok verdict, environment)
  | (.error message, environment) =>
      (Shell.reject message).bind fun verdict => .pure (.ok verdict, environment)

theorem abides_concluding {reply : Except String Int}
    (h : good (.ok (verdictOf text reply), environment)) :
    Abides good (concluding text (reply, environment)) := by
  cases reply with
  | ok code => exact .ask rfl fun _ => .pure h
  | error message => exact .ask rfl fun _ => .pure h

theorem attending_eq (command : Command) (environment : Environment) (line : String) :
    Dispatch.attending command environment line =
      .ask .flush (fun _ => false) fun _ =>
        (command environment).bind (concluding (Text.trimString line)) := by
  show Prog.ask _ _ _ = Prog.ask _ _ _
  congr 1
  funext flushed
  show ((command environment).bind _).bind _ = _
  rw [Prog.bind_assoc]
  congr 1
  funext answer
  obtain ⟨message | code, later⟩ := answer <;> rfl

theorem abides_attending {command : Command} {ends : Except String Int × Environment → Prop}
    (hcommand : Abides ends (command environment))
    (h : ∀ reply later, ends (reply, later) →
      good (.ok (verdictOf (Text.trimString line) reply), later)) :
    Abides good (Dispatch.attending command environment line) := by
  rw [attending_eq]
  refine .ask rfl fun _ => hcommand.bind fun answer hanswer => ?_
  exact abides_concluding (h answer.1 answer.2 hanswer)

end Lines

/-! ## The shell's own commands -/

section Commands

variable {environment : Environment} {text : String}

theorem abides_say (line : String) : Abides (fun _ => True) (Command.say line) :=
  .ask rfl fun _ => .pure trivial

theorem abides_complain (line : String) : Abides (fun _ => True) (Command.complain line) :=
  .ask rfl fun _ => .pure trivial

/-- The record is as it was. -/
def SameRecord (environment : Environment) (answer : Except String Int × Environment) : Prop :=
  answer.2.directory = environment.directory

theorem abides_sls : Abides (SameRecord environment) (Builtin.sls environment) := by
  refine .ask rfl fun names => ?_
  cases names with
  | error errno => exact .pure rfl
  | ok names =>
      refine (abides_of_asks (Repertoire.asks_sizes (fun _ _ => rfl) _ names)).bind fun sized _ => ?_
      cases sized with
      | error text => exact .pure rfl
      | ok entries => exact (abides_of_asks (Repertoire.asks_sayAll (fun _ => rfl) _)).bind fun _ _ => .pure rfl

theorem abides_pwd : Abides (SameRecord environment) (Builtin.pwd environment) :=
  (abides_say _).bind fun _ _ => .pure rfl

theorem abides_exit : Abides (SameRecord environment) (Builtin.exit environment) :=
  (abides_complain _).bind fun _ _ => .pure rfl

/-- The stage is `cd`, and its operands are understood as these. -/
def IsMove (stage : Stage) (parsed : Usage.Parsed) : Prop :=
  stage.program = Builtin.cdGrammar.command ∧
    Builtin.cdGrammar.parse stage.operands = .understood parsed

theorem abides_recognise {grammar : Usage.Grammar} {run : Usage.Parsed → Command} {stage : Stage}
    {command : Command} (hrun : ∀ parsed, grammar.parse stage.operands = .understood parsed →
      Abides (SameRecord environment) (run parsed environment))
    (h : Builtin.recognise grammar run stage = some command) :
    Abides (SameRecord environment) (command environment) := by
  unfold Builtin.recognise at h
  split at h
  · cases h
  · cases h
    cases hparse : grammar.parse stage.operands with
    | understood parsed => exact hrun parsed hparse
    | help => exact (abides_say _).bind fun _ _ => .pure rfl
    | refused fault => exact (abides_complain _).bind fun _ _ => .pure rfl

/-- No command of the shell moves it but a `cd` that is understood. -/
theorem abides_builtin {stage : Stage} {command : Command}
    (hfind : CommandTable.find? Builtin.all stage = some command)
    (hstays : ¬∃ parsed, IsMove stage parsed) :
    Abides (SameRecord environment) (command environment) := by
  obtain ⟨recognise, hmem, hfound⟩ := List.exists_of_findSome?_eq_some hfind
  simp only [Builtin.all, List.mem_cons, List.not_mem_nil, or_false] at hmem
  rcases hmem with rfl | rfl | rfl | rfl
  · exact abides_recognise (fun _ _ => abides_pwd) hfound
  · refine abides_recognise (fun parsed hparsed => absurd ⟨parsed, ?_, hparsed⟩ hstays) hfound
    unfold Builtin.recognise at hfound
    split at hfound
    · cases hfound
    · rename_i hname
      simpa using hname
  · exact abides_recognise (fun _ _ => abides_exit) hfound
  · exact abides_recognise (fun _ _ => abides_sls) hfound

end Commands

section Lines

variable {shell : Shell} {environment : Environment} {line : String} {stage : Stage}

/-- The line is a lone `cd`, the operands of which are understood as these. -/
def MoveLine (limit : Nat) (line : String) (parsed : Usage.Parsed) : Prop :=
  ∃ stage, Dispatch.Lone limit line stage ∧ IsMove stage parsed

/-- Every other line leaves the shell and its record where they are. -/
theorem abides_line (hbuiltins : shell.commands = Builtin.all)
    (hstays : ¬∃ parsed, MoveLine shell.config.maxArguments line parsed) :
    Abides (fun answer : Answer => answer.2.directory = environment.directory)
      (shell.runLine environment line) := by
  -- a command of the shell is looked at by itself, and every other line as if there were none
  by_cases hserved : ∃ stage, Dispatch.Lone shell.config.maxArguments line stage ∧
      Dispatch.Recognised shell.commands stage
  · obtain ⟨stage, hlone, hrecognised⟩ := hserved
    obtain ⟨place, command, -, hfind⟩ := Dispatch.exists_firstAt hrecognised
    rw [Dispatch.runLine_eq_attending hlone hfind]
    rw [hbuiltins] at hfind
    refine abides_attending (abides_builtin hfind ?_) fun reply later hlater => hlater
    rintro ⟨parsed, hmove⟩
    exact hstays ⟨parsed, stage, hlone, hmove⟩
  · rw [Dispatch.runLine_eq_bare hserved]
    refine abides_runLine (fun _ => rfl) fun pipeline => ?_
    rw [serving_eq (Dispatch.find?_bare pipeline)]
    exact abides_running (fun _ => rfl) pipeline

/-- The command that `cd` is, with the operands of a stage. -/
def cdOf (stage : Stage) : Command :=
  match Builtin.cdGrammar.parse stage.operands with
  | .understood parsed => Builtin.cd parsed.operands.head?
  | .help => fun environment =>
      (Command.say (String.ofList (Text.trimRight Builtin.cdGrammar.help.toList))).bind fun _ =>
        .pure (.ok 0, environment)
  | .refused fault => fun environment =>
      (Command.complain (String.ofList (Text.trimRight fault.message.toList))).bind fun _ =>
        .pure (.ok 1, environment)

theorem find?_cd (h : stage.program = Builtin.cdGrammar.command) :
    CommandTable.find? Builtin.all stage = some (cdOf stage) := by
  have hpwd : ∀ run, Builtin.recognise Builtin.pwdGrammar run stage = none := by
    intro run
    unfold Builtin.recognise
    rw [if_pos (by rw [h]; decide)]
  have hcd : Builtin.recognise Builtin.cdGrammar (fun parsed => Builtin.cd parsed.operands.head?)
      stage = some (cdOf stage) := by
    unfold Builtin.recognise
    rw [if_neg (by simp [h])]
    rfl
  unfold CommandTable.find? Builtin.all
  rw [List.findSome?_cons, hpwd]
  dsimp only
  rw [List.findSome?_cons, hcd]

section Cd

variable (hbuiltins : shell.commands = Builtin.all)
  (hlone : Dispatch.Lone shell.config.maxArguments line stage)
  (hname : stage.program = Builtin.cdGrammar.command)

include hbuiltins hlone hname

theorem runLine_cd :
    shell.runLine environment line = Dispatch.attending (cdOf stage) environment line :=
  Dispatch.runLine_eq_attending hlone (hbuiltins ▸ find?_cd hname)

/-- A request for the help of `cd` is answered. -/
theorem abides_help (hparse : Builtin.cdGrammar.parse stage.operands = .help) :
    Abides (· = (.ok (.completed ⟨Text.trimString line, [0]⟩), environment))
      (shell.runLine environment line) := by
  have hcommand : Abides (· = (.ok 0, environment)) (cdOf stage environment) := by
    unfold cdOf
    rw [hparse]
    exact (abides_say _).bind fun _ _ => .pure rfl
  rw [runLine_cd hbuiltins hlone hname]
  refine abides_attending hcommand fun reply later hends => ?_
  cases hends
  rfl

/-- Operands that `cd` does not accept are reported. -/
theorem abides_refused {fault : Usage.UsageFault}
    (hparse : Builtin.cdGrammar.parse stage.operands = .refused fault) :
    Abides (· = (.ok (.completed ⟨Text.trimString line, [1]⟩), environment))
      (shell.runLine environment line) := by
  have hcommand : Abides (· = (.ok 1, environment)) (cdOf stage environment) := by
    unfold cdOf
    rw [hparse]
    exact (abides_complain _).bind fun _ _ => .pure rfl
  rw [runLine_cd hbuiltins hlone hname]
  refine abides_attending hcommand fun reply later hends => ?_
  cases hends
  rfl

end Cd

end Lines

/-! ## The course of a move -/

section Course

variable (environment : Environment) (text : String)

/-- To report that the shell cannot move. -/
def failing : Prog Answer :=
  (Command.complain "Error: cannot cd into directory").bind fun _ =>
    concluding text (.ok 1, environment)

theorem abides_failing :
    Abides (· = (.ok (.completed ⟨text, [1]⟩), environment)) (failing environment text) :=
  .ask rfl fun _ => .ask rfl fun _ => .pure rfl

/-- What is done once the request to move to a path without links is answered. -/
def moved (canonical : Bytes) : Except Errno Unit → Prog Answer
  | .error _ => failing environment text
  | .ok () => concluding text (.ok 0, { environment with directory := canonical })

/-- To move to a path without links, and to record it. -/
def changing (canonical : Bytes) : Prog Answer :=
  .ask (.changeDirectory canonical) (fun _ => false) (moved environment text canonical)

/-- What is done once the path without links is known, or that there is none. -/
def found : Except Errno Bytes → Prog Answer
  | .error _ => failing environment text
  | .ok canonical => changing environment text canonical

/-- To ask for the path without links of a path, and to move there. -/
def following (path : Bytes) : Prog Answer :=
  if (Path.join environment.directory path).contains 0 then failing environment text
  else .ask (.canonical (Path.join environment.directory path)) (fun _ => false)
    (found environment text)

/-- To follow a path, if there is one. -/
def heading : Option Bytes → Prog Answer
  | none => failing environment text
  | some path => following environment text path

/-- The path that `cd` is to follow: its operand, or the home directory where that is missing or
empty. -/
def goal? (operand : Option String) (bindings : Variables) : Option Bytes :=
  match operand with
  | some name =>
      if name.isEmpty then bindings.lookup Builtin.homeVariable else some (Text.bytesOf name)
  | none => bindings.lookup Builtin.homeVariable

/-- What `cd` does with the path that it is to follow. -/
def arriving : Option Bytes → Prog (Except String Int × Environment)
  | none => (Command.complain "Error: cannot cd into directory").bind fun _ =>
      .pure (.ok 1, environment)
  | some path => (Builtin.move environment path).bind fun
      | .error _ => (Command.complain "Error: cannot cd into directory").bind fun _ =>
          .pure (.ok 1, environment)
      | .ok later => .pure (.ok 0, later)

theorem cd_eq (operand : Option String) : Builtin.cd operand environment =
    (Builtin.destination operand).bind (arriving environment) := rfl

theorem arriving_bind (path : Option Bytes) :
    (arriving environment path).bind (concluding text) = heading environment text path := by
  cases path with
  | none => rfl
  | some path =>
      unfold arriving heading following Builtin.move
      dsimp only
      split
      · rfl
      · show Prog.ask _ _ _ = Prog.ask _ _ _
        congr 1
        funext reply
        cases reply with
        | error errno => rfl
        | ok canonical =>
            show Prog.ask _ _ _ = Prog.ask _ _ _
            congr 1
            funext changed
            cases changed <;> rfl

/-- A `cd` that is understood follows the path that it is given, or looks for the home directory
first. -/
theorem cd_bind (operand : Option String) :
    (∃ path, (∀ bindings, goal? operand bindings = some path) ∧
        (Builtin.cd operand environment).bind (concluding text) =
          following environment text path) ∨
      (∀ bindings, goal? operand bindings = bindings.lookup Builtin.homeVariable) ∧
        (Builtin.cd operand environment).bind (concluding text) =
          .ask .bindings (fun _ => false) fun bindings =>
            heading environment text (bindings.lookup Builtin.homeVariable) := by
  have hhome : ((Prog.valueOf Builtin.homeVariable).bind (arriving environment)).bind
        (concluding text) = .ask .bindings (fun _ => false) fun bindings =>
          heading environment text (bindings.lookup Builtin.homeVariable) := by
    show Prog.ask _ _ _ = Prog.ask _ _ _
    congr 1
    funext bindings
    exact arriving_bind environment text _
  rw [cd_eq]
  cases operand with
  | none => exact .inr ⟨fun _ => rfl, hhome⟩
  | some name =>
      unfold Builtin.destination goal?
      dsimp only
      cases name.isEmpty with
      | true => exact .inr ⟨fun _ => if_pos rfl, hhome⟩
      | false =>
          exact .inl ⟨Text.bytesOf name, fun _ => if_neg Bool.false_ne_true,
            arriving_bind environment text _⟩

end Course

end Whereabouts

end LineShell
