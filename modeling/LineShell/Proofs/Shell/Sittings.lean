import LineShell.Proofs.Shell.Whereabouts

/-!
# The record and the directory of a shell

* **`Agrees`** — the record is the only path without links of the directory, and whatever is
  counted from either is the same;
* **`CdOutcome`** — what a lone `cd` may come to;
* **`Sitting`** — a shell has begun, and has run lines one after another;
* **`directory_recorded`** — the record and the directory agree after every line, and no line
  changes them but a lone `cd` that succeeds.
-/

namespace LineShell.Whereabouts

open LineShell.System LineShell.Course Prog

/-! ## The record and the directory -/

section Sittings

variable {launch : Launcher} {shell : Shell} {pid : Pid} {origin s m : System Answer}
  {first p q : Process Answer} {environment later : Environment} {line : String}
  {outcome : Except ExecFailure Verdict} {lines : List String} {stage : Stage}

/-- The line is a lone `cd`. -/
def CdLine (shell : Shell) (line : String) (stage : Stage) : Prop :=
  Dispatch.Lone shell.config.maxArguments line stage ∧
    stage.program = Builtin.cdGrammar.command

/-- The machine when the shell begins a line. -/
def begun (shell : Shell) (environment : Environment) (line : String) (s : System Answer)
    (p : Process Answer) : System Answer :=
  s.setProcess { p with program := shell.runLine environment line }

/-- What a shell departs from that has a program to run. -/
def departing (launch : Launcher) (pid : Pid) (s : System Answer) (p : Process Answer)
    (program : Prog Answer) (environment : Environment) (text : String) : Departure where
  launch := launch
  shell := pid
  start := s.setProcess { p with program := program }
  first := { p with program := program }
  environment := environment
  text := text

/-- What the shell departs from on a line. -/
def departure (launch : Launcher) (shell : Shell) (pid : Pid) (s : System Answer)
    (p : Process Answer) (environment : Environment) (line : String) : Departure :=
  departing launch pid s p (shell.runLine environment line) environment (Text.trimString line)

theorem departure_directory : (departure launch shell pid s p environment line).first.directory =
    p.directory := by
  simp only [departure, departing]

/-- What comes of a lone `cd` with such operands: it reports 1, has met with some trouble and has
changed nothing, or it reports 0 and has taken each of its steps, unless it was asked for its
help. -/
inductive CdOutcome (cd : Departure) (operands : List String) (m : System Answer)
    (directory : NodeId) : Except ExecFailure Verdict → Environment → Prop
  | refused {fault} : Builtin.cdGrammar.parse operands = .refused fault →
      directory = cd.first.directory →
      CdOutcome cd operands m directory (.ok (.completed ⟨cd.text, [1]⟩)) cd.environment
  | failed {parsed} : Builtin.cdGrammar.parse operands = .understood parsed →
      cd.Trouble parsed.operands.head? m → directory = cd.first.directory →
      CdOutcome cd operands m directory (.ok (.completed ⟨cd.text, [1]⟩)) cd.environment
  | helped : Builtin.cdGrammar.parse operands = .help → directory = cd.first.directory →
      CdOutcome cd operands m directory (.ok (.completed ⟨cd.text, [0]⟩)) cd.environment
  | moved {parsed canonical} : Builtin.cdGrammar.parse operands = .understood parsed →
      cd.Follows parsed.operands.head? m canonical → cd.Arrives m canonical directory →
      CdOutcome cd operands m directory (.ok (.completed ⟨cd.text, [0]⟩)) (cd.recordOf canonical)

theorem process?_running (horderly : s.Orderly) (hp : s.process? pid = some p)
    (program : Prog Answer) : (s.setProcess { p with program := program }).process? pid =
      some { p with program := program } :=
  horderly.process?_setProcess hp (mem_of_process? hp).2

section Line

variable (hbuiltins : shell.commands = Builtin.all) (horderly : s.Orderly)
  (htidy : s.files.Tidy) (hp : s.process? pid = some p)
  (hrecorded : Recorded s.files environment.directory p.directory)
  (hq : m.process? pid = some q) (hprogram : q.program = .pure (outcome, later))

section Program

variable {program : Prog Answer}
  (h : Meanwhile launch pid (s.setProcess { p with program := program }) m)

include horderly htidy hp hrecorded h hq hprogram

/-- A line that stays where it is ends there. -/
theorem recorded_of_abides {good : Answer → Prop} (habides : Abides good program) :
    good (outcome, later) ∧ q.directory = p.directory ∧
      Recorded m.files environment.directory q.directory := by
  have hfirst := process?_running horderly hp program
  obtain ⟨hends, hplace, hlater⟩ :=
    h.stays horderly.setProcess htidy hfirst habides hrecorded hq
  rw [hprogram] at hends
  exact ⟨hends.value, hplace.1, hlater⟩

/-- A `cd` fails and leaves the shell where it is, or moves it. -/
theorem recorded_of_seeks {text : String} {operand : Option String}
    (hseeks : (departing launch pid s p program environment text).Seeks operand program) :
    (outcome = .ok (.completed ⟨text, [1]⟩) ∧ later = environment ∧
        (departing launch pid s p program environment text).Trouble operand m ∧
        q.directory = p.directory ∧ Recorded m.files environment.directory q.directory) ∨
      ∃ canonical, outcome = .ok (.completed ⟨text, [0]⟩) ∧
        later = { environment with directory := canonical } ∧
        (departing launch pid s p program environment text).Follows operand m canonical ∧
        (departing launch pid s p program environment text).Arrives m canonical q.directory ∧
        Recorded m.files canonical q.directory := by
  have hfirst := process?_running horderly hp program
  have hat : (departing launch pid s p program environment text).At operand m q :=
    Departure.at_of_meanwhile horderly.setProcess htidy hfirst hrecorded hseeks h hq
  rcases hat.ends hprogram with ⟨hends, htrouble, hstays, hlater⟩ | ⟨canonical, hends, hmoved⟩
  · obtain ⟨houtcome, henvironment⟩ := Prod.mk.inj hends
    exact .inl ⟨houtcome, henvironment, htrouble, hstays, hlater⟩
  · obtain ⟨houtcome, henvironment⟩ := Prod.mk.inj hends
    exact .inr ⟨canonical, houtcome, henvironment, hmoved⟩

end Program

variable (h : Meanwhile launch pid (begun shell environment line s p) m)

include hbuiltins horderly htidy hp hrecorded h hq hprogram

/-- What comes of a lone `cd`, and what is recorded then. -/
theorem recorded_of_cd (hcd : CdLine shell line stage) :
    Recorded m.files later.directory q.directory ∧
      CdOutcome (departure launch shell pid s p environment line) stage.operands m q.directory
        outcome later := by
  cases hparse : Builtin.cdGrammar.parse stage.operands with
  | help =>
      obtain ⟨heq, hstays, hlater⟩ := recorded_of_abides horderly htidy hp hrecorded hq hprogram h
        (abides_help hbuiltins hcd.1 hcd.2 hparse)
      obtain ⟨rfl, rfl⟩ := Prod.mk.inj heq
      exact ⟨hlater, .helped hparse (hstays.trans departure_directory.symm)⟩
  | refused fault =>
      obtain ⟨heq, hstays, hlater⟩ := recorded_of_abides horderly htidy hp hrecorded hq hprogram h
        (abides_refused hbuiltins hcd.1 hcd.2 hparse)
      obtain ⟨rfl, rfl⟩ := Prod.mk.inj heq
      exact ⟨hlater, .refused hparse (hstays.trans departure_directory.symm)⟩
  | understood parsed =>
      have hcommand : cdOf stage = Builtin.cd parsed.operands.head? := by
        unfold cdOf
        rw [hparse]
      have hline : shell.runLine environment line = .ask .flush (fun _ => false) fun _ =>
          (Builtin.cd parsed.operands.head? environment).bind
            (concluding (Text.trimString line)) := by
        rw [runLine_cd hbuiltins hcd.1 hcd.2, attending_eq, hcommand]
      -- the command goes its way from the directory that is recorded when the line begins
      have hseeks : (departure launch shell pid s p environment line).Seeks
          parsed.operands.head? (shell.runLine environment line) := by
        rw [hline]
        exact .flushing
      rcases recorded_of_seeks horderly htidy hp hrecorded hq hprogram h hseeks with
        ⟨rfl, rfl, htrouble, hstays, hlater⟩ | ⟨canonical, rfl, rfl, hfollows, harrives, hlater⟩
      · exact ⟨hlater, .failed hparse htrouble (hstays.trans departure_directory.symm)⟩
      · exact ⟨hlater, .moved hparse hfollows harrives⟩

/-- A line that is no lone `cd` changes neither the record nor the directory. -/
theorem recorded_of_other (hcd : ¬∃ stage, CdLine shell line stage) :
    Recorded m.files later.directory q.directory ∧
      later.directory = environment.directory ∧ q.directory = p.directory := by
  have hstill : ¬∃ parsed, MoveLine shell.config.maxArguments line parsed := by
    rintro ⟨parsed, stage, hlone, hname, -⟩
    exact hcd ⟨stage, hlone, hname⟩
  obtain ⟨heq, hstays, hlater⟩ := recorded_of_abides horderly htidy hp hrecorded hq hprogram h
    (abides_line hbuiltins hstill)
  replace heq : later.directory = environment.directory := heq
  rw [← heq] at hlater
  exact ⟨hlater, heq, hstays⟩

theorem recorded_of_line : Recorded m.files later.directory q.directory := by
  by_cases hcd : ∃ stage, CdLine shell line stage
  · obtain ⟨stage, hcd⟩ := hcd
    exact (recorded_of_cd hbuiltins horderly htidy hp hrecorded hq hprogram h hcd).1
  · exact (recorded_of_other hbuiltins horderly htidy hp hrecorded hq hprogram h hcd).1

end Line

/-! ## Sittings -/

/-- What a shell does when it begins: it takes the directory of its process for its own. -/
def beginning : Prog Answer :=
  Environment.capture.bind fun environment => .pure (.ok .blank, environment)

/-- A shell has begun, and has run lines one after another, all in peace. -/
inductive Sitting (launch : Launcher) (shell : Shell) (pid : Pid) (origin : System Answer) :
    List String → Environment → System Answer → Prop
  | begun {after own captured} : Meanwhile launch pid origin after →
      after.process? pid = some own → own.program = .pure (.ok .blank, captured) →
      Sitting launch shell pid origin [] captured after
  | line {ran before held text own after ended answer next} :
      Sitting launch shell pid origin ran held before → before.process? pid = some own →
      Meanwhile launch pid (Whereabouts.begun shell held text before own) after →
      after.process? pid = some ended → ended.program = .pure (answer, next) →
      Sitting launch shell pid origin (ran ++ [text]) next after

/-- A shell that begins has recorded its directory, or is about to. -/
theorem recorded_of_beginning {record : Bytes} (horderly : origin.Orderly)
    (htidy : origin.files.Tidy) (hfirst : origin.process? pid = some first)
    (hprogram : first.program = beginning)
    (hrecorded : Recorded origin.files record first.directory)
    (h : Meanwhile launch pid origin s) (hq : s.process? pid = some q) :
    Recorded s.files record q.directory ∧
      (q.program = beginning ∨ q.program = .pure (.ok .blank, ⟨record, false⟩)) := by
  refine h.keeps horderly htidy hfirst (fun s q => Recorded s.files record q.directory ∧
    (q.program = beginning ∨ q.program = .pure (.ok .blank, ⟨record, false⟩)))
    ⟨hrecorded, .inl hprogram⟩ ?_ ?_ hq
  · rintro s s' p q ⟨hrecorded, hprogram⟩ hsame hplace honward -
    rw [hplace.1, hsame]
    exact ⟨honward.recorded record hrecorded, hprogram⟩
  · rintro s s' p q hbefore hp hactive ⟨hrecorded, hprogram⟩ hstep hq hpid honward
    rcases hprogram with hprogram | hprogram
    · have hanswer : s.answer p .currentDirectory = some (.ok record, p, s) := by
        simp only [answer, hrecorded.1.pathOf honward.tidy hrecorded.2]
      obtain ⟨rfl, -⟩ := eq_of_answer hp hactive hprogram rfl hanswer rfl hstep hq hpid
      exact ⟨honward.recorded record hrecorded, .inr rfl⟩
    · exact absurd (hstep.symm.trans (step_pure hp hactive hprogram)) (by simp)

section Main

variable {record : Bytes} (hbuiltins : shell.commands = Builtin.all) (horderly : origin.Orderly)
  (htidy : origin.files.Tidy) (hfirst : origin.process? pid = some first)
  (hprogram : first.program = beginning) (hfolder : origin.files.IsFolder first.directory)
  (hreadable : origin.files.pathOf first.directory = .ok record)

include hbuiltins horderly htidy hfirst hprogram hfolder hreadable

theorem Sitting.ready (h : Sitting launch shell pid origin lines environment s) :
    s.Orderly ∧ s.files.Tidy ∧
      ∀ q, s.process? pid = some q → Recorded s.files environment.directory q.directory := by
  -- what one line leaves behind is what the next one begins with
  induction h with
  | begun hbefore hown hends =>
      have hrecorded : Recorded origin.files record first.directory :=
        ⟨Files.spells_of_pathOf htidy hreadable, hfolder⟩
      refine ⟨hbefore.orderly horderly, hbefore.tidy htidy, fun q hq => ?_⟩
      cases hown.symm.trans hq
      obtain ⟨hlater, hprogram⟩ :=
        recorded_of_beginning horderly htidy hfirst hprogram hrecorded hbefore hq
      rcases hprogram with hprogram | hprogram
      · cases hends.symm.trans hprogram
      · cases hends.symm.trans hprogram
        exact hlater
  | @line ran before held text own after ended answer next _ hown hbefore hended hends ih =>
      obtain ⟨horderly, htidy, hrecorded⟩ := ih
      have hstart : (Whereabouts.begun shell held text before own).files.Tidy := htidy
      refine ⟨hbefore.orderly horderly.setProcess, hbefore.tidy hstart, fun q hq => ?_⟩
      cases hended.symm.trans hq
      exact recorded_of_line hbuiltins horderly htidy hown (hrecorded _ hown) hended hends
        hbefore

end Main

end Sittings

/-! ## A shell that goes home -/

end LineShell.Whereabouts
