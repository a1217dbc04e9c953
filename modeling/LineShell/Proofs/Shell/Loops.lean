import LineShell.Proofs.Shell.Typing

/-!
# The two read loops

A shell at a terminal at which a text is typed and a shell that gets the bytes of the text as a
script run the same commands. One of them lets its editor write the prompt, they write lines back
in different ways and they learn in different ways that no line is left; none of that reaches the
commands.

* **`Runs`** — the calls of `runLine` that a list of lines leads to, and what comes of them;
* **`Carries`** — a program runs a list of lines: it ends as the lines lead to and in no other way;
* **`typed_lines_run_as_script`** — both loops run their lines, and these lead to the same calls.
-/

namespace LineShell.Loops

open Text Transcript Prog Typing

/-- What a line does depends on the command in it alone. -/
theorem runLine_eq_of_trim {line other : String} (h : trimString line = trimString other)
    (shell : Shell) (environment : Environment) :
    shell.runLine environment line = shell.runLine environment other := by
  unfold Shell.runLine
  rw [h]

/-! ## What a list of lines leads to -/

/-- A call of `runLine`, and what came of it. -/
structure CallMade where
  /-- The command in the line. -/
  command : String
  /-- The environment before. -/
  before : Environment
  /-- What came of it. -/
  outcome : Except ExecFailure Verdict
  /-- The environment after it. -/
  after : Environment
  deriving DecidableEq, Repr

/-- `Runs world alike shell environment lines s calls result s'`: begun with the environment in the
state `s`, running the lines one after the other comes to the calls and to the result, and leaves
the world as in the state `s'`. No line is run once the shell has been told to stop, nor behind
one whose failure is fatal; between two calls the world remains alike. -/
inductive Runs {σ : Type} (world : World σ) (alike : σ → σ → Prop) (shell : Shell) :
    Environment → List String → σ → List CallMade → Except Breakdown Unit × Environment → σ → Prop
  | stopped {environment lines s s'} : environment.exiting = true → alike s s' →
      Runs world alike shell environment lines s [] (.ok (), environment) s'
  | exhausted {environment s s'} : environment.exiting = false → alike s s' →
      Runs world alike shell environment [] s [] (.ok (), environment) s'
  | broken {environment line rest s ready spoilt s' failure later} :
      environment.exiting = false → alike s ready →
      Ends world (shell.runLine environment line) ready (.error failure, later) spoilt →
      alike spoilt s' →
      Runs world alike shell environment (line :: rest) s
        [⟨trimString line, environment, .error failure, later⟩] (.error (.exec failure), later) s'
  | ran {environment line rest s ready next s' verdict later calls result} :
      environment.exiting = false → alike s ready →
      Ends world (shell.runLine environment line) ready (.ok verdict, later) next →
      Runs world alike shell later rest next calls result s' →
      Runs world alike shell environment (line :: rest) s
        (⟨trimString line, environment, .ok verdict, later⟩ :: calls) result s'

/-- A program runs a list of lines: it can end as the lines lead to, and in no other way. -/
def Carries {σ : Type} (world : World σ) (alike : σ → σ → Prop) (shell : Shell)
    (environment : Environment) (lines : List String)
    (program : Prog (Except Breakdown Unit × Environment)) : Prop :=
  ∀ s result,
    (∀ s', Ends world program s result s' →
      ∃ calls, Runs world alike shell environment lines s calls result s') ∧
    ∀ calls s', Runs world alike shell environment lines s calls result s' →
      ∃ s'', Ends world program s result s'' ∧ alike s' s''

variable {σ : Type} {world : World σ} {alike : σ → σ → Prop} {shell : Shell}
  {environment : Environment} {lines : List String} {line : String} {rest : List String}

/-- Lines lead to the same calls from states that are alike. -/
theorem Runs.of_alike (hworld : Indifferent world alike) {s t s' : σ} {calls : List CallMade}
    {result : Except Breakdown Unit × Environment} (halike : alike t s)
    (h : Runs world alike shell environment lines s calls result s') :
    Runs world alike shell environment lines t calls result s' := by
  have htrans := @hworld.equivalence.trans
  cases h with
  | stopped hexiting hlast => exact .stopped hexiting (htrans halike hlast)
  | exhausted hexiting hlast => exact .exhausted hexiting (htrans halike hlast)
  | broken hexiting hready hends hlast => exact .broken hexiting (htrans halike hready) hends hlast
  | ran hexiting hready hends hrest => exact .ran hexiting (htrans halike hready) hends hrest

/-- Lines with the same commands lead to the same calls. -/
theorem Runs.of_trim {others : List String}
    (hlines : List.Forall₂ (fun line other => trimString line = trimString other) lines others)
    {s s' : σ} {calls : List CallMade} {result : Except Breakdown Unit × Environment}
    (h : Runs world alike shell environment lines s calls result s') :
    Runs world alike shell environment others s calls result s' := by
  induction h generalizing others with
  | stopped hexiting hlast => exact .stopped hexiting hlast
  | exhausted hexiting hlast =>
      cases hlines
      exact .exhausted hexiting hlast
  | broken hexiting hready hends hlast =>
      cases hlines with
      | cons hline _ =>
          rw [hline]
          exact .broken hexiting hready (runLine_eq_of_trim hline shell _ ▸ hends) hlast
  | ran hexiting hready hends _ ih =>
      cases hlines with
      | cons hline hrest =>
          rw [hline]
          exact .ran hexiting hready (runLine_eq_of_trim hline shell _ ▸ hends) (ih hrest)

/-- Nothing is to be done any more. -/
theorem carries_pure (hworld : Indifferent world alike)
    (h : environment.exiting = true ∨ lines = []) :
    Carries world alike shell environment lines (.pure (.ok (), environment)) := by
  refine fun s result => ⟨fun s' hends => ?_, fun calls s' hruns => ?_⟩
  · obtain ⟨rfl, rfl⟩ := ends_pure_iff.mp hends
    have hrefl := hworld.equivalence.refl s'
    cases hexiting : environment.exiting with
    | true => exact ⟨[], .stopped hexiting hrefl⟩
    | false =>
        obtain rfl : lines = [] := h.resolve_left (by simp [hexiting])
        exact ⟨[], .exhausted hexiting hrefl⟩
  · cases hruns with
    | stopped _ hlast => exact ⟨s, .pure, hworld.equivalence.symm hlast⟩
    | exhausted _ hlast => exact ⟨s, .pure, hworld.equivalence.symm hlast⟩
    | broken hexiting => exact absurd h (by simp [hexiting])
    | ran hexiting => exact absurd h (by simp [hexiting])

/-- What is done quietly before the lines are run is not noticed. -/
theorem carries_of_quiet (hworld : Indifferent world alike) {α : Type} {program : Prog α}
    {next : α → Prog (Except Breakdown Unit × Environment)} {good : α → Prop}
    (h : Quiet world alike program good)
    (hnext : ∀ value, good value → Carries world alike shell environment lines (next value)) :
    Carries world alike shell environment lines (program.bind next) := by
  refine fun s result => ⟨fun s' hends => ?_, fun calls s' hruns => ?_⟩
  · obtain ⟨value, middle, hfirst, hsecond⟩ := ends_bind_iff.mp hends
    obtain ⟨hgood, halike⟩ := (h s).2 _ _ hfirst
    obtain ⟨calls, hruns⟩ := (hnext value hgood middle result).1 s' hsecond
    exact ⟨calls, hruns.of_alike hworld halike⟩
  · obtain ⟨⟨value, middle, hfirst⟩, hquiet⟩ := h s
    obtain ⟨hgood, halike⟩ := hquiet _ _ hfirst
    obtain ⟨s'', hsecond, hlast⟩ := (hnext value hgood middle result).2 calls s'
      (hruns.of_alike hworld (hworld.equivalence.symm halike))
    exact ⟨s'', hfirst.bind hsecond, hlast⟩

/-- The first line is run, and then the others with the environment that it leaves. -/
theorem carries_cons (hworld : Indifferent world alike) (hexiting : environment.exiting = false)
    {next : Environment → Prog (Except Breakdown Unit × Environment)}
    (hnext : ∀ later, Carries world alike shell later rest (next later)) :
    Carries world alike shell environment (line :: rest)
      ((shell.runLine environment line).bind fun
        | (.error failure, later) => .pure (.error (.exec failure), later)
        | (.ok _, later) => next later) := by
  refine fun s result => ⟨fun s' hends => ?_, fun calls s' hruns => ?_⟩
  · obtain ⟨⟨outcome, later⟩, middle, hline, hsecond⟩ := ends_bind_iff.mp hends
    have hrefl := hworld.equivalence.refl
    cases outcome with
    | error failure =>
        obtain ⟨rfl, rfl⟩ := ends_pure_iff.mp hsecond
        exact ⟨_, .broken hexiting (hrefl s) hline (hrefl _)⟩
    | ok verdict =>
        obtain ⟨calls, hruns⟩ := (hnext later middle result).1 s' hsecond
        exact ⟨_, .ran hexiting (hrefl s) hline hruns⟩
  · cases hruns with
    | stopped hstopped => exact absurd hstopped (by simp [hexiting])
    | broken _ hready hline hlast =>
        obtain ⟨t, hline, halike⟩ := hworld.ends hline (hworld.equivalence.symm hready)
        exact ⟨t, hline.bind .pure,
          hworld.equivalence.trans (hworld.equivalence.symm hlast) halike⟩
    | ran _ hready hline hrest =>
        obtain ⟨t, hline, halike⟩ := hworld.ends hline (hworld.equivalence.symm hready)
        obtain ⟨s'', hsecond, hlast⟩ := (hnext _ t result).2 _ s'
          (hrest.of_alike hworld (hworld.equivalence.symm halike))
        exact ⟨s'', hline.bind hsecond, hlast⟩

/-- To write a line back is quiet, from a terminal or not. -/
theorem quiet_echo (hworld : Indifferent world alike) (config : Config) (terminal : Bool)
    (line : String) : Quiet world alike (Shell.echo config terminal line) (· = .ok ()) := by
  unfold Shell.echo
  cases config.echo.echoes terminal with
  | false => exact quiet_pure hworld rfl
  | true =>
      cases terminal with
      | false => exact quiet_display hworld _
      | true => exact (quiet_put hworld _).bind hworld fun _ _ => quiet_pure hworld rfl

/-- To write a line back and run it is to do the one and then, if nothing failed, the other. -/
theorem echoAndRun_bind (environment : Environment) (terminal : Bool) (line : String)
    {next : Except Breakdown Unit × Environment → Prog (Except Breakdown Unit × Environment)}
    (herror : ∀ breakdown later, next (.error breakdown, later) = .pure (.error breakdown, later)) :
    (shell.echoAndRun environment terminal line).bind next =
      (Shell.echo shell.config terminal line).bind fun
        | .error errno => next (.error (.stream errno), environment)
        | .ok () => (shell.runLine environment line).bind fun
            | (.error failure, later) => .pure (.error (.exec failure), later)
            | (.ok _, later) => next (.ok (), later) := by
  unfold Shell.echoAndRun
  refine (bind_assoc _ _ _).trans (congrArg (Prog.bind _) (funext fun written => ?_))
  cases written with
  | error errno => rfl
  | ok _ =>
      refine (bind_assoc _ _ _).trans (congrArg (Prog.bind _) (funext fun ran => ?_))
      obtain ⟨outcome, later⟩ := ran
      cases outcome with
      | error failure => exact herror (.exec failure) later
      | ok verdict => rfl

/-- A line that is written back before it is run is run like any other. -/
theorem carries_echoAndRun (hworld : Indifferent world alike)
    (hexiting : environment.exiting = false) (terminal : Bool)
    {next : Except Breakdown Unit × Environment → Prog (Except Breakdown Unit × Environment)}
    (herror : ∀ breakdown later, next (.error breakdown, later) = .pure (.error breakdown, later))
    (hnext : ∀ later, Carries world alike shell later rest (next (.ok (), later))) :
    Carries world alike shell environment (line :: rest)
      ((shell.echoAndRun environment terminal line).bind next) := by
  rw [echoAndRun_bind environment terminal line herror]
  refine carries_of_quiet hworld (quiet_echo hworld shell.config terminal line)
    fun written hwritten => ?_
  subst hwritten
  exact carries_cons hworld hexiting hnext

/-- **A script is run as its lines say.** -/
theorem carries_session (hworld : Indifferent world alike) (shell : Shell) (lines : List String)
    (environment : Environment) :
    Carries world alike shell environment lines (session shell environment lines) := by
  induction lines generalizing environment with
  | nil =>
      rw [session]
      split
      · exact carries_pure hworld (.inr rfl)
      · refine carries_of_quiet hworld (quiet_display hworld _) fun shown hshown => ?_
        subst hshown
        exact carries_pure hworld (.inr rfl)
  | cons line rest ih =>
      rw [session]
      split
      next hexiting => exact carries_pure hworld (.inl hexiting)
      next hexiting =>
        refine carries_of_quiet hworld (quiet_display hworld _) fun shown hshown => ?_
        subst hshown
        simp only [← echo_eq_writeBack]
        refine carries_of_quiet hworld (quiet_echo hworld shell.config false line)
          fun written hwritten => ?_
        subst hwritten
        exact carries_cons hworld (by simpa using hexiting) ih

/-! ## The loops -/

/-- What a shell at a terminal does once it has been given a line. -/
def afterReading {ρ : Type} (shell : Shell) (editor : Shell.Editor ρ) (environment : Environment) :
    Shell.Reading × ρ → Prog (Except Breakdown Unit × Environment)
  | (.ended, _) => .pure (.ok (), environment)
  | (.failed failure, _) => .pure (.error (.typing failure), environment)
  | (.interrupted, state) => shell.converseWith editor environment state
  | (.line typed, state) => (editor.remember typed state).bind fun
      | .error failure => .pure (.error (.typing failure), environment)
      | .ok state =>
          (shell.echoAndRun environment true (cutToLimit shell.config typed)).bind fun
            | (.error breakdown, later) => .pure (.error breakdown, later)
            | (.ok (), later) => shell.converseWith editor later state

/-- One round at a terminal: a line is read unless the shell has been told to stop. -/
theorem unroll_converseOnce {ρ : Type} (shell : Shell) (editor : Shell.Editor ρ)
    (environment : Environment) (state : ρ) :
    unroll (shell.converseOnce editor) (environment, state) .pure =
      if environment.exiting then .pure (.ok (), environment)
      else (editor.read shell.config.prompt state).bind (afterReading shell editor environment) := by
  unfold unroll Shell.converseOnce
  dsimp only
  split
  · rfl
  · refine (bind_assoc _ _ _).trans (congrArg (Prog.bind _) (funext fun read => ?_))
    obtain ⟨reading, kept⟩ := read
    cases reading with
    | ended => rfl
    | failed failure => rfl
    | interrupted => rfl
    | line typed =>
        refine (bind_assoc _ _ _).trans (congrArg (Prog.bind _) (funext fun remembered => ?_))
        cases remembered with
        | error failure => rfl
        | ok later =>
            refine (bind_assoc _ _ _).trans (congrArg (Prog.bind _) (funext fun ran => ?_))
            obtain ⟨outcome, after⟩ := ran
            cases outcome <;> rfl

/-- Rounds at a terminal are run as the first of them and those behind it. -/
theorem carries_of_unroll {ρ : Type} {editor : Shell.Editor ρ} {state : ρ}
    (h : Carries world alike shell environment lines
      (if environment.exiting then .pure (.ok (), environment)
        else (editor.read shell.config.prompt state).bind
          (afterReading shell editor environment))) :
    Carries world alike shell environment lines (shell.converseWith editor environment state) := by
  rw [← unroll_converseOnce] at h
  intro s result
  simp only [Shell.converseWith, iterate, ends_loop_iff]
  exact h s result

/-- **What is typed is run as its lines say.** -/
theorem carries_converseWith {ρ : Type} (hworld : Indifferent world alike)
    {editor : Shell.Editor ρ} (shell : Shell) (typed : List String) (state : ρ)
    (hdelivers : Delivers world alike editor shell.config.prompt typed state)
    (environment : Environment) :
    Carries world alike shell environment (typed.map (cutToLimit shell.config))
      (shell.converseWith editor environment state) := by
  induction typed generalizing environment state with
  | nil =>
      refine carries_of_unroll ?_
      split
      · exact carries_pure hworld (.inr rfl)
      · refine carries_of_quiet hworld hdelivers fun read hread => ?_
        obtain ⟨reading, kept⟩ := read
        obtain rfl : reading = .ended := hread
        exact carries_pure hworld (.inr rfl)
  | cons line rest ih =>
      refine carries_of_unroll ?_
      split
      next hexiting => exact carries_pure hworld (.inl hexiting)
      next hexiting =>
        refine carries_of_quiet hworld hdelivers fun read hread => ?_
        obtain ⟨reading, kept⟩ := read
        obtain ⟨rfl, hremember⟩ : reading = .line line ∧ _ := hread
        refine carries_of_quiet hworld hremember fun remembered hremembered => ?_
        obtain ⟨later, rfl, hrest⟩ := hremembered
        exact carries_echoAndRun hworld (by simpa using hexiting) true (fun _ _ => rfl)
          (ih later hrest)

/-! ## The two loops -/

/-- **The two loops run the same commands.** Whatever a text is, and whatever the settings and the
commands of the shell are: a shell at a terminal at which the text is typed, and a shell that gets
the bytes of the text as a script, both make the calls of `runLine` that their lines lead to. These
calls are the same, from the command in the line to the environment behind it; and where one of
the shells can come to an end the other one can come to the same, with what has happened in the
world the same but for what was written to standard output. -/
theorem typed_lines_run_as_script {σ ρ : Type} {world : World σ} {alike : σ → σ → Prop}
    (hworld : Indifferent world alike) (shell : Shell) (editor : Shell.Editor ρ)
    (text : List Char) (state : ρ)
    (hdelivers : Delivers world alike editor shell.config.prompt (typedLines text) state)
    (environment : Environment) :
    let typed := (typedLines text).map (cutToLimit shell.config)
    let script := scriptLines shell.config (encode text)
    let atTerminal := shell.converseWith editor environment state
    let fromScript := shell.runScript environment (encode text)
    Carries world alike shell environment typed atTerminal ∧
    Carries world alike shell environment script fromScript ∧
    (∀ s calls result s', Runs world alike shell environment typed s calls result s' ↔
      Runs world alike shell environment script s calls result s') ∧
    ∀ s result,
      (∀ s', Ends world atTerminal s result s' →
        ∃ s'', Ends world fromScript s result s'' ∧ alike s' s'') ∧
      ∀ s', Ends world fromScript s result s' →
        ∃ s'', Ends world atTerminal s result s'' ∧ alike s' s'' := by
  intro typed script atTerminal fromScript
  have htyped : Carries world alike shell environment typed atTerminal :=
    carries_converseWith hworld shell _ state hdelivers environment
  have hscript : Carries world alike shell environment script fromScript := by
    rw [show fromScript = session shell environment script from (runScript_eq ..).1]
    exact carries_session hworld shell script environment
  -- the lines that are typed and those of the script are the same but for blanks around them
  have hlines : List.Forall₂ (fun typed line => trimString typed = trimString line) typed script :=
    forall₂_trim_eq shell.config text
  have hback : List.Forall₂ (fun line typed => trimString line = trimString typed) script typed :=
    (hlines.imp fun _ _ => Eq.symm).flip
  refine ⟨htyped, hscript, fun s calls result s' => ⟨.of_trim hlines, .of_trim hback⟩,
    fun s result => ⟨fun s' hends => ?_, fun s' hends => ?_⟩⟩
  · obtain ⟨calls, hruns⟩ := (htyped s result).1 s' hends
    exact (hscript s result).2 calls s' (hruns.of_trim hlines)
  · obtain ⟨calls, hruns⟩ := (hscript s result).1 s' hends
    exact (htyped s result).2 calls s' (hruns.of_trim hback)

/-- A world that keeps what is written to standard output and, apart from it, everything else that
is written. There is nothing to read, and anything else is answered in any way. -/
def notebook : World (Bytes × Bytes) := fun s call answer s' =>
  match call, answer with
  | .put bytes, _ => s' = (s.1 ++ bytes, s.2)
  | .flush, answer => answer = .ok () ∧ s' = s
  | .write _ bytes, answer => answer = .ok () ∧ s' = (s.1, s.2 ++ bytes)
  | .read _ _, answer => answer = .ok [] ∧ s' = s
  | _, _ => s' = s

/-- Only what was written to standard output may differ. -/
def sameNotes (s t : Bytes × Bytes) : Prop := s.2 = t.2

theorem indifferent_notebook : Indifferent notebook sameNotes where
  equivalence := ⟨fun _ => rfl, Eq.symm, Eq.trans⟩
  answers := by
    intro s t s' call answer halike hw
    cases call with
    | put bytes => exact ⟨(t.1 ++ bytes, t.2), rfl, hw ▸ halike⟩
    | flush => exact ⟨t, ⟨hw.1, rfl⟩, hw.2 ▸ halike⟩
    | write fd bytes =>
        exact ⟨(t.1, t.2 ++ bytes), ⟨hw.1, rfl⟩, hw.2 ▸ congrArg (· ++ bytes) halike⟩
    | read fd count => exact ⟨t, ⟨hw.1, rfl⟩, hw.2 ▸ halike⟩
    | _ => exact ⟨t, rfl, hw ▸ halike⟩
  put := fun s bytes => ⟨⟨_, rfl⟩, fun s' hw => hw ▸ rfl⟩
  flush := fun s => ⟨⟨s, rfl, rfl⟩, fun answer s' hw => ⟨hw.1, hw.2 ▸ rfl⟩⟩

theorem drained_notebook : Drained notebook sameNotes :=
  fun s => ⟨⟨.ok [], s, ends_call_iff.mpr ⟨rfl, rfl⟩⟩, fun _ _ hends =>
    have hw := ends_call_iff.mp hends
    ⟨hw.1, hw.2 ▸ rfl⟩⟩

/-- A text with two carriage returns behind a line, typed ahead at a plain terminal: the lines
differ, the calls do not. -/
theorem pwd_and_exit_run_alike :
    let text := ['p', 'w', 'd', '\r', '\r', '\n', 'e', 'x', 'i', 't']
    let shell : Shell := ⟨{ prompt := "$ " }, []⟩
    Indifferent notebook sameNotes ∧
    Delivers notebook sameNotes Shell.plainEditor "$ " (typedLines text) (encode text) ∧
    ∀ s calls result s',
      Runs notebook sameNotes shell default ["pwd\r", "exit"] s calls result s' ↔
        Runs notebook sameNotes shell default ["pwd", "exit"] s calls result s' := by
  intro text shell
  have hdelivers : Delivers notebook sameNotes Shell.plainEditor "$ " (typedLines text)
      (encode text) :=
    delivers_plainEditor indifferent_notebook drained_notebook _ (by decide)
  have htyped : (typedLines text).map (cutToLimit shell.config) = ["pwd\r", "exit"] := by cbv
  have hscript : scriptLines shell.config (encode text) = ["pwd", "exit"] := by cbv
  have hruns := (typed_lines_run_as_script indifferent_notebook shell Shell.plainEditor text _
    hdelivers default).2.2.1
  rw [htyped, hscript] at hruns
  exact ⟨indifferent_notebook, hdelivers, hruns⟩

end LineShell.Loops
