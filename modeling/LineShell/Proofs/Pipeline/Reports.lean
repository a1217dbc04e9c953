import LineShell.Proofs.Line.Chunks
import LineShell.Proofs.Pipeline.Awaiting
import LineShell.Proofs.Pipeline.Fates
import Mathlib

/-!
# Reports on pipelines

A pipeline of any length is run, and the stages end in any order and in any way, some before the
shell begins to wait; the shell may be disturbed as often as it is.

* **`Orders`** — the shell goes on in order with the children on record, each of which is the process
  of its stage; every move keeps that (`orders_of_recorded`);
* **`report_of_fates`** — when the shell reports, the codes are those of the fates of the stages, in
  their order, and every child has been waited for once.
-/

namespace LineShell.Fates

open LineShell.System LineShell.Course Prog

/-! ## The shell and its stages -/

section Orders

variable {s s' : System Outcome} {p q : Process Outcome} {programs : List (List Bytes)}
  {command : String} {shell origin mover : Pid} {forks : Bool} {news : Option (Pid × Ending)}
  {log later : List Event}

/-- The shell fails. -/
def Fails (shell : Pid) (s : System Outcome) : Prop :=
  ∀ q ∈ s.processes, q.pid = shell → Failing q.program

/-- The shell goes on in order with the children on record, each of which is the process of its
stage. -/
structure Orders (programs : List (List Bytes)) (command : String) (shell : Pid) (log : List Event)
    (s : System Outcome) : Prop where
  onShell : ∀ q ∈ s.processes, q.pid = shell →
    Orderly programs command (started log shell) ((told log shell).map Prod.snd) q.program
  turns : (told log shell).map Prod.fst = (started log shell).take (told log shell).length
  stages : ∀ (place : Nat) (child : Pid), (started log shell)[place]? = some child →
    ∃ arguments, programs[place]? = some arguments ∧ Fares arguments log s child

theorem program_of_other (hbelow : shell < s.nextPid) (hpass : Passage mover forks news s s')
    (hne : mover ≠ shell) (hq : q ∈ s'.processes) (hsame : q.pid = shell) :
    ∃ old ∈ s.processes, old.pid = shell ∧ q.program = old.program := by
  rcases hpass.origins q hq with ⟨old, hold, hheir⟩ | ⟨-, hnew, -⟩
  · have hpid : old.pid = shell := hheir.pid.symm.trans hsame
    exact ⟨old, hold, hpid, hheir.program (hpid ▸ Ne.symm hne)⟩
  · exact absurd (hsame.symm.trans hnew) (Nat.ne_of_lt hbelow)

theorem Fails.other (h : Fails shell s) (hbelow : shell < s.nextPid)
    (hpass : Passage mover forks news s s') (hne : mover ≠ shell) : Fails shell s' := by
  intro q hq hsame
  obtain ⟨old, hold, hpid, hprogram⟩ := program_of_other hbelow hpass hne hq hsame
  exact hprogram ▸ h old hold hpid

/-- The shell is not concerned when another one moves. -/
theorem Orders.other (h : Orders programs command shell log s) (hbelow : shell < s.nextPid)
    (hpass : Passage mover forks news s s') (hne : mover ≠ shell)
    (hstarted : started later shell = []) (htold : told later shell = [])
    (hfares : ∀ child ∈ started log shell, ∀ arguments, Fares arguments log s child →
      Fares arguments (log ++ later) s' child) :
    Orders programs command shell (log ++ later) s' := by
  have hsame : started (log ++ later) shell = started log shell := by
    rw [started_append, hstarted, List.append_nil]
  have hheard : told (log ++ later) shell = told log shell := by
    rw [told_append, htold, List.append_nil]
  refine ⟨fun q hq hpid => ?_, ?_, fun place child hplace => ?_⟩
  · obtain ⟨old, hold, holdpid, hprogram⟩ := program_of_other hbelow hpass hne hq hpid
    rw [hsame, hheard, hprogram]
    exact h.onShell old hold holdpid
  · rw [hsame, hheard]
    exact h.turns
  · rw [hsame] at hplace
    obtain ⟨arguments, hprogram, hfare⟩ := h.stages place child hplace
    exact ⟨arguments, hprogram, hfares child (List.mem_of_getElem? hplace) arguments hfare⟩

/-- The record of a child that has just been started is empty. -/
theorem fares_of_born {arguments : List Bytes} {child : Pid} (hdeeds : deeds log child = [])
    (hprogram : ∀ q ∈ s.processes, q.pid = child → Preparing arguments q.program) :
    Fares arguments log s child := by
  refine ⟨?_, ?_, fun _ q hq hsame _ => ?_, fun _ _ _ hsought => ?_⟩
  · rw [hdeeds]
    exact fun given hgiven => by cases hgiven
  · rw [hdeeds]
    exact fun hin => absurd hin List.not_mem_nil
  · rw [hdeeds]
    exact .preparing rfl (hprogram q hq hsame)
  · rw [hdeeds] at hsought
    exact absurd hsought List.not_mem_nil

variable {launch : Launcher}

theorem program_of_born {next : Except Errno ForkSide → Prog Outcome}
    (hnumbered : ∀ q ∈ s.processes, q.pid < s.nextPid) (hp : s.process? shell = some p)
    (hactive : p.active = true) (hprogram : p.program = .ask .fork (fun _ => false) next)
    (hstep : step launch s shell = some s') :
    ∀ q ∈ s'.processes, q.pid = s.nextPid → q.program = next (.ok .child) := by
  cases hstep.symm.trans (step_fork hp hactive hprogram)
  intro q hq hnew
  rcases List.mem_append.mp hq with hq | hq
  · have hmem := List.mem_map_of_mem (f := Process.pid) hq
    rw [map_pid_setProcess] at hmem
    obtain ⟨old, hold, heq⟩ := List.mem_map.mp hmem
    exact absurd (heq.trans hnew) (Nat.ne_of_lt (hnumbered old hold))
  · rw [List.mem_singleton.mp hq]
    rfl

theorem getElem?_append_new {children : List Pid} {forks : Prop} [Decidable forks] {place : Nat}
    {new child : Pid} (h : (children ++ if forks then [new] else [])[place]? = some child) :
    children[place]? = some child ∨ forks ∧ place = children.length ∧ new = child := by
  split at h
  · rename_i hforks
    rw [List.getElem?_append] at h
    split at h
    · exact .inl h
    · rename_i hover
      rw [List.getElem?_singleton] at h
      split at h
      · rename_i hzero
        exact .inr ⟨hforks, by omega, Option.some.inj h⟩
      · cases h
  · rw [List.append_nil] at h
    exact .inl h

section Own

variable (htally : Tally shell origin log s) (hp : s.process? shell = some p)

include htally hp

theorem started_own : started (log ++ noted launch s shell s') shell =
    started log shell ++ if p.program.request? = some .fork then [s.nextPid] else [] := by
  rw [started_append, started_noted htally.distinct hp]
  congr 1
  exact if_congr (by simp) rfl rfl

theorem told_own : told (log ++ noted launch s shell s') shell =
    told log shell ++ (p.program.request?.bind (s.news? shell)).toList := by
  rw [told_append, told_noted htally.distinct hp, if_pos rfl]

variable (h : Orders programs command shell log s) (hnot : ¬Failing p.program)

include h hnot

/-- The ends are told in the order in which the children were started. -/
theorem Orders.turns_own : (told (log ++ noted launch s shell s') shell).map Prod.fst =
    (started (log ++ noted launch s shell s') shell).take
      (told (log ++ noted launch s shell s') shell).length := by
  obtain ⟨hmem, hpid⟩ := mem_of_process? hp
  have horderly := h.onShell p hmem hpid
  rw [started_own htally hp, told_own htally hp]
  cases hnews : p.program.request?.bind (s.news? shell) with
  | none =>
      rw [Option.toList_none, List.append_nil]
      by_cases hfork : p.program.request? = some .fork
      · -- the children are started before any of them is waited for
        obtain ⟨hnone, -⟩ := (horderly.born hfork).resolve_left hnot
        rw [List.map_eq_nil_iff.mp hnone]
        rfl
      · rw [if_neg hfork, List.append_nil]
        exact h.turns
  | some news =>
      have hfork : p.program.request? ≠ some .fork := by
        intro hfork
        rw [hfork] at hnews
        cases hnews
      have hturn := (horderly.turn hnews).resolve_left hnot
      rw [List.length_map] at hturn
      rw [if_neg hfork, List.append_nil, Option.toList_some, List.map_append, List.length_append,
        h.turns]
      show _ ++ [news.1] = (started log shell).take ((told log shell).length + 1)
      rw [List.take_add_one, hturn]
      rfl

/-- A process that the shell starts is that of the stage whose turn it is. -/
theorem Orders.born_own (hactive : p.active = true) (hstep : step launch s shell = some s')
    (hfork : p.program.request? = some .fork) :
    ∃ arguments, programs[(started log shell).length]? = some arguments ∧
      Fares arguments (log ++ noted launch s shell s') s' s.nextPid := by
  obtain ⟨hmem, hpid⟩ := mem_of_process? hp
  obtain ⟨-, plumbing, arguments, next, hturn, hprogram, hchild⟩ :=
    ((h.onShell p hmem hpid).born hfork).resolve_left hnot
  refine ⟨arguments, hturn, fares_of_born ?_ fun q hq hnew => ?_⟩
  · have hnobody : ∀ q ∈ s.processes, q.pid ≠ s.nextPid :=
      fun q hq => Nat.ne_of_lt (htally.numbered q hq)
    rw [deeds_append, deeds_noted hp, deeds_lapsed_of_not_mem hnobody,
      if_neg (Nat.ne_of_lt htally.below),
      deeds_eq_nil fun event hevent => Nat.ne_of_lt (htally.noticed event hevent)]
    rfl
  · rw [program_of_born htally.numbered hp hactive hprogram hstep q hq hnew, hchild]
    exact preparing_runStage _ _

omit hnot in
/-- The stages that have been started before do not move when the shell does. -/
theorem Orders.stage_own (hshell : shell < origin) (hactive : p.active = true)
    (hstep : step launch s shell = some s') {place : Nat} {child : Pid}
    (hplace : (started log shell)[place]? = some child) :
    ∃ arguments, programs[place]? = some arguments ∧
      Fares arguments (log ++ noted launch s shell s') s' child := by
  obtain ⟨arguments, hprogram, hfares⟩ := h.stages place child hplace
  have hchild := List.mem_of_getElem? hplace
  have hfresh := htally.fresh child hchild
  have hne : shell ≠ child := Nat.ne_of_lt (Nat.lt_of_lt_of_le hshell hfresh.1)
  have hpass := step_passage htally.distinct htally.numbered hp hactive hstep
  refine ⟨arguments, hprogram, hfares.other htally.distinct hfresh.2 (htally.stands child hchild)
    hpass hne ?_⟩
  rw [deeds_noted hp, if_neg hne, List.nil_append]

omit hnot in
/-- A step of the shell keeps it in order, unless it fails. -/
theorem Orders.own (hshell : shell < origin) (hactive : p.active = true)
    (hstep : step launch s shell = some s') :
    Fails shell s' ∨ Orders programs command shell (log ++ noted launch s shell s') s' := by
  obtain ⟨hmem, hpid⟩ := mem_of_process? hp
  have hpass := step_passage htally.distinct htally.numbered hp hactive hstep
  have hsteps := orderly_step htally.numbered hp hactive (h.onShell p hmem hpid) hstep
  by_cases hfails : Fails shell s'
  · exact .inl hfails
  have hnot : ¬Failing p.program := fun hfailing => hfails
    (comes_step htally.numbered hp hactive hfailing hstep)
  refine .inr ⟨fun q hq hsame => ?_, h.turns_own htally hp hnot, fun place child hplace => ?_⟩
  · rw [started_own htally hp, told_own htally hp, List.map_append]
    refine (hsteps q hq hsame).resolve_left fun hfailing => hfails fun other hother hother' => ?_
    exact hpass.distinct.eq_of_pid hq hother (hother'.trans hsame.symm) ▸ hfailing
  · rw [started_own htally hp] at hplace
    rcases getElem?_append_new hplace with hplace | ⟨hfork, rfl, rfl⟩
    · exact h.stage_own htally hp hshell hactive hstep hplace
    · exact h.born_own htally hp hnot hactive hstep hfork

end Own

/-- A shell that is disturbed waits again, or fails. -/
theorem Orders.disturbed (h : Orders programs command shell log s)
    (hp : p ∈ s.processes) (hactive : p.active = true) {child : Option Pid}
    {again : Except Errno (Pid × ChildNews) → Bool}
    {next : Except Errno (Pid × ChildNews) → Prog Outcome}
    (hprogram : p.program = .ask (.wait child) again next)
    {reply : Except Errno (Pid × ChildNews)} (hreply : Disturbs reply) :
    Fails shell (s.setProcess { p with program := Process.proceed (.wait child) again next reply }) ∨
      Orders programs command shell log
        (s.setProcess { p with program := Process.proceed (.wait child) again next reply }) := by
  have hquiet : ∀ pid ending, reply ≠ .ok (pid, .ended ending) := by
    intro pid ending
    cases hreply <;> simp
  have hfares : ∀ (place : Nat) (other : Pid), (started log shell)[place]? = some other →
      ∃ arguments, programs[place]? = some arguments ∧ Fares arguments log
        (s.setProcess { p with program := Process.proceed (.wait child) again next reply }) other := by
    intro place other hplace
    obtain ⟨arguments, hargs, hfare⟩ := h.stages place other hplace
    refine ⟨arguments, hargs, hfare.named, hfare.asked, fun hnot q hq hsame halive => ?_, hfare.left⟩
    rcases mem_setProcess.mp hq with ⟨rfl, -⟩ | ⟨hq, -⟩
    · -- the process of a stage does not wait before it has become its program
      have hwait : p.program.request? = some (.wait child) := by
        rw [hprogram]
        rfl
      exact absurd hwait (hfare.goes hnot p hp hsame (ending_of_active hactive)).not_wait
    · exact hfare.goes hnot q hq hsame halive
  by_cases hmine : p.pid = shell
  · have horderly := h.onShell p hp hmine
    rw [hprogram] at horderly
    have hself : ∀ q ∈ (s.setProcess
        { p with program := Process.proceed (.wait child) again next reply }).processes,
        q.pid = shell → q.program = Process.proceed (.wait child) again next reply := by
      intro q hq hsame
      rw [eq_of_mem_setProcess hq (hsame.trans hmine.symm)]
    rcases horderly.disturbed hquiet with hfailing | horderly
    · exact .inl fun q hq hsame => hself q hq hsame ▸ hfailing
    · exact .inr ⟨fun q hq hsame => hself q hq hsame ▸ horderly, h.turns, hfares⟩
  · refine .inr ⟨fun q hq hsame => ?_, h.turns, hfares⟩
    rcases mem_setProcess.mp hq with ⟨rfl, -⟩ | ⟨hq, -⟩
    · exact absurd hsame hmine
    · exact h.onShell q hq hsame

theorem Fails.disturbed (h : Fails shell s) (hp : p ∈ s.processes) {child : Option Pid}
    {again : Except Errno (Pid × ChildNews) → Bool}
    {next : Except Errno (Pid × ChildNews) → Prog Outcome}
    (hprogram : p.program = .ask (.wait child) again next)
    (reply : Except Errno (Pid × ChildNews)) : Fails shell
      (s.setProcess { p with program := Process.proceed (.wait child) again next reply }) := by
  intro q hq hsame
  rcases mem_setProcess.mp hq with ⟨rfl, -⟩ | ⟨hq, -⟩
  · have hfailing := h p hp hsame
    rw [hprogram] at hfailing
    cases hfailing with
    | ask hcall hnext => exact Comes.proceed hcall hnext reply
  · exact h q hq hsame

/-! ## Runs -/

/-- In a machine a shell is about to run a pipeline. -/
structure Begins (pipeline : Pipeline) (command : String) (shell : Pid) (start : System Outcome) :
    Prop where
  distinct : start.Distinct
  numbered : ∀ p ∈ start.processes, p.pid < start.nextPid
  onShell : ∃ p ∈ start.processes, p.pid = shell ∧ p.program = execute pipeline command

variable {pipeline : Pipeline} {start : System Outcome}

theorem Begins.tally (h : Begins pipeline command shell start) :
    Tally shell start.nextPid [] start := by
  obtain ⟨p, hp, rfl, -⟩ := h.onShell
  refine ⟨h.distinct, h.numbered, h.numbered p hp, Nat.le_refl _, ?_, ?_, ?_, List.nodup_nil, ?_, ?_⟩
  · exact fun event hevent => absurd hevent List.not_mem_nil
  · exact fun news hnews => absurd hnews List.not_mem_nil
  · exact fun child hchild => absurd hchild List.not_mem_nil
  · exact fun q hq _ horigin => absurd (h.numbered q hq) (Nat.not_lt_of_le horigin)
  · exact fun child hchild => absurd hchild List.not_mem_nil

theorem Begins.orders (h : Begins pipeline command shell start) :
    Fails shell start ∨ ∃ programs, pipeline.stages.mapM Stage.argumentBytes = .ok programs ∧
      Orders programs command shell [] start := by
  obtain ⟨p, hp, rfl, hprogram⟩ := h.onShell
  have hself : ∀ q ∈ start.processes, q.pid = p.pid → q.program = execute pipeline command :=
    fun q hq hsame => h.distinct.eq_of_pid hp hq hsame ▸ hprogram
  rcases orderly_execute pipeline command with hfailing | ⟨programs, hprograms, horderly⟩
  · exact .inl fun q hq hsame => hself q hq hsame ▸ hfailing
  · exact .inr ⟨programs, hprograms, fun q hq hsame => hself q hq hsame ▸ horderly, rfl,
      fun place child hplace => by cases hplace⟩

/-- Whatever moves, the shell goes on in order, or fails. -/
theorem orders_of_recorded (hbegins : Begins pipeline command shell start)
    (hrun : Recorded launch start log s) : Tally shell start.nextPid log s ∧
      (Fails shell s ∨ ∃ programs, pipeline.stages.mapM Stage.argumentBytes = .ok programs ∧
        Orders programs command shell log s) := by
  have hshell : shell < start.nextPid := hbegins.tally.below
  induction hrun with
  | start => exact ⟨hbegins.tally, hbegins.orders⟩
  | tick time _ ih =>
      obtain ⟨htally, horders⟩ := ih
      refine ⟨htally.alike rfl rfl, horders.imp id ?_⟩
      rintro ⟨programs, hprograms, h⟩
      refine ⟨programs, hprograms, h.onShell, h.turns, fun place child hplace => ?_⟩
      obtain ⟨arguments, hargs, hfare⟩ := h.stages place child hplace
      exact ⟨arguments, hargs, hfare.named, hfare.asked, hfare.goes, hfare.left⟩
  | @step log s s' pid _ hstep ih =>
      obtain ⟨htally, horders⟩ := ih
      obtain ⟨p, hp, hactive⟩ := process?_of_step hstep
      have hpass := step_passage htally.distinct htally.numbered hp hactive hstep
      refine ⟨htally.step hp hactive hstep, ?_⟩
      by_cases hmine : pid = shell
      · subst hmine
        rcases horders with hfails | ⟨programs, hprograms, h⟩
        · obtain ⟨hmem, hpid⟩ := mem_of_process? hp
          exact .inl (comes_step htally.numbered hp hactive (hfails p hmem hpid) hstep)
        · exact (h.own htally hp hshell hactive hstep).imp_right fun h => ⟨programs, hprograms, h⟩
      · rcases horders with hfails | ⟨programs, hprograms, h⟩
        · exact .inl (hfails.other htally.below hpass hmine)
        · refine .inr ⟨programs, hprograms, h.other htally.below hpass hmine ?_ ?_ ?_⟩
          · rw [started_noted htally.distinct hp, if_neg fun hboth => hmine hboth.1]
          · rw [told_noted htally.distinct hp, if_neg hmine]
          · intro child hchild arguments hfares
            have hstands := htally.stands child hchild
            by_cases hown : pid = child
            · subst hown
              exact hfares.own htally.distinct htally.numbered hstands hp hactive hstep
            · refine hfares.other htally.distinct (htally.fresh child hchild).2 hstands hpass hown ?_
              rw [deeds_noted hp, if_neg hown, List.nil_append]
  | @signal log s target number _ ih =>
      obtain ⟨htally, horders⟩ := ih
      -- the signal comes from nobody who is there
      obtain ⟨hnext, hheirs⟩ := heirs_signal htally.distinct s.nextPid target number
      have hpass := passage_of_heirs htally.distinct htally.numbered hheirs hnext
      have hnobody : s.nextPid ≠ shell := Nat.ne_of_gt htally.below
      refine ⟨htally.signal target number, ?_⟩
      rcases horders with hfails | ⟨programs, hprograms, h⟩
      · exact .inl (hfails.other htally.below hpass hnobody)
      · refine .inr ⟨programs, hprograms, h.other htally.below hpass hnobody
          (lapsed_filterMap htally.distinct fun _ => rfl)
          (lapsed_filterMap htally.distinct fun _ => rfl) fun child hchild arguments hfares => ?_⟩
        have hfresh := (htally.fresh child hchild).2
        exact hfares.other htally.distinct hfresh (htally.stands child hchild) hpass
          (Nat.ne_of_gt hfresh) rfl
  | @disturbed log s p child again next reply _ hp hactive hprogram hreply ih =>
      obtain ⟨htally, horders⟩ := ih
      refine ⟨htally.alike (kinship_setProcess htally.distinct hp rfl) rfl, ?_⟩
      rcases horders with hfails | ⟨programs, hprograms, h⟩
      · exact .inl (hfails.disturbed hp hprogram reply)
      · exact (h.disturbed hp hactive hprogram hreply).imp_right fun h =>
          ⟨programs, hprograms, h⟩

/-! ## Reports -/

/-- The child has come to its fate, for which the code stands. -/
def Fated (log : List Event) (child : Pid) (code : Int) : Prop :=
  ∃ fate, fateOf log child = some fate ∧ fate.code = code

theorem fates_of_forall₂ {children : List Pid} {codes : List Int}
    (h : List.Forall₂ (Fated log) children codes) :
    ∃ fs : List Fate, children.map (fateOf log) = fs.map some ∧ codes = fs.map Fate.code := by
  induction h with
  | nil => exact ⟨[], rfl, rfl⟩
  | cons hfirst _ ih =>
      obtain ⟨fate, hfate, rfl⟩ := hfirst
      obtain ⟨fs, hfs, rfl⟩ := ih
      exact ⟨fate :: fs, by rw [List.map_cons, hfate, hfs]; rfl, rfl⟩

/-- The code of an ending that is on record is that of the fate. -/
theorem fated_of_ending {arguments : List Bytes} {child : Pid} {ending : Ending} {code : Int}
    (h : Fares arguments log s child) (hending : System.endings log child = [ending])
    (hcode : ending.code? = .ok code) : Fated log child code := by
  unfold Fated fateOf
  rw [hending]
  cases ending with
  | exited status =>
      obtain rfl : (status : Int) = code := Except.ok.inj hcode
      dsimp only
      split
      · rename_i hnotRun
        exact ⟨.notRun, rfl, (h.left hnotRun.2 status hending hnotRun.1).1⟩
      · exact ⟨.exited status, rfl, rfl⟩
  | killed signal =>
      dsimp only [Ending.code?] at hcode
      split at hcode
      · exact ⟨.killed signal, rfl, Except.ok.inj hcode⟩
      · cases hcode

theorem complained_of_notRun {arguments : List Bytes} {child : Pid}
    (h : Fares arguments log s child) (hfate : fateOf log child = some .notRun) :
    Complained (deeds log child) := by
  unfold fateOf at hfate
  split at hfate
  · rename_i code hending
    split at hfate
    · rename_i hnotRun
      exact (h.left hnotRun.2 code hending hnotRun.1).2
    · cases hfate
  · cases hfate
  · cases hfate

/-- In a machine a shell has run a pipeline and reports. -/
structure Finishes (launch : Launcher) (pipeline : Pipeline) (command : String) (shell : Pid)
    (start : System Outcome) (log : List Event) (s : System Outcome) (report : Report) : Prop where
  begins : Begins pipeline command shell start
  run : Recorded launch start log s
  reports : ∃ p ∈ s.processes, p.pid = shell ∧ p.program = .pure (.ok report)

/-- What is on record when a shell reports. Each stage has had its process, which has looked for the
program of that stage, and has come to a fate, for which the code in the place of the stage stands;
the shell has been told of the end of each of them once, and none of them is left. -/
structure Accounted (pipeline : Pipeline) (command : String) (shell : Pid) (start : System Outcome)
    (log : List Event) (s : System Outcome) (report : Report) : Prop where
  distinct : (started log shell).Nodup
  codes : ∃ fs : List Fate, fs.length = pipeline.stages.length ∧ fates log shell = fs.map some ∧
    report = ⟨command, fs.map Fate.code⟩
  awaited : (told log shell).map Prod.fst = started log shell
  ends : ∀ news ∈ told log shell, System.endings log news.1 = [news.2]
  reaped : ∀ p ∈ s.processes, p.parent = shell → p.pid < start.nextPid
  programs : ∀ (place : Nat) (child : Pid), (started log shell)[place]? = some child →
    ∃ (stage : Stage) (arguments : List Bytes), pipeline.stages[place]? = some stage ∧
      stage.argumentBytes = .ok arguments ∧ Named arguments (deeds log child)
  complained : ∀ child ∈ started log shell, fateOf log child = some .notRun →
    Complained (deeds log child)

/-- The programs that are looked for are those of the stages. -/
theorem stage_of_place {place : Nat} {arguments : List Bytes}
    (h : pipeline.stages.mapM Stage.argumentBytes = .ok programs)
    (hplace : programs[place]? = some arguments) :
    ∃ stage, pipeline.stages[place]? = some stage ∧ stage.argumentBytes = .ok arguments := by
  obtain ⟨hlt, hget⟩ := List.getElem?_eq_some_iff.mp hplace
  have hall := List.forall₂_iff_get.mp (forall₂_of_mapM_eq_ok h)
  have hstage : place < pipeline.stages.length := hall.1.symm ▸ hlt
  refine ⟨pipeline.stages[place], List.getElem?_eq_getElem hstage, ?_⟩
  exact hget ▸ hall.2 place hstage hlt

/-- The way of a shell that reports has been in order to its end. -/
theorem Finishes.orders {report : Report}
    (h : Finishes launch pipeline command shell start log s report) :
    Tally shell start.nextPid log s ∧ ∃ programs codes,
      pipeline.stages.mapM Stage.argumentBytes = .ok programs ∧
        Orders programs command shell log s ∧ report = ⟨command, codes⟩ ∧
        (started log shell).length = programs.length ∧
        (told log shell).length = (started log shell).length ∧
        List.Forall₂ (fun ending code => ending.code? = .ok code)
          ((told log shell).map Prod.snd) codes := by
  obtain ⟨htally, horders⟩ := orders_of_recorded h.begins h.run
  obtain ⟨p, hp, hpid, hprogram⟩ := h.reports
  refine ⟨htally, ?_⟩
  rcases horders with hfails | ⟨programs, hprograms, horders⟩
  · have hfailing := hfails p hp hpid
    rw [hprogram] at hfailing
    exact absurd hfailing not_failing_ok
  · have horderly := horders.onShell p hp hpid
    rw [hprogram] at horderly
    generalize hendings : (told log shell).map Prod.snd = endings at horderly ⊢
    cases horderly with
    | @finished _ _ codes hchildren htold hcodes =>
        rw [← hendings, List.length_map] at htold
        exact ⟨programs, codes, hprograms, horders, rfl, hchildren, htold, hcodes⟩
    | failing hfailing => exact absurd hfailing not_failing_ok

/-- When the shell reports, every stage is accounted for. -/
theorem Finishes.accounted {report : Report}
    (h : Finishes launch pipeline command shell start log s report) :
    Accounted pipeline command shell start log s report := by
  obtain ⟨htally, programs, codes, hprograms, horders, rfl, hstarted, htold, hcodes⟩ := h.orders
  have hawaited : (told log shell).map Prod.fst = started log shell := by
    rw [horders.turns, htold, List.take_length]
  have hchild : ∀ news ∈ told log shell, news.1 ∈ started log shell := fun news hnews =>
    hawaited ▸ List.mem_map_of_mem hnews
  have hends : ∀ news ∈ told log shell, System.endings log news.1 = [news.2] := fun news hnews =>
    htally.ending_of_told (hchild news hnews) hnews
  have hfares : ∀ child ∈ started log shell, ∃ arguments, Fares arguments log s child := by
    intro child hmem
    obtain ⟨place, hplace⟩ := List.getElem?_of_mem hmem
    obtain ⟨arguments, -, hfares⟩ := horders.stages place child hplace
    exact ⟨arguments, hfares⟩
  have hfated : List.Forall₂ (Fated log) (started log shell) codes := by
    rw [← hawaited, List.forall₂_map_left_iff]
    rw [List.forall₂_map_left_iff] at hcodes
    refine ((List.forall₂_and_left _ _).mpr ⟨fun _ hnews => hnews, hcodes⟩).imp ?_
    rintro news code ⟨hnews, hcode⟩
    obtain ⟨arguments, hfares⟩ := hfares news.1 (hchild news hnews)
    exact fated_of_ending hfares (hends news hnews) hcode
  obtain ⟨fs, hfates, rfl⟩ := fates_of_forall₂ hfated
  have hlength : fs.length = pipeline.stages.length := by
    have hsame := congrArg List.length hfates
    rw [List.length_map, List.length_map] at hsame
    rw [← hsame, hstarted, (forall₂_of_mapM_eq_ok hprograms).length_eq]
  refine ⟨htally.nodup, ⟨fs, hlength, hfates, rfl⟩, hawaited, hends, fun p hp hparent => ?_,
    fun place child hplace => ?_, fun child hmem hfate => ?_⟩
  · -- one that was left would be on record, though its end has been told
    by_contra hnot
    have hmem := htally.children p hp hparent (Nat.le_of_not_lt hnot)
    cases htally.stands p.pid hmem with
    | there _ _ _ _ hquiet =>
        obtain ⟨news, hnews, hsame⟩ := List.mem_map.mp (hawaited.symm ▸ hmem)
        exact hquiet news.2 (hsame ▸ hnews)
    | gone hgone => exact hgone p hp rfl
  · obtain ⟨arguments, hprogram, hfares⟩ := horders.stages place child hplace
    obtain ⟨stage, hstage, hbytes⟩ := stage_of_place hprograms hprogram
    exact ⟨stage, arguments, hstage, hbytes, hfares.named⟩
  · obtain ⟨arguments, hfares⟩ := hfares child hmem
    exact complained_of_notRun hfares hfate

/-- The report says what has become of each stage, in the order of the stages, whatever the order in
which they end; where the same becomes of them, the report is the same. -/
theorem report_of_fates {report : Report}
    (h : Finishes launch pipeline command shell start log s report) :
    Accounted pipeline command shell start log s report ∧
      ∀ {launch' : Launcher} {shell' : Pid} {start' s' : System Outcome} {log' : List Event}
        {report' : Report}, Finishes launch' pipeline command shell' start' log' s' report' →
        fates log' shell' = fates log shell → report' = report := by
  refine ⟨h.accounted, fun h' hsame => ?_⟩
  obtain ⟨fs, -, hfates, rfl⟩ := h.accounted.codes
  obtain ⟨fs', -, hfates', rfl⟩ := h'.accounted.codes
  have heq : fs'.map some = fs.map some := hfates'.symm.trans (hsame.trans hfates)
  rw [(List.map_inj_right fun _ _ => Option.some.inj).mp heq]

end Orders

/-! ## Two stages that are not found -/

/-- A move of a machine. -/
inductive Move where
  /-- A process makes a step. -/
  | step (pid : Pid)
  /-- A signal comes from outside. -/
  | signal (target : Pid) (number : Signal)

/-- The record of a run so far, and the state that it has come to. -/
structure Trail where
  /-- What has been recorded. -/
  log : List Event
  /-- The state. -/
  last : System Outcome

/-- Where a move leads to, if it can be made. -/
def Trail.next (launch : Launcher) (trail : Trail) : Move → Trail
  | .step pid =>
      match step launch trail.last pid with
      | none => trail
      | some later => ⟨trail.log ++ noted launch trail.last pid later, later⟩
  | .signal target number =>
      ⟨trail.log ++ lapsed trail.last (trail.last.signal target number).2,
        (trail.last.signal target number).2⟩

theorem recorded_foldl {launch : Launcher} {start : System Outcome} (trail : Trail)
    (hrun : Recorded launch start trail.log trail.last) (moves : List Move) :
    Recorded launch start (moves.foldl (Trail.next launch) trail).log
      (moves.foldl (Trail.next launch) trail).last := by
  induction moves generalizing trail with
  | nil => exact hrun
  | cons move moves ih =>
      refine ih _ ?_
      cases move with
      | signal target number => exact hrun.signal target number
      | step pid =>
          unfold Trail.next
          dsimp only
          cases hstep : step launch trail.last pid with
          | none => exact hrun
          | some later => exact .step pid hrun hstep

/-- Two stages, for which there are no programs. -/
def duo : Pipeline := ⟨[⟨"./a", []⟩, ⟨"./b", []⟩], none⟩

/-- A shell at a terminal that is about to run them. -/
def duoShell : Process Outcome where
  pid := 1
  parent := 0
  program := execute duo "./a | ./b"
  table := [Fd.stdin, Fd.stdout, Fd.stderr].map fun fd =>
    (fd, ⟨⟨.terminal, { read := true, write := true }, 0⟩, false⟩)
  limit := 64
  directory := Files.root
  bindings := []
  pending := []
  ending := none

/-- A machine with nothing but the shell. -/
def duoMachine : System Outcome where
  files := .empty
  cells := [0]
  pipes := []
  typed := []
  processes := [duoShell]
  nextPid := 2

/-- The second stage looks for its program and leaves before the first one is killed, and the shell
waits for both at last. -/
def duoMoves : List Move :=
  List.replicate 6 (.step 1) ++ List.replicate 7 (.step 3) ++ .signal 2 9 ::
    List.replicate 2 (.step 1)

/-- What the moves lead to, where no file is a program. -/
def duoTrail : Trail := duoMoves.foldl (Trail.next fun _ _ => none) ⟨[], duoMachine⟩

/-- A process has come to a report. -/
def hasReported (p : Process Outcome) : Bool :=
  match p.program with
  | .pure (.ok _) => true
  | _ => false

theorem report_of_hasReported {p : Process Outcome} (h : hasReported p = true) :
    ∃ report, p.program = .pure (.ok report) := by
  unfold hasReported at h
  split at h
  · rename_i report hprogram
    exact ⟨report, hprogram⟩
  · exact absurd h Bool.false_ne_true

theorem begins_duo : Begins duo "./a | ./b" 1 duoMachine :=
  ⟨List.pairwise_singleton _ _, by decide, duoShell, List.mem_cons_self, rfl, rfl⟩

/-- The codes stand in the order of the stages, though the second one ends first, and its process
has said that there is no program. -/
theorem duo_report : ∃ report, (∃ p ∈ duoTrail.last.processes, p.pid = 1 ∧
      p.program = .pure (.ok report)) ∧ report = ⟨"./a | ./b", [137, 127]⟩ ∧
    Complained (deeds duoTrail.log 3) := by
  have hends : ((started duoTrail.log 1).map fun child => (child, fateOf duoTrail.log child),
      duoTrail.last.processes.map fun p => (p.pid, hasReported p)) =
        ([(2, some (.killed 9)), (3, some .notRun)], [(1, true)]) := by cbv
  obtain ⟨hfated, hprocesses⟩ := Prod.mk.inj hends
  obtain ⟨p, rest, hlast, hp, -⟩ := List.map_eq_cons_iff.mp hprocesses
  obtain ⟨hpid, hreported⟩ := Prod.mk.inj hp
  obtain ⟨report, hprogram⟩ := report_of_hasReported hreported
  have hreports : ∃ p ∈ duoTrail.last.processes, p.pid = 1 ∧ p.program = .pure (.ok report) :=
    ⟨p, hlast ▸ List.mem_cons_self, hpid, hprogram⟩
  obtain ⟨haccounted, -⟩ := report_of_fates
    ⟨begins_duo, recorded_foldl ⟨[], duoMachine⟩ .start duoMoves, hreports⟩
  obtain ⟨fs, -, hfates, hreport⟩ := haccounted.codes
  have hsame : fs.map some = [.killed 9, .notRun].map some := by
    rw [← hfates]
    have hsecond := congrArg (List.map Prod.snd) hfated
    rwa [List.map_map] at hsecond
  obtain rfl := (List.map_inj_right fun _ _ => Option.some.inj).mp hsame
  have hthird : (3, some Fate.notRun) ∈ (started duoTrail.log 1).map
      fun child => (child, fateOf duoTrail.log child) := by
    rw [hfated]
    decide
  obtain ⟨child, hchild, heq⟩ := List.mem_map.mp hthird
  obtain ⟨rfl, hnotRun⟩ := Prod.mk.inj heq
  exact ⟨report, hreports, hreport, haccounted.complained 3 hchild hnotRun⟩

end LineShell.Fates
