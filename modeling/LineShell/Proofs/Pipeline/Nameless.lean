import LineShell.Proofs.Pipeline.Reports

/-!
# Stages that signals without names kill

The shell knows a code for each exit, and for each signal that has a name. A stage may also be killed
by a signal without a name; then the shell gives up when it is told of that, and the stages behind
that one are not waited for.

* **`Keeping`** — where a shell is that goes through a pipeline, and what it has been told by then;
* **`keeping_step`** — each step of the shell keeps that, and an end is told in it where one can be;
* **`keeps_of_recorded`** — so does every move of the machine;
* **`reports_iff_named`** — a shell that has started all stages reports exactly if all signals that
  have killed them have names.
-/

namespace LineShell.Nameless

open LineShell.System LineShell.Course LineShell.Fates Prog

variable {command : String} {children : List Pid} {news : List (Pid × Ending)}

/-! ## The way of the shell -/

/-- The request is one of a shell that gives a pipeline up. -/
def IsClearing : Call → Prop
  | .close _ | .wait _ => True
  | _ => False

/-- The codes stand for the endings that have been told. -/
abbrev Spelled (news : List (Pid × Ending)) (codes : List Int) : Prop :=
  List.Forall₂ (fun told code => told.2.code? = .ok code) news codes

/-- Where a shell is that goes through a pipeline of so many stages, which children it has started
and which ends it has been told by then. Before it has started all of them it may give up for any
reason; behind that, only for a child that a signal without a name has killed. -/
inductive Keeping (count : Nat) (command : String) :
    List Pid → List (Pid × Ending) → Prog Outcome → Prop
  | clearing {children : List Pid} {news : List (Pid × Ending)} {program : Prog Outcome} :
      children.length < count → Asks IsClearing program → Keeping count command children news program
  | setup {children : List Pid} {call : Call} {again next} : children.length < count →
      IsSetup call → (∀ answer, Keeping count command children [] (next answer)) →
      Keeping count command children [] (.ask call again next)
  | fork {children : List Pid} {next : Except Errno ForkSide → Prog Outcome} :
      children.length < count → (∀ errno, Asks IsClearing (next (.error errno))) →
      (∀ child, Keeping count command (children ++ [child]) [] (next (.ok (.parent child)))) →
      Keeping count command children [] (.ask .fork (fun _ => false) next)
  | releasing {children : List Pid} {fd : Fd} {left : List Fd} : children.length = count →
      Keeping count command children [] (releasing command .pure children (fd :: left))
  | waiting {children left : List Pid} {news : List (Pid × Ending)} {codes : List Int} :
      children.length = count → children = news.map Prod.fst ++ left → Spelled news codes →
      Keeping count command children news (waiting command .pure codes left)
  | failed {children left : List Pid} {news : List (Pid × Ending)} {codes : List Int} {child : Pid}
      {signal : Signal} : children.length = count → children = news.map Prod.fst ++ child :: left →
      Spelled news codes → lastNamedSignal < signal →
      Keeping count command children (news ++ [(child, .killed signal)])
        (.pure (.error (.wait .invalid)))

theorem asks_reap (left : List Pid) : Asks IsClearing (reap left) := by
  have hcode : ∀ child, Asks IsClearing (awaitCode child) := by
    intro child
    refine .ask trivial fun reply => ?_
    rcases reply with errno | ⟨pid, ending | signal | _⟩ <;> exact .pure
  induction left with
  | nil => exact .pure
  | cons child left ih => exact (hcode child).bind fun _ => ih

/-- A shell that gives its plumbing up does nothing else on the way. -/
theorem asks_abandoning {rest : Prog Outcome} (h : Asks IsClearing rest) (left : List Fd) :
    Asks IsClearing ((Plumbing.closeAll left).bind fun _ => rest) :=
  (asks_closeAll (fun _ => trivial) left).bind fun _ => h

theorem keeping_releasing {count : Nat} (hcount : children.length = count) (left : List Fd) :
    Keeping count command children [] (releasing command .pure children left) := by
  cases left with
  | nil => exact .waiting hcount rfl .nil
  | cons fd left => exact .releasing hcount

theorem keeping_forking {plumbing : Plumbing} {count stage : Nat} {left : List (List Bytes)}
    (hcount : children.length + left.length = count) :
    Keeping count command children [] (forking command .pure plumbing stage left children) := by
  induction left generalizing stage children with
  | nil => exact keeping_releasing hcount _
  | cons arguments left ih =>
      rw [List.length_cons] at hcount
      rw [forking_cons]
      refine .fork (by omega) (fun errno => asks_abandoning ((asks_reap _).bind fun _ => .pure) _)
        fun child => ih ?_
      rw [List.length_append, List.length_singleton]
      omega

theorem keeping_laying {programs : List (List Bytes)} (hsome : 0 < programs.length) (left : Nat)
    (plumbing : Plumbing) :
    Keeping programs.length command [] [] (laying command .pure programs left plumbing) := by
  induction left generalizing plumbing with
  | zero => exact .setup hsome trivial fun _ => keeping_forking (Nat.zero_add _)
  | succ left ih =>
      rw [laying_succ]
      refine .setup hsome trivial fun laid => ?_
      cases laid with
      | ok ends => exact ih _
      | error errno => exact .clearing hsome (asks_abandoning .pure _)

/-- From the beginning on. -/
theorem keeping_execute {pipeline : Pipeline} (hsome : pipeline.stages ≠ []) (command : String) :
    Keeping pipeline.stages.length command [] [] (execute pipeline command) := by
  have hpos := List.length_pos_of_ne_nil hsome
  rw [← bind_pure (execute pipeline command), execute_bind]
  cases hprograms : pipeline.stages.mapM Stage.argumentBytes with
  | error word => exact .clearing hpos .pure
  | ok programs =>
      have hlength := (forall₂_of_mapM_eq_ok hprograms).length_eq
      rw [hlength] at hpos ⊢
      dsimp only
      cases pipeline.target with
      | none => exact keeping_laying hpos _ _
      | some target =>
          rw [opening_some]
          cases cleanBytes target.path with
          | error word => exact .clearing hpos .pure
          | ok path =>
              refine .setup hpos trivial fun opened => ?_
              cases opened with
              | error errno => exact .clearing hpos .pure
              | ok fd => exact keeping_laying hpos _ _

/-- What a shell goes on with when it has been told how the next child has ended. -/
theorem keeping_told {count : Nat} {codes : List Int} {child : Pid} {left : List Pid}
    (hcount : children.length = count) (hsplit : children = news.map Prod.fst ++ child :: left)
    (hspelled : Spelled news codes) (ending : Ending) :
    Keeping count command children (news ++ [(child, ending)])
      (match ending.code? with
        | .ok code => waiting command .pure (codes ++ [code]) left
        | .error errno => .pure (.error (.wait errno))) := by
  cases hcode : ending.code? with
  | ok code =>
      refine .waiting hcount ?_ (List.rel_append hspelled (.cons hcode .nil))
      rw [List.map_append, List.append_assoc]
      exact hsplit
  | error errno =>
      cases ending with
      | exited status => cases hcode
      | killed signal =>
          unfold Ending.code? at hcode
          dsimp only at hcode
          split at hcode
          · cases hcode
          · rename_i hnameless
            cases hcode
            exact .failed hcount hsplit hspelled (Nat.lt_of_not_le hnameless)

/-! ## Steps of the shell -/

section Steps

variable {launch : Launcher} {s s' after : System Outcome} {shell child origin : Pid}
  {p q : Process Outcome} {log : List Event} {count : Nat}

/-- One who waits for a child of its own is not refused. -/
theorem waitFor_ne_error (hq : q ∈ s.processes) (hparent : q.parent = shell) (errno : Errno) :
    s.waitFor shell (some q.pid) ≠ some (.error errno, after) := by
  intro hwait
  unfold System.waitFor at hwait
  dsimp only at hwait
  split at hwait
  · cases hwait
  · split at hwait
    · rename_i hnone
      rw [List.isEmpty_iff, List.filter_eq_nil_iff] at hnone
      exact absurd (by simp [hparent]) (hnone q hq)
    · cases hwait

/-- One who waits for a child that has ended is told something. -/
theorem waitFor_isSome (hq : q ∈ s.processes) (hparent : q.parent = shell)
    (hended : q.ending.isSome = true) : (s.waitFor shell (some q.pid)).isSome = true := by
  unfold System.waitFor
  dsimp only
  split
  · rfl
  · rename_i hnone
    rw [List.find?_eq_none] at hnone
    refine absurd hended (hnone q (List.mem_filter.mpr ⟨hq, ?_⟩))
    simp [hparent]

/-- A child whose end has not been told is there. -/
theorem there_of_not_told (htally : Tally shell origin log s) (hchild : child ∈ started log shell)
    (hnot : child ∉ (told log shell).map Prod.fst) :
    ∃ q ∈ s.processes, q.pid = child ∧ q.parent = shell ∧ endings log child = q.ending.toList := by
  cases htally.stands child hchild with
  | there hq hpid hparent hendings => exact ⟨_, hq, hpid, hparent, hendings⟩
  | gone _ _ htold => exact absurd (List.mem_map_of_mem htold) hnot

/-- The child whose turn it is has been started, and its end has not been told. -/
theorem turn_of_split (hnodup : (started log shell).Nodup) {left : List Pid}
    (hsplit : started log shell = (told log shell).map Prod.fst ++ child :: left) :
    child ∈ started log shell ∧ child ∉ (told log shell).map Prod.fst := by
  rw [hsplit] at hnodup ⊢
  obtain ⟨-, -, hdisjoint⟩ := List.nodup_append.mp hnodup
  exact ⟨List.mem_append_right _ List.mem_cons_self,
    fun hin => hdisjoint child hin child List.mem_cons_self rfl⟩

variable (htally : Tally shell origin log s) (hp : s.process? shell = some p)
  (hactive : p.active = true)

include htally hp hactive

/-- A shell that waits for the child whose turn it is is told how that has ended. -/
theorem keeping_waiting_step {codes : List Int} {left : List Pid}
    (hcount : (started log shell).length = count)
    (hsplit : started log shell = (told log shell).map Prod.fst ++ child :: left)
    (hspelled : Spelled (told log shell) codes)
    (hprogram : p.program = waiting command .pure codes (child :: left))
    (hstep : step launch s shell = some s') (hq : q ∈ s'.processes) (hsame : q.pid = shell) :
    Keeping count command (started log shell)
      (told log shell ++ (p.program.request?.bind (s.news? shell)).toList) q.program := by
  obtain ⟨hstarted, hnot⟩ := turn_of_split htally.nodup hsplit
  obtain ⟨mine, hmine, rfl, hparent, -⟩ := there_of_not_told htally hstarted hnot
  rw [waiting_cons] at hprogram
  have hrequest : p.program.request? = some (.wait (some mine.pid)) := by
    rw [hprogram]
    rfl
  rw [hrequest, Option.bind_some]
  rw [step_answered hp hactive rfl hprogram, Option.map_eq_some_iff] at hstep
  obtain ⟨⟨reply, answered, after⟩, hanswer, rfl⟩ := hstep
  simp only [answer, Option.map_eq_some_iff] at hanswer
  obtain ⟨⟨reply', after'⟩, hwait, heq⟩ := hanswer
  cases heq
  rw [eq_of_own hp hq hsame rfl]
  rw [(mem_of_process? hp).2] at hwait
  rcases waitFor_cases hwait with ⟨errno, rfl, -⟩ | ⟨gone, -, ending, -, -, hwanted, rfl, -⟩
  · exact absurd hwait (waitFor_ne_error hmine hparent errno)
  · rw [news?_of_ended rfl hwait, hwanted _ rfl]
    exact keeping_told hcount hsplit hspelled ending

omit htally hp hactive in
/-- A step in which nothing is started or told. -/
theorem keeping_of_idle {call : Call} (hrequest : p.program.request? = some call)
    (hfork : call ≠ .fork) (hwait : awaited? call = none)
    (h : Keeping count command children news q.program) :
    Keeping count command
      (children ++ if p.program.request? = some .fork then [s.nextPid] else [])
      (news ++ (p.program.request?.bind (s.news? shell)).toList) q.program := by
  have hquiet : s.news? shell call = none := by
    unfold news?
    rw [hwait]
    rfl
  rw [hrequest, if_neg fun heq => hfork (Option.some.inj heq), Option.bind_some, hquiet,
    Option.toList_none, List.append_nil, List.append_nil]
  exact h

omit htally in
/-- A step of a shell that prepares a pipeline. -/
theorem keeping_setup_step {call : Call} {again : call.Result → Bool}
    {next : call.Result → Prog Outcome} (hlt : children.length < count) (hcall : IsSetup call)
    (hnext : ∀ answer, Keeping count command children [] (next answer))
    (hprogram : p.program = .ask call again next) (hstep : step launch s shell = some s')
    (hq : q ∈ s'.processes) (hsame : q.pid = shell) :
    Keeping count command
      (children ++ if p.program.request? = some .fork then [s.nextPid] else [])
      ([] ++ (p.program.request?.bind (s.news? shell)).toList) q.program := by
  have hproceed : ∀ reply,
      Keeping count command children [] (Process.proceed call again next reply) :=
    holds_proceed (.setup hlt hcall hnext) hnext
  have hrequest : p.program.request? = some call := by
    rw [hprogram]
    rfl
  cases call with
  | openPath path access closeOnExec | pipe | close fd =>
      obtain ⟨reply, heq⟩ := program_of_answered hp hactive hstep hq hsame rfl hprogram
      exact keeping_of_idle hrequest (by simp) rfl (heq ▸ hproceed reply)
  | flush =>
      refine keeping_of_idle hrequest (by simp) rfl ?_
      rcases program_of_flush hp hactive hstep hq hsame hprogram with heq | ⟨reply, heq⟩
      · rw [heq, hprogram]
        exact .setup hlt hcall hnext
      · exact heq ▸ hproceed reply
  | _ => exact hcall.elim

/-- A step of the shell keeps it on its way. -/
theorem keeping_step (h : Keeping count command (started log shell) (told log shell) p.program)
    (hstep : step launch s shell = some s') (hq : q ∈ s'.processes) (hsame : q.pid = shell) :
    Keeping count command
      (started log shell ++ if p.program.request? = some .fork then [s.nextPid] else [])
      (told log shell ++ (p.program.request?.bind (s.news? shell)).toList) q.program := by
  obtain ⟨hmem, hpid⟩ := mem_of_process? hp
  have hover : ∀ {outcome : Outcome}, p.program ≠ .pure outcome := by
    intro outcome hpure
    exact absurd (hstep.symm.trans (step_pure hp hactive hpure)) (by simp)
  generalize hchildren : started log shell = children at h
  generalize hnews : told log shell = news at h
  generalize hprogram : p.program = program at h
  cases h with
  | clearing hlt hasks =>
      cases hasks with
      | pure => exact absurd hprogram hover
      | @ask call again next hcall hnext =>
          cases call <;> first
            | exact hcall.elim
            | -- it starts nothing more
              obtain ⟨reply, heq⟩ := program_of_answered hp hactive hstep hq hsame rfl hprogram
              refine .clearing ?_ (heq ▸ Asks.proceed (.ask hcall hnext) reply)
              rw [if_neg (by simp [request?]), List.append_nil]
              exact hlt
  | setup hlt hcall hnext =>
      exact hprogram ▸ keeping_setup_step hp hactive hlt hcall hnext hprogram hstep hq hsame
  | @fork _ next hlt herror hparent =>
      cases hstep.symm.trans (step_fork hp hactive hprogram)
      rcases List.mem_append.mp hq with hq | hq
      · rw [eq_of_own hp hq hsame rfl]
        exact hparent s.nextPid
      · -- the child has the next number, and the shell an earlier one
        rw [List.mem_singleton.mp hq] at hsame
        exact absurd (htally.numbered p hmem) (by
          rw [hpid, ← hsame]
          exact Nat.lt_irrefl _)
  | @releasing _ fd left hcount =>
      have hclose : p.program = (Plumbing.closeAll (fd :: left)).bind fun _ =>
        waiting command .pure [] children := hprogram
      have hrequest : p.program.request? = some (.close fd) := by
        rw [hclose]
        rfl
      rw [step_closeAll hp hactive hclose] at hstep
      cases hstep
      rw [← hprogram, eq_of_own hp hq hsame rfl]
      exact keeping_of_idle hrequest (by simp) rfl (keeping_releasing hcount left)
  | @waiting _ left _ codes hcount hsplit hspelled =>
      cases left with
      | nil =>
          rw [waiting_nil] at hprogram
          exact absurd hprogram hover
      | cons child left =>
          subst hchildren hnews
          have hfork : p.program.request? ≠ some .fork := by
            rw [hprogram, waiting_cons]
            rintro ⟨⟩
          rw [← hprogram, if_neg hfork, List.append_nil]
          exact keeping_waiting_step htally hp hactive hcount hsplit hspelled hprogram hstep hq hsame
  | failed => exact absurd hprogram hover

omit htally hp hactive in
/-- A shell that is disturbed waits again. -/
theorem keeping_disturbed (h : Keeping count command children news p.program) {child : Option Pid}
    {again : Except Errno (Pid × ChildNews) → Bool}
    {next : Except Errno (Pid × ChildNews) → Prog Outcome}
    (hprogram : p.program = .ask (.wait child) again next)
    {reply : Except Errno (Pid × ChildNews)} (hreply : Disturbs reply) :
    Keeping count command children news (Process.proceed (.wait child) again next reply) := by
  generalize hwhole : p.program = program at h
  have hask : program = .ask (.wait child) again next := hwhole.symm.trans hprogram
  cases h with
  | clearing hlt hasks => exact .clearing hlt (Asks.proceed (hask ▸ hasks) reply)
  | setup _ hcall =>
      cases hask
      exact hcall.elim
  | fork => cases hask
  | releasing => cases hask
  | @waiting _ left _ codes hcount hsplit hspelled =>
      cases left with
      | nil =>
          rw [waiting_nil] at hask
          cases hask
      | cons mine left =>
          have hkeeps : Keeping count command children news
            (waiting command .pure codes (mine :: left)) := .waiting hcount hsplit hspelled
          rw [waiting_cons] at hask hkeeps
          change Prog.ask _ _ _ = Prog.ask _ _ _ at hask
          cases hask
          cases hreply <;> exact hkeeps
  | failed => cases hask

end Steps

/-! ## Runs -/

section Runs

variable {launch : Launcher} {start s s' : System Outcome} {shell : Pid} {p : Process Outcome}
  {log : List Event} {pipeline : Pipeline} {outcome : Outcome}

/-- The shell is on its way, with the children and the ends that are on record. -/
def Keeps (count : Nat) (command : String) (shell : Pid) (log : List Event)
    (s : System Outcome) : Prop :=
  ∀ q ∈ s.processes, q.pid = shell →
    Keeping count command (started log shell) (told log shell) q.program

/-- When another one moves, the shell stays where it is. -/
theorem Keeps.other {count : Nat} {mover : Pid} {forks : Bool} {told? : Option (Pid × Ending)}
    {later : List Event} (h : Keeps count command shell log s) (hbelow : shell < s.nextPid)
    (hpass : Passage mover forks told? s s') (hne : mover ≠ shell)
    (hstarted : started later shell = []) (htold : told later shell = []) :
    Keeps count command shell (log ++ later) s' := by
  intro q hq hsame
  obtain ⟨old, hold, hpid, hprogram⟩ := program_of_other hbelow hpass hne hq hsame
  rw [started_append, told_append, hstarted, htold, List.append_nil, List.append_nil, hprogram]
  exact h old hold hpid

/-- Whatever moves, the shell stays on its way. -/
theorem keeps_of_recorded (hbegins : Begins pipeline command shell start)
    (hsome : pipeline.stages ≠ []) (hrun : Recorded launch start log s) :
    Keeps pipeline.stages.length command shell log s := by
  induction hrun with
  | start =>
      obtain ⟨p, hp, rfl, hprogram⟩ := hbegins.onShell
      intro q hq hsame
      rw [hbegins.distinct.eq_of_pid hp hq hsame, hprogram]
      exact keeping_execute hsome command
  | tick time _ ih => exact ih
  | @step log s s' pid hrun hstep ih =>
      obtain ⟨htally, -⟩ := orders_of_recorded hbegins hrun
      obtain ⟨p, hp, hactive⟩ := process?_of_step hstep
      obtain ⟨hmem, hpid⟩ := mem_of_process? hp
      by_cases hmine : pid = shell
      · subst hmine
        intro q hq hsame
        rw [started_own htally hp, told_own htally hp]
        exact keeping_step htally hp hactive (ih p hmem hpid) hstep hq hsame
      · refine ih.other htally.below (step_passage htally.distinct htally.numbered hp hactive hstep)
          hmine ?_ ?_
        · rw [started_noted htally.distinct hp, if_neg fun hboth => hmine hboth.1]
        · rw [told_noted htally.distinct hp, if_neg hmine]
  | @signal log s target number hrun ih =>
      obtain ⟨htally, -⟩ := orders_of_recorded hbegins hrun
      -- the signal comes from nobody who is there
      obtain ⟨hnext, hheirs⟩ := heirs_signal htally.distinct s.nextPid target number
      exact ih.other htally.below
        (passage_of_heirs htally.distinct htally.numbered hheirs hnext) (Nat.ne_of_gt htally.below)
        (lapsed_filterMap htally.distinct fun _ => rfl)
        (lapsed_filterMap htally.distinct fun _ => rfl)
  | @disturbed log s p child again next reply hrun hp hactive hprogram hreply ih =>
      intro q hq hsame
      rcases mem_setProcess.mp hq with ⟨rfl, -⟩ | ⟨hq, -⟩
      · exact keeping_disturbed (ih p hp hsame) hprogram hreply
      · exact ih q hq hsame

/-! ## What comes of it -/

/-- The child has ended, and the code stands for its ending. -/
def Coded (log : List Event) (child : Pid) (code : Int) : Prop :=
  ∃ ending, System.endings log child = [ending] ∧ ending.code? = .ok code

/-- The child has been killed by a signal without a name. -/
def KilledNameless (log : List Event) (child : Pid) : Prop :=
  ∃ signal, System.endings log child = [.killed signal] ∧ lastNamedSignal < signal

/-- What a shell comes to that has started all stages. It reports when it has waited for all of
them; or it fails when it is told of one that a signal without a name has killed, and then those
behind that one are still there, whether they have ended or not. -/
inductive Concluded (command : String) (shell : Pid) (log : List Event) (s : System Outcome) :
    Outcome → Prop
  | reported {codes : List Int} : (told log shell).map Prod.fst = started log shell →
      List.Forall₂ (Coded log) (started log shell) codes →
      Concluded command shell log s (.ok ⟨command, codes⟩)
  | failed {before after : List Pid} {codes : List Int} {child : Pid} :
      started log shell = before ++ child :: after →
      (told log shell).map Prod.fst = before ++ [child] → List.Forall₂ (Coded log) before codes →
      KilledNameless log child →
      (∀ other ∈ after, ∃ q ∈ s.processes, q.pid = other ∧ q.parent = shell) →
      Concluded command shell log s (.error (.wait .invalid))

/-- A code that is reported stands for the ending on record. -/
theorem coded_of_spelled {origin : Pid} (htally : Tally shell origin log s)
    {news : List (Pid × Ending)} {codes : List Int} (hspelled : Spelled news codes)
    (htold : ∀ told ∈ news, told ∈ System.told log shell)
    (hstarted : ∀ told ∈ news, told.1 ∈ started log shell) :
    List.Forall₂ (Coded log) (news.map Prod.fst) codes := by
  rw [List.forall₂_map_left_iff]
  refine ((List.forall₂_and_left _ _).mpr ⟨fun _ hmem => hmem, hspelled⟩).imp ?_
  rintro told code ⟨hmem, hcode⟩
  exact ⟨told.2, htally.ending_of_told (hstarted told hmem) (htold told hmem), hcode⟩

/-- A shell that has started all stages and is done has come to one of two things. -/
theorem concluded_of_keeping {origin : Pid} {count : Nat} (htally : Tally shell origin log s)
    (hall : (started log shell).length = count)
    (h : Keeping count command (started log shell) (told log shell) p.program)
    (hover : p.program = .pure outcome) : Concluded command shell log s outcome := by
  generalize hchildren : started log shell = children at h hall
  generalize hnews : told log shell = news at h
  generalize hprogram : p.program = program at h hover
  cases h with
  | clearing hlt => exact absurd hall (Nat.ne_of_lt hlt)
  | setup | fork | releasing => cases hover
  | @waiting _ left _ codes _ hsplit hspelled =>
      cases left with
      | cons child left =>
          rw [waiting_cons] at hover
          cases hover
      | nil =>
          rw [waiting_nil] at hover
          cases hover
          rw [List.append_nil] at hsplit
          subst hchildren hnews
          refine .reported hsplit.symm ?_
          rw [hsplit]
          exact coded_of_spelled htally hspelled (fun _ => id) fun told hmem =>
            hsplit ▸ List.mem_map_of_mem hmem
  | @failed _ left before codes child signal _ hsplit hspelled hnameless =>
      cases hover
      subst hchildren
      have hstarted : ∀ told ∈ before, told.1 ∈ started log shell := fun told hmem =>
        hsplit ▸ List.mem_append_left _ (List.mem_map_of_mem hmem)
      have hchild : child ∈ started log shell :=
        hsplit ▸ List.mem_append_right _ List.mem_cons_self
      have hlast : (child, .killed signal) ∈ told log shell :=
        hnews ▸ List.mem_append_right _ List.mem_cons_self
      have hnodup := htally.nodup
      refine .failed hsplit (by rw [hnews, List.map_append]; rfl)
        (coded_of_spelled htally hspelled
          (fun told hmem => hnews ▸ List.mem_append_left _ hmem) hstarted)
        ⟨signal, htally.ending_of_told hchild hlast, hnameless⟩ fun other hother => ?_
      have hnot : other ∉ (told log shell).map Prod.fst := by
        rw [hnews, List.map_append]
        rw [hsplit, List.append_cons] at hnodup
        exact fun hin => (List.nodup_append.mp hnodup).2.2 other hin other hother rfl
      obtain ⟨q, hq, hpid, hparent, -⟩ := there_of_not_told htally
        (hsplit ▸ List.mem_append_right _ (List.mem_cons_of_mem _ hother)) hnot
      exact ⟨q, hq, hpid, hparent⟩

/-- A shell that has started all stages can go on, unless it waits for one that has not ended. -/
theorem moves_of_keeping {origin : Pid} {count : Nat} (htally : Tally shell origin log s)
    (hall : (started log shell).length = count)
    (h : Keeping count command (started log shell) (told log shell) p.program)
    (hp : s.process? shell = some p) (hactive : p.active = true) :
    (∃ outcome, p.program = .pure outcome) ∨ (step launch s shell).isSome = true ∨
      ∃ child ∈ started log shell, p.program.request? = some (.wait (some child)) ∧
        System.endings log child = [] := by
  generalize hchildren : started log shell = children at h hall
  generalize hnews : told log shell = news at h
  generalize hprogram : p.program = program at h
  cases h with
  | clearing hlt | setup hlt | fork hlt => exact absurd hall (Nat.ne_of_lt hlt)
  | @releasing _ fd left _ =>
      have hclose : p.program = (Plumbing.closeAll (fd :: left)).bind fun _ =>
        waiting command .pure [] children := hprogram
      rw [step_closeAll hp hactive hclose]
      exact .inr (.inl rfl)
  | failed => exact .inl ⟨_, rfl⟩
  | @waiting _ left _ codes _ hsplit _ =>
      cases left with
      | nil => exact .inl ⟨_, waiting_nil _ _ _⟩
      | cons child left =>
          subst hchildren hnews
          obtain ⟨hstarted, hnot⟩ := turn_of_split htally.nodup hsplit
          obtain ⟨mine, hmine, rfl, hparent, hendings⟩ := there_of_not_told htally hstarted hnot
          rw [waiting_cons] at hprogram ⊢
          cases hended : mine.ending with
          | none => exact .inr (.inr ⟨_, hstarted, rfl, by rw [hendings, hended]; rfl⟩)
          | some ending =>
              refine .inr (.inl ?_)
              have htold := waitFor_isSome hmine hparent (by rw [hended]; rfl)
              rw [step_answered hp hactive rfl hprogram, Option.isSome_map]
              show (Option.map _ (s.waitFor p.pid _)).isSome = true
              rw [Option.isSome_map, (mem_of_process? hp).2]
              exact htold

/-- **Ends of stages.** A shell that has started all stages of a pipeline goes on until it is done,
and waits for nothing but the end of a stage. It reports the code of each stage exactly if no signal
without a name has killed any of them. Otherwise it fails at the first one of these in the order of
the stages, and does not wait for those behind it. -/
theorem reports_iff_named (hbegins : Begins pipeline command shell start)
    (hsome : pipeline.stages ≠ []) (hrun : Recorded launch start log s)
    (hall : (started log shell).length = pipeline.stages.length)
    (hp : s.process? shell = some p) :
    (p.active = true → (∃ outcome, p.program = .pure outcome) ∨ (step launch s shell).isSome = true ∨
      ∃ child ∈ started log shell, p.program.request? = some (.wait (some child)) ∧
        System.endings log child = []) ∧
    ∀ outcome, p.program = .pure outcome → Concluded command shell log s outcome ∧
      ((∃ report, outcome = .ok report) ↔ ∀ child ∈ started log shell, ¬KilledNameless log child) := by
  obtain ⟨hmem, hpid⟩ := mem_of_process? hp
  obtain ⟨htally, -⟩ := orders_of_recorded hbegins hrun
  have hkeeps := keeps_of_recorded hbegins hsome hrun p hmem hpid
  refine ⟨moves_of_keeping htally hall hkeeps hp, fun outcome hover => ?_⟩
  have hconcluded := concluded_of_keeping htally hall hkeeps hover
  refine ⟨hconcluded, ?_⟩
  cases hconcluded with
  | reported _ hcodes =>
      refine iff_of_true ⟨_, rfl⟩ fun child hchild => ?_
      rintro ⟨signal, hkilled, hnameless⟩
      obtain ⟨place, hplace, hget⟩ := List.getElem_of_mem hchild
      obtain ⟨ending, hending, hcode⟩ :=
        (List.forall₂_iff_get.mp hcodes).2 place hplace ((hcodes.length_eq) ▸ hplace)
      rw [List.get_eq_getElem, hget, hkilled] at hending
      cases hending
      unfold Ending.code? at hcode
      dsimp only at hcode
      rw [if_neg (Nat.not_le_of_lt hnameless)] at hcode
      cases hcode
  | failed hsplit _ _ hkilled =>
      refine iff_of_false (by simp) fun hnone => ?_
      exact hnone _ (hsplit ▸ List.mem_append_right _ List.mem_cons_self) hkilled

end Runs

/-! ## A stage that a signal without a name kills -/

/-- The first one of two stages is killed by a signal without a name as soon as both have been
started, and the shell is told of that. -/
def brokenMoves : List Move := List.replicate 6 (.step 1) ++ [.signal 2 40, .step 1]

/-- What the moves lead to, where no file is a program. -/
def brokenTrail : Trail := brokenMoves.foldl (Trail.next fun _ _ => none) ⟨[], duoMachine⟩

/-- A process has failed for what it has been told of a child. -/
def hasFailed (p : Process Outcome) : Bool :=
  match p.program with
  | .pure (.error (.wait .invalid)) => true
  | _ => false

theorem failure_of_hasFailed {p : Process Outcome} (h : hasFailed p = true) :
    p.program = .pure (.error (.wait .invalid)) := by
  unfold hasFailed at h
  split at h
  · rename_i hprogram
    exact hprogram
  · exact absurd h Bool.false_ne_true

/-- What there is at the end: both stages have been started, the first one has been killed, and the
shell has failed; the second one is still there. -/
theorem brokenTrail_ends :
    (started brokenTrail.log 1, System.endings brokenTrail.log 2,
      brokenTrail.last.processes.map fun p => (p.pid, p.parent, hasFailed p)) =
        ([2, 3], [.killed 40], [(1, 0, true), (3, 1, false)]) := by cbv

/-- Both stages have been started, and the shell has failed because of how the first one has ended;
the second one is left alone. -/
theorem duo_gives_up :
    started brokenTrail.log 1 = [2, 3] ∧ System.endings brokenTrail.log 2 = [.killed 40] ∧
      (∃ p ∈ brokenTrail.last.processes, p.pid = 1 ∧
        p.program = .pure (.error (.wait .invalid))) ∧
      ∃ q ∈ brokenTrail.last.processes, q.pid = 3 ∧ q.parent = 1 := by
  obtain ⟨hstarted, hrest⟩ := Prod.mk.inj brokenTrail_ends
  obtain ⟨hkilled, hprocesses⟩ := Prod.mk.inj hrest
  obtain ⟨p, rest, hlast, hp, hrest⟩ := List.map_eq_cons_iff.mp hprocesses
  obtain ⟨q, none, hmore, hq, -⟩ := List.map_eq_cons_iff.mp hrest
  obtain ⟨hpid, hp⟩ := Prod.mk.inj hp
  obtain ⟨hsame, hq⟩ := Prod.mk.inj hq
  refine ⟨hstarted, hkilled, ⟨p, hlast ▸ List.mem_cons_self, hpid, ?_⟩,
    ⟨q, ?_, hsame, (Prod.mk.inj hq).1⟩⟩
  · exact failure_of_hasFailed (Prod.mk.inj hp).2
  · rw [hlast, hmore]
    exact List.mem_cons_of_mem _ List.mem_cons_self

/-- Where the second of the two stages leaves and the first one is killed by a signal that has a
name, the shell reports. -/
theorem duo_spelled : ∃ p report, duoTrail.last.process? 1 = some p ∧
    p.program = .pure (.ok report) ∧ List.Forall₂ (Coded duoTrail.log) [2, 3] report.codes := by
  have hends : (started duoTrail.log 1, System.endings duoTrail.log 2, System.endings duoTrail.log 3,
      (duoTrail.last.process? 1).map hasReported) =
        ([2, 3], [.killed 9], [.exited 127], some true) := by cbv
  obtain ⟨hstarted, hends⟩ := Prod.mk.inj hends
  obtain ⟨-, hends⟩ := Prod.mk.inj hends
  obtain ⟨-, hlast⟩ := Prod.mk.inj hends
  obtain ⟨p, hp, hreported⟩ := Option.map_eq_some_iff.mp hlast
  obtain ⟨report, hprogram⟩ := report_of_hasReported hreported
  obtain ⟨-, hover⟩ := reports_iff_named begins_duo (by decide)
    (recorded_foldl ⟨[], duoMachine⟩ .start duoMoves) (by exact congrArg List.length hstarted) hp
  obtain ⟨hconcluded, -⟩ := hover _ hprogram
  cases hconcluded with
  | reported _ hcodes =>
      refine ⟨p, _, hp, hprogram, ?_⟩
      rw [← hstarted]
      exact hcodes

end LineShell.Nameless
