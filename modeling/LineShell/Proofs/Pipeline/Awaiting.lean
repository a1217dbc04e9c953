import LineShell.Proofs.Pipeline.Prospects
import Mathlib.Data.List.Forall2

/-!
# Starting and awaiting stages in order

A shell on its way through a pipeline starts one process for each stage, in the order of the
stages, and waits for the end of each of them, in the same order.

* **`Orderly`** — whatever it is answered, the shell goes on so, when some children have been
  started and the ends of the first ones have been told, or it fails;
* **`orderly_execute`** — so it does from the beginning;
* **`orderly_step`** — each step keeps that, with the child that is started in it and the end that
  is told in it.
-/

namespace LineShell.Fates

open LineShell.System LineShell.Course Prog

/-- What comes of a pipeline. -/
abbrev Outcome := Except ExecFailure Report

/-- Whatever it is answered, the shell fails. -/
abbrev Failing : Prog Outcome → Prop := Comes fun outcome => ∃ failure, outcome = .error failure

/-- The request is one of a shell that prepares a pipeline or gives it up. -/
def IsSetup : Call → Prop
  | .openPath .. | .pipe | .close _ | .flush => True
  | _ => False

/-- Whatever it is answered, the shell starts the stages that are left in their order, waits for the
children in the order in which they were started, and reports the codes in the same order, or it
fails. The children so far, and the endings that have been told so far, come first. -/
inductive Orderly (programs : List (List Bytes)) (command : String) :
    List Pid → List Ending → Prog Outcome → Prop
  | finished {children : List Pid} {endings : List Ending} {codes : List Int} :
      children.length = programs.length → endings.length = children.length →
      List.Forall₂ (fun ending code => ending.code? = .ok code) endings codes →
      Orderly programs command children endings (.pure (.ok ⟨command, codes⟩))
  | failing {children : List Pid} {endings : List Ending} {program : Prog Outcome} :
      Failing program → Orderly programs command children endings program
  | fork {children : List Pid} {plumbing : Plumbing} {arguments : List Bytes}
      {next : Except Errno ForkSide → Prog Outcome} :
      programs[children.length]? = some arguments → (∀ errno, Failing (next (.error errno))) →
      (∀ child, Orderly programs command (children ++ [child]) [] (next (.ok (.parent child)))) →
      next (.ok .child) = runStage plumbing children.length arguments →
      Orderly programs command children [] (.ask .fork (fun _ => false) next)
  | wait {children : List Pid} {endings : List Ending} {child : Pid}
      {again : Except Errno (Pid × ChildNews) → Bool}
      {next : Except Errno (Pid × ChildNews) → Prog Outcome} :
      children[endings.length]? = some child →
      (∀ reply, (∀ pid ending, reply ≠ .ok (pid, .ended ending)) →
        again reply = true ∨ Failing (next reply)) →
      (∀ pid ending, again (.ok (pid, .ended ending)) = false) →
      (∀ pid ending, Orderly programs command children (endings ++ [ending])
        (next (.ok (pid, .ended ending)))) →
      Orderly programs command children endings (.ask (.wait (some child)) again next)
  | ask {children : List Pid} {endings : List Ending} {call : Call} {again next} : IsSetup call →
      (∀ answer, Orderly programs command children endings (next answer)) →
      Orderly programs command children endings (.ask call again next)

variable {programs : List (List Bytes)} {command : String} {children : List Pid}
  {endings : List Ending}

/-! ## The way through a pipeline -/

theorem orderly_closeAll {rest : Unit → Prog Outcome}
    (h : Orderly programs command children endings (rest ())) (left : List Fd) :
    Orderly programs command children endings ((Plumbing.closeAll left).bind rest) := by
  induction left with
  | nil => exact h
  | cons fd left ih => exact .ask trivial fun _ => ih

theorem failing_error {failure : ExecFailure} : Failing (.pure (.error failure)) :=
  .pure ⟨failure, rfl⟩

theorem not_failing_ok {report : Report} : ¬Failing (.pure (.ok report)) := by
  intro h
  cases h with
  | pure hfailure =>
      obtain ⟨failure, heq⟩ := hfailure
      cases heq

theorem orderly_waiting {before left : List Pid} {codes : List Int}
    (hchildren : children.length = programs.length) (hsplit : children = before ++ left)
    (hlength : endings.length = before.length)
    (hcodes : List.Forall₂ (fun ending code => ending.code? = .ok code) endings codes) :
    Orderly programs command children endings (waiting command .pure codes left) := by
  induction left generalizing before endings codes with
  | nil =>
      rw [waiting_nil]
      rw [List.append_nil] at hsplit
      exact .finished hchildren (hsplit ▸ hlength) hcodes
  | cons child left ih =>
      rw [waiting_cons]
      refine .wait ?_ (fun reply hreply => ?_) (fun _ _ => rfl) fun pid ending => ?_
      · rw [hsplit, hlength, List.getElem?_append_right (Nat.le_refl _), Nat.sub_self]
        rfl
      · rcases reply with errno | ⟨pid, ending | signal | _⟩
        · by_cases hagain : (errno == Errno.interrupted) = true
          · exact .inl hagain
          · exact .inr failing_error
        · exact absurd rfl (hreply pid ending)
        · exact .inl rfl
        · exact .inl rfl
      · dsimp only [Prog.bind]
        cases hcode : ending.code? with
        | error errno => exact .failing failing_error
        | ok code =>
            have hmore : List.Forall₂ (fun ending code => ending.code? = .ok code)
                (endings ++ [ending]) (codes ++ [code]) :=
              List.rel_append hcodes (.cons hcode .nil)
            have hrest : children = (before ++ [child]) ++ left := by
              rw [List.append_assoc]
              exact hsplit
            refine ih hrest ?_ hmore
            rw [List.length_append, List.length_append, hlength]
            rfl

theorem orderly_forking {plumbing : Plumbing} {stage : Nat} {done left : List (List Bytes)}
    (hsplit : programs = done ++ left) (hstage : done.length = stage)
    (hchildren : children.length = stage) :
    Orderly programs command children [] (forking command .pure plumbing stage left children) := by
  induction left generalizing stage done children with
  | nil =>
      refine orderly_closeAll (orderly_waiting ?_ (List.nil_append _).symm rfl .nil) _
      rw [hsplit, List.append_nil, hstage, hchildren]
  | cons arguments left ih =>
      rw [forking_cons]
      have hmine : runStage (α := Outcome) plumbing stage arguments =
          runStage plumbing children.length arguments := by rw [hchildren]
      refine .fork ?_ (fun errno => ?_) (fun child => ?_) hmine
      · rw [hsplit, hchildren, ← hstage, List.getElem?_append_right (Nat.le_refl _), Nat.sub_self]
        rfl
      · exact comes_closeAll (fun _ => comes_reap (fun _ => failing_error) _) _
      · have hrest : programs = (done ++ [arguments]) ++ left := by
          rw [List.append_assoc]
          exact hsplit
        refine ih hrest ?_ ?_
        · rw [List.length_append, hstage]
          rfl
        · rw [List.length_append, hchildren]
          rfl

theorem orderly_laying (count : Nat) (plumbing : Plumbing) :
    Orderly programs command [] [] (laying command .pure programs count plumbing) := by
  induction count generalizing plumbing with
  | zero => exact .ask trivial fun _ => orderly_forking (List.nil_append _).symm rfl rfl
  | succ count ih =>
      rw [laying_succ]
      refine .ask trivial fun laid => ?_
      cases laid with
      | ok ends => exact ih _
      | error errno => exact .failing (comes_closeAll (fun _ => failing_error) _)

/-- A shell that is about to run a pipeline goes through it in order, unless an argument holds a
NUL. -/
theorem orderly_execute (pipeline : Pipeline) (command : String) :
    Failing (execute pipeline command) ∨ ∃ programs,
      pipeline.stages.mapM Stage.argumentBytes = .ok programs ∧
        Orderly programs command [] [] (execute pipeline command) := by
  rw [← bind_pure (execute pipeline command), execute_bind]
  cases hprograms : pipeline.stages.mapM Stage.argumentBytes with
  | error word => exact .inl failing_error
  | ok programs =>
      refine .inr ⟨programs, rfl, ?_⟩
      dsimp only
      cases htarget : pipeline.target with
      | none => exact orderly_laying _ _
      | some target =>
          rw [opening_some]
          cases cleanBytes target.path with
          | error word => exact .failing failing_error
          | ok path =>
              refine .ask trivial fun opened => ?_
              cases opened with
              | error errno => exact .failing failing_error
              | ok fd => exact orderly_laying _ _

/-! ## Steps -/

section Steps

variable {launch : Launcher} {s s' : System Outcome} {shell : Pid} {p q : Process Outcome}

/-- The child whose end is told is the one whose turn it is. -/
theorem Orderly.turn {program : Prog Outcome} (h : Orderly programs command children endings program)
    {child : Pid} {ending : Ending}
    (hnews : program.request?.bind (news? s shell) = some (child, ending)) :
    Failing program ∨ children[endings.length]? = some child := by
  cases h with
  | finished => cases hnews
  | failing hfailing => exact .inl hfailing
  | fork => cases hnews
  | @wait _ _ awaited again next hchild =>
      refine .inr (hchild.trans (congrArg some ?_))
      have hnews : news? s shell (.wait (some awaited)) = some (child, ending) := hnews
      obtain ⟨wanted, after, hcall, hwait⟩ := waitFor_of_news? hnews
      cases hcall
      rcases waitFor_cases hwait with ⟨errno, herror, -⟩ | ⟨gone, -, told, -, -, hwanted, hreply, -⟩
      · cases herror
      · cases hreply
        exact (hwanted awaited rfl).symm
  | @ask _ _ call again next hcall =>
      cases call <;> first | cases hnews | exact hcall.elim

/-- A process that the shell starts is that of the stage whose turn it is. -/
theorem Orderly.born {program : Prog Outcome} (h : Orderly programs command children endings program)
    (hfork : program.request? = some .fork) : Failing program ∨ endings = [] ∧
      ∃ plumbing arguments next, programs[children.length]? = some arguments ∧
        program = .ask .fork (fun _ => false) next ∧
        next (.ok .child) = runStage plumbing children.length arguments := by
  cases h with
  | finished => cases hfork
  | failing hfailing => exact .inl hfailing
  | @fork _ plumbing arguments next hturn _ _ hchild =>
      exact .inr ⟨rfl, plumbing, arguments, next, hturn, rfl, hchild⟩
  | wait => cases hfork
  | @ask _ _ call again next hcall =>
      cases hfork
      exact hcall.elim

/-- A shell that waits waits again, fails, or is told of the end. -/
theorem orderly_wait_step {child : Pid} {again : Except Errno (Pid × ChildNews) → Bool}
    {next : Except Errno (Pid × ChildNews) → Prog Outcome} (hp : s.process? shell = some p)
    (hactive : p.active = true) (hprogram : p.program = .ask (.wait (some child)) again next)
    (hchild : children[endings.length]? = some child)
    (hother : ∀ reply, (∀ pid ending, reply ≠ .ok (pid, .ended ending)) →
      again reply = true ∨ Failing (next reply))
    (hended : ∀ pid ending, again (.ok (pid, .ended ending)) = false)
    (hnext : ∀ pid ending, Orderly programs command children (endings ++ [ending])
      (next (.ok (pid, .ended ending))))
    (hstep : step launch s shell = some s') (hq : q ∈ s'.processes) (hsame : q.pid = shell) :
    Failing q.program ∨ Orderly programs command children
      (endings ++ (news? s shell (.wait (some child))).toList.map Prod.snd) q.program := by
  rw [step_answered hp hactive rfl hprogram, Option.map_eq_some_iff] at hstep
  obtain ⟨⟨reply, answered, after⟩, hanswer, rfl⟩ := hstep
  simp only [answer, Option.map_eq_some_iff] at hanswer
  obtain ⟨⟨reply', after'⟩, hwait, heq⟩ := hanswer
  cases heq
  rw [eq_of_own hp hq hsame rfl]
  show Failing (if again _ = true then _ else next _) ∨
    Orderly _ _ children (endings ++ _) (if again _ = true then _ else next _)
  rw [(mem_of_process? hp).2] at hwait
  rcases waitFor_cases hwait with ⟨errno, rfl, -⟩ | ⟨gone, -, ending, -, -, -, rfl, -⟩
  · rw [news?_of_error rfl hwait]
    show _ ∨ Orderly _ _ children (endings ++ []) _
    rw [List.append_nil]
    split
    · exact .inr (.wait hchild hother hended hnext)
    · rename_i hagain
      exact .inl ((hother (.error errno) (by simp)).resolve_left hagain)
  · rw [news?_of_ended rfl hwait, if_neg (by rw [hended]; exact Bool.false_ne_true)]
    exact .inr (hnext gone.pid ending)

theorem Orderly.proceed {call : Call} {again : call.Result → Bool}
    {next : call.Result → Prog Outcome} (hcall : IsSetup call)
    (hnext : ∀ answer, Orderly programs command children endings (next answer))
    (reply : call.Result) :
    Orderly programs command children endings (Process.proceed call again next reply) :=
  holds_proceed (.ask hcall hnext) hnext reply

/-- A step of the shell keeps it going in order. -/
theorem orderly_step (hnumbered : ∀ q ∈ s.processes, q.pid < s.nextPid)
    (hp : s.process? shell = some p) (hactive : p.active = true)
    (h : Orderly programs command children endings p.program)
    (hstep : step launch s shell = some s') : ∀ q ∈ s'.processes, q.pid = shell →
      Failing q.program ∨ Orderly programs command
        (children ++ if p.program.request? = some .fork then [s.nextPid] else [])
        (endings ++ (p.program.request?.bind (news? s shell)).toList.map Prod.snd) q.program := by
  obtain ⟨hmem, hpid⟩ := mem_of_process? hp
  generalize hprogram : p.program = program at h
  intro q hq hsame
  cases h with
  | finished => exact absurd (hstep.symm.trans (step_pure hp hactive hprogram)) (by simp)
  | failing hfailing =>
      exact .inl (comes_step hnumbered hp hactive (hprogram ▸ hfailing) hstep q hq hsame)
  | @fork _ plumbing arguments next hturn herror hparent hchild =>
      cases hstep.symm.trans (step_fork hp hactive hprogram)
      rcases List.mem_append.mp hq with hq | hq
      · rw [eq_of_own hp hq hsame rfl]
        refine .inr ?_
        rw [show (Prog.ask Call.fork (fun _ => false) next).request? = some .fork from rfl, if_pos rfl]
        exact hparent s.nextPid
      · -- the child has the next number, and the shell an earlier one
        rw [List.mem_singleton.mp hq] at hsame
        exact absurd (hnumbered p hmem) (by
          rw [hpid, ← hsame]
          exact Nat.lt_irrefl _)
  | wait hchild hother hended hnext =>
      rw [if_neg (by simp [request?]), List.append_nil]
      exact orderly_wait_step hp hactive hprogram hchild hother hended hnext hstep hq hsame
  | @ask _ _ call again next hcall hnext =>
      -- nothing is started and nothing is told
      have hidle : (Prog.ask call again next).request?.bind (news? s shell) = none ∧
          (Prog.ask call again next).request? ≠ some .fork := by
        cases call <;> first | exact False.elim hcall | exact ⟨rfl, by simp [request?]⟩
      rw [hidle.1, if_neg hidle.2]
      show _ ∨ Orderly _ _ (children ++ []) (endings ++ []) _
      rw [List.append_nil, List.append_nil]
      refine .inr ?_
      have hproceed : ∀ reply, Orderly programs command children endings
          (Process.proceed call again next reply) := Orderly.proceed hcall hnext
      cases call with
      | openPath path access closeOnExec | pipe | close fd =>
          obtain ⟨reply, heq⟩ := program_of_answered hp hactive hstep hq hsame rfl hprogram
          exact heq ▸ hproceed reply
      | flush =>
          rcases program_of_flush hp hactive hstep hq hsame hprogram with heq | ⟨reply, heq⟩
          · rw [heq, hprogram]
            exact .ask hcall hnext
          · exact heq ▸ hproceed reply
      | _ => exact hcall.elim

/-- A shell that waits and is told something else than an end goes on as before, or fails. -/
theorem Orderly.disturbed {child : Option Pid} {again : Except Errno (Pid × ChildNews) → Bool}
    {next : Except Errno (Pid × ChildNews) → Prog Outcome} {reply : Except Errno (Pid × ChildNews)}
    (h : Orderly programs command children endings (.ask (.wait child) again next))
    (hreply : ∀ pid ending, reply ≠ .ok (pid, .ended ending)) :
    Failing (Process.proceed (.wait child) again next reply) ∨
      Orderly programs command children endings (Process.proceed (.wait child) again next reply) := by
  unfold Process.proceed
  cases h with
  | failing hfailing =>
      refine .inl ?_
      cases hfailing with
      | ask hcall hnext =>
          split
          · exact .ask hcall hnext
          · exact hnext reply
  | wait hchild hother hended hnext =>
      split
      · exact .inr (.wait hchild hother hended hnext)
      · rename_i hagain
        exact .inl ((hother reply hreply).resolve_left hagain)
  | ask hcall => exact hcall.elim

end Steps

end LineShell.Fates
