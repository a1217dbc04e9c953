import LineShell.Proofs.Pipeline.Prospects
import LineShell.Proofs.System.Records
import Mathlib.Data.List.Basic

/-!
# Fates of stages

The process of a stage replaces its standard streams and looks for its program. It exits, a signal
kills it, or it says that its program cannot be run; all that can be read off the record.

* **`Fate`** — what becomes of a stage, and the code that stands for it;
* **`At`** — where the process of a stage is on its way to its program, and what it has done by
  then, which each of its steps keeps (`at_step`);
* **`Fares`** — what the record says of the process, however the machine moves (`Fares.own`,
  `Fares.other`).
-/

namespace LineShell.Fates

open LineShell.System LineShell.Course Prog

/-! ## Fates -/

/-- What becomes of a stage. -/
inductive Fate where
  /-- It exits with a code. -/
  | exited (code : Nat)
  /-- A signal kills it. -/
  | killed (signal : Signal)
  /-- Its program cannot be run. -/
  | notRun
  deriving DecidableEq

/-- The code that stands for a fate. -/
def Fate.code : Fate → Int
  | .exited code => code
  | .killed signal => signalBase + signal
  | .notRun => notFoundCode

/-- The programs that a process has asked to become. -/
def tries (deeds : List Deed) : List (List Bytes) := deeds.filterMap Deed.tried?

/-- What a process has handed over under a number. -/
def saidTo (fd : Fd) (deeds : List Deed) : Bytes := deeds.flatMap (Deed.bytesTo fd)

/-- The fate of a process, once it has ended. One that has looked for its program, has not become
it and has exited could not run it. -/
def fateOf (log : List Event) (child : Pid) : Option Fate :=
  match System.endings log child with
  | [.exited code] =>
      if Deed.sought ∈ deeds log child ∧ Deed.became ∉ deeds log child then some .notRun
      else some (.exited code)
  | [.killed signal] => some (.killed signal)
  | _ => none

/-- The fates of the stages, in their order. -/
def fates (log : List Event) (shell : Pid) : List (Option Fate) :=
  (started log shell).map (fateOf log)

/-- The line that says that a program cannot be run. -/
def notFound : Bytes := Text.bytesOf "Error: command not found\n"

/-- A process has written the line that says that its program cannot be run, and nothing else,
unless it has been refused to do so. -/
structure Complained (deeds : List Deed) : Prop where
  elsewhere : ∀ fd, fd ≠ Fd.stderr → saidTo fd deeds = []
  line : saidTo Fd.stderr deeds = notFound ∨
    .refused Fd.stderr ∈ deeds ∧ saidTo Fd.stderr deeds <+: notFound

variable {α : Type} {launch : Launcher} {s s' : System α} {pid : Pid} {p q : Process α}
  {arguments : List Bytes} {done more : List Deed}

theorem tries_append : tries (done ++ more) = tries done ++ tries more := List.filterMap_append

theorem saidTo_append {fd : Fd} : saidTo fd (done ++ more) = saidTo fd done ++ saidTo fd more :=
  List.flatMap_append

/-- Whatever is recorded behind it, nothing else has been said. -/
theorem Complained.append (h : Complained done) (hmore : ∀ fd, saidTo fd more = []) :
    Complained (done ++ more) := by
  have hsame : ∀ fd, saidTo fd (done ++ more) = saidTo fd done := by
    intro fd
    rw [saidTo_append, hmore, List.append_nil]
  refine ⟨fun fd hfd => (hsame fd).trans (h.elsewhere fd hfd), ?_⟩
  rw [hsame]
  exact h.line.imp_right fun hrefused => ⟨List.mem_append_left _ hrefused.1, hrefused.2⟩

/-! ## On the way to the program -/

/-- To say something, and to exit as a process does that cannot run its program. -/
def saying (text : Bytes) : Prog α := (complain text).bind fun _ => exit notFoundCode

/-- The request is one of a process that replaces its standard streams. -/
def IsWiring : Call → Prop
  | .close _ | .duplicate .. => True
  | _ => False

/-- Whatever it is answered, the process asks to become programs, the given one first, and then says
that there is none. The flag tells whether it has asked already. -/
inductive Searching (arguments : List Bytes) : Bool → Prog α → Prop
  | exec {tried : Bool} {path : Bytes} {given : List Bytes} {bindings : Variables}
      {next : Errno → Prog α} : (tried = false → given = arguments) →
      (∀ errno, Searching arguments true (next errno)) →
      Searching arguments tried (.ask (.exec path given bindings) (fun _ => false) next)
  | giving {tried : Bool} : Searching arguments tried (saying notFound)

/-- Whatever it is answered, the process replaces its standard streams, and then looks for its
program or gives up. -/
inductive Preparing (arguments : List Bytes) : Prog α → Prop
  | ask {call : Call} {again next} : IsWiring call →
      (∀ answer, Preparing arguments (next answer)) → Preparing arguments (.ask call again next)
  | search : Preparing arguments (searching arguments)
  | giveUp {program : Prog α} : Asks IsGivingUp program → Preparing arguments program

theorem preparing_closeAll {rest : Unit → Prog α} (h : Preparing arguments (rest ()))
    (left : List Fd) : Preparing arguments ((Plumbing.closeAll left).bind rest) := by
  induction left with
  | nil => exact h
  | cons fd left ih => exact .ask trivial fun _ => ih

theorem preparing_dropping (wired : Except Errno Unit) (left : List Fd) :
    Preparing (α := α) arguments (dropping arguments wired left) := by
  refine preparing_closeAll ?_ left
  cases wired with
  | error errno => exact .giveUp (asks_complaining _ _)
  | ok done => exact .search

theorem preparing_wire {source : Option Fd} {stream : Fd} {rest : Except Errno Unit → Prog α}
    (h : ∀ wired, Preparing arguments (rest wired)) :
    Preparing arguments ((wire source stream).bind rest) := by
  unfold wire
  split
  · split
    · exact h _
    · exact .ask trivial h
  · exact h _

theorem preparing_runStage (plumbing : Plumbing) (stage : Nat) :
    Preparing (α := α) arguments (runStage plumbing stage arguments) := by
  rw [runStage_eq_wire]
  refine preparing_wire fun wired => ?_
  cases wired with
  | error errno => exact preparing_dropping _ _
  | ok done => exact preparing_wire fun wired => preparing_dropping _ _

theorem searching_attempt {bindings : Variables} {denied tried : Bool} {last : Errno}
    (paths : List Bytes) : Searching (α := α) arguments tried
      ((Search.attempt arguments bindings denied last paths).bind fun _ => saying notFound) := by
  induction paths generalizing denied tried last with
  | nil => exact .giving
  | cons path paths ih =>
      have hrest : ∀ errno, Searching (α := α) arguments true ((if Search.goesOn errno then
          Search.attempt arguments bindings (denied || errno == .accessDenied) errno paths
          else .pure errno).bind fun _ => saying notFound) := by
        intro errno
        split
        · exact ih
        · exact .giving
      refine .exec (fun _ => rfl) fun errno => ?_
      -- a file that is no program is tried once more, as a script
      by_cases hformat : (errno == .notExecutable) = true
      · show Searching arguments true (Prog.bind (if errno == .notExecutable then _ else _) _)
        rw [if_pos hformat]
        exact .exec (fun htrue => by cases htrue) hrest
      · show Searching arguments true (Prog.bind (if errno == .notExecutable then _ else _) _)
        rw [if_neg hformat]
        exact hrest errno

theorem searching_execByNameWith (bindings : Variables) (name : Bytes) :
    Searching (α := α) arguments false
      ((execByNameWith bindings name arguments).bind fun _ => saying notFound) := by
  unfold execByNameWith
  split
  · exact .giving
  · exact searching_attempt _

/-- If a process has asked to become a program, it was the given one first. -/
def Named (arguments : List Bytes) (done : List Deed) : Prop :=
  ∀ given, (tries done).head? = some given → given = arguments

theorem Named.append (h : Named arguments done) (hsome : tries done ≠ [] ∨ tries more = []) :
    Named arguments (done ++ more) := by
  intro given hgiven
  rw [tries_append] at hgiven
  rcases hsome with hne | hnil
  · rw [List.head?_append_of_ne_nil _ hne] at hgiven
    exact h given hgiven
  · rw [hnil, List.append_nil] at hgiven
    exact h given hgiven

/-- Where the process of a stage is on its way to its program, and what it has done by then. -/
inductive At (arguments : List Bytes) (done : List Deed) (program : Prog α) : Prop
  | preparing : done = [] → Preparing arguments program → At arguments done program
  | abandoning : Deed.sought ∉ done → tries done = [] → Asks IsGivingUp program →
      At arguments done program
  | searching {tried : Bool} : Deed.sought ∈ done → Named arguments done →
      (tried = false ∨ tries done ≠ []) → (∀ fd, saidTo fd done = []) →
      Searching arguments tried program → At arguments done program
  | saying {left : Bytes} : Deed.sought ∈ done → Named arguments done →
      (∀ fd, fd ≠ Fd.stderr → saidTo fd done = []) → saidTo Fd.stderr done ++ left = notFound →
      program = saying left → At arguments done program
  | leaving : Deed.sought ∈ done → Named arguments done → Complained done →
      program = exit notFoundCode → At arguments done program

theorem At.named {program : Prog α} (h : At arguments done program) : Named arguments done := by
  cases h with
  | preparing hdone =>
      subst hdone
      exact fun given hgiven => by cases hgiven
  | abandoning _ htries =>
      intro given hgiven
      rw [htries] at hgiven
      cases hgiven
  | searching _ hnamed | saying _ hnamed | leaving _ hnamed => exact hnamed

/-- A process on its way to its program does not wait. -/
theorem At.not_wait {program : Prog α} (h : At arguments done program) {child : Option Pid} :
    program.request? ≠ some (.wait child) := by
  cases h with
  | preparing _ hprogram =>
      cases hprogram with
      | ask hcall =>
          rintro ⟨⟩
          exact hcall
      | search =>
          rintro ⟨⟩
      | giveUp hasks => exact fun hwait => hasks.of_request? hwait
  | abandoning _ _ hasks => exact fun hwait => hasks.of_request? hwait
  | searching _ _ _ _ hprogram => cases hprogram <;> rintro ⟨⟩
  | saying _ _ _ _ hprogram =>
      rw [hprogram]
      rintro ⟨⟩
  | leaving _ _ _ hprogram =>
      rw [hprogram]
      rintro ⟨⟩

/-! ## Steps on the way to the program -/

theorem writeSome_suffix {table : Table} {fd : Fd} {bytes left : Bytes} {after : System α}
    (h : s.writeSome table fd bytes = some (.ok left, after)) : left <:+ bytes := by
  cases writeSome_outcome h with
  | nothing | swallowed | stored => exact List.nil_suffix
  | queued => exact List.drop_suffix _ _

theorem take_append_of_suffix {left bytes : Bytes} (h : left <:+ bytes) :
    bytes.take (bytes.length - left.length) ++ left = bytes := by
  obtain ⟨chunk, rfl⟩ := h
  rw [List.length_append, Nat.add_sub_cancel, List.take_left]

/-- What a step of a process on its way to its program leaves. -/
structure Advanced (arguments : List Bytes) (done : List Deed) (q : Process α) : Prop where
  goes : q.ending = none → At arguments done q.program
  left : ∀ code, q.ending = some (.exited code) → Deed.sought ∈ done →
    Fate.notRun.code = code ∧ Complained done

theorem Advanced.of_at (halive : q.ending = none) (h : At arguments done q.program) :
    Advanced arguments done q :=
  ⟨fun _ => h, fun code hexited => by
    rw [halive] at hexited
    cases hexited⟩

section Step

variable (hp : s.process? pid = some p) (hactive : p.active = true)

include hp hactive

/-- A process that says that there is no program says it to the end, unless it is refused. -/
theorem saying_step {left : Bytes} (hsought : Deed.sought ∈ done) (hnamed : Named arguments done)
    (helse : ∀ fd, fd ≠ Fd.stderr → saidTo fd done = [])
    (hline : saidTo Fd.stderr done ++ left = notFound) (hprogram : p.program = saying left)
    (hstep : step launch s pid = some s') : ∀ q ∈ s'.processes, q.pid = pid →
      Advanced arguments (done ++ doing launch s p) q := by
  have halive := ending_of_active hactive
  intro q hq hsame
  have hrequest : p.program.request? = some (.write Fd.stderr left) := by
    rw [hprogram]
    rfl
  rw [step_write hp hactive hprogram, Option.map_eq_some_iff] at hstep
  obtain ⟨⟨reply, after⟩, hwrite, rfl⟩ := hstep
  rw [eq_of_own hp hq hsame rfl, doing_write hrequest]
  refine .of_at halive ?_
  dsimp only
  unfold handing
  rw [hwrite]
  -- it goes on with what is left of the line, and leaves when nothing is, or when it is refused
  cases reply with
  | error errno =>
      have hmore : ∀ fd, saidTo fd [Deed.refused Fd.stderr] = [] := fun _ => rfl
      refine .leaving (List.mem_append_left _ hsought) (hnamed.append (.inr rfl)) ⟨?_, .inr ⟨?_, ?_⟩⟩ rfl
      · intro fd hfd
        rw [saidTo_append, helse fd hfd, hmore]
        rfl
      · exact List.mem_append_right _ List.mem_cons_self
      · rw [saidTo_append, hmore, List.append_nil, ← hline]
        exact List.prefix_append _ _
  | ok rest =>
      have hparts := take_append_of_suffix (writeSome_suffix hwrite)
      have hhere : saidTo Fd.stderr [Deed.wrote Fd.stderr (left.take (left.length - rest.length))] =
          left.take (left.length - rest.length) := List.append_nil _
      have helsewhere : ∀ fd, fd ≠ Fd.stderr →
          saidTo fd (done ++ [Deed.wrote Fd.stderr (left.take (left.length - rest.length))]) = [] := by
        intro fd hfd
        rw [saidTo_append, helse fd hfd]
        show (if Fd.stderr = fd then _ else []) ++ [] = _
        rw [if_neg (Ne.symm hfd)]
        rfl
      have hall : saidTo Fd.stderr
          (done ++ [Deed.wrote Fd.stderr (left.take (left.length - rest.length))]) ++ rest =
            notFound := by
        rw [saidTo_append, hhere, List.append_assoc, hparts, hline]
      cases rest with
      | nil =>
          refine .leaving (List.mem_append_left _ hsought) (hnamed.append (.inr rfl))
            ⟨helsewhere, .inl ?_⟩ rfl
          rw [List.append_nil] at hall
          exact hall
      | cons byte rest =>
          exact .saying (List.mem_append_left _ hsought) (hnamed.append (.inr rfl)) helsewhere hall rfl

/-- A process that gives up does not look for its program any more. -/
theorem abandoning_step (hsought : Deed.sought ∉ done) (htries : tries done = [])
    (hasks : Asks IsGivingUp p.program) (hstep : step launch s pid = some s') :
    tries (doing launch s p) = [] ∧ ∀ q ∈ s'.processes, q.pid = pid →
      Advanced arguments (done ++ doing launch s p) q := by
  have hmute : Deed.sought ∉ doing launch s p ∧ tries (doing launch s p) = [] := by
    cases hprogram : p.program with
    | pure value => exact absurd (hstep.symm.trans (step_pure hp hactive hprogram)) (by simp)
    | loop body state next =>
        rw [hprogram] at hasks
        cases hasks
    | ask call again next =>
        have hrequest : p.program.request? = some call := by
          rw [hprogram]
          rfl
        have hcall : IsGivingUp call := hasks.of_request? hrequest
        cases call with
        | close fd =>
            rw [doing_close hrequest]
            exact ⟨List.not_mem_nil, rfl⟩
        | exit code =>
            rw [doing_exit hrequest]
            exact ⟨List.not_mem_nil, rfl⟩
        | write fd bytes =>
            rw [doing_write hrequest]
            unfold handing
            split <;> exact ⟨by simp, rfl⟩
        | _ => exact hcall.elim
  have hnever : Deed.sought ∉ done ++ doing launch s p := fun hmem =>
    (List.mem_append.mp hmem).elim hsought hmute.1
  refine ⟨hmute.2, fun q hq hsame => ⟨fun halive => ?_, fun _ _ hmem => absurd hmem hnever⟩⟩
  refine .abandoning hnever (by rw [tries_append, htries, hmute.2]; rfl) ?_
  have hplain : ∀ call, IsGivingUp call →
      call.isPlain = true ∧ ∀ target number, call ≠ .kill target number := by
    intro call hcall
    cases call <;> first | exact False.elim hcall | exact ⟨rfl, fun _ _ => by simp⟩
  have hstill := asks_step hplain (fun _ _ _ _ => trivial) (fun _ _ _ h => h.elim) hp hactive hasks
    hstep
  refine hstill.resolve_left ?_ q hq hsame halive
  rw [successor?_eq_none hp fun path given bindings hexec => hasks.of_request? hexec]
  exact Bool.false_ne_true

theorem preparing_step (hprep : Preparing arguments p.program)
    (hstep : step launch s pid = some s') :
    tries (doing launch s p) = [] ∧ ∀ q ∈ s'.processes, q.pid = pid →
      Advanced arguments (doing launch s p) q := by
  have halive := ending_of_active hactive
  generalize hprogram : p.program = program at hprep
  cases hprep with
  | @ask call again next hcall hnext =>
      have hrequest : p.program.request? = some call := by
        rw [hprogram]
        rfl
      have hidle : doing launch s p = [] := by
        cases call with
        | close fd => exact doing_close hrequest
        | duplicate source target => exact doing_duplicate hrequest
        | _ => exact hcall.elim
      have hspecial : call.isSpecial = false := by
        cases call <;> first | rfl | exact False.elim hcall
      rw [hidle]
      refine ⟨rfl, fun q hq hsame => ?_⟩
      rw [step_answered hp hactive hspecial hprogram, Option.map_eq_some_iff] at hstep
      obtain ⟨⟨reply, answered, after⟩, hanswer, rfl⟩ := hstep
      have hsettled := answer_settled hanswer
      rw [eq_of_own hp hq hsame hsettled.pid]
      refine .of_at (hsettled.ending.trans halive) (.preparing rfl ?_)
      show Preparing arguments (if again reply = true then _ else next reply)
      split
      · exact .ask hcall hnext
      · exact hnext reply
  | search =>
      have hbegin : p.program = .ask .bindings (fun _ => false) fun bindings =>
          (execByNameWith bindings (arguments.headD []) arguments).bind fun _ => saying notFound :=
        hprogram.trans rfl
      rw [doing_bindings (by rw [hbegin]; rfl)]
      refine ⟨rfl, fun q hq hsame => ?_⟩
      cases hstep.symm.trans (step_answered hp hactive rfl hbegin)
      rw [eq_of_own hp hq hsame rfl]
      refine .of_at halive (.searching List.mem_cons_self (fun _ hgiven => by cases hgiven) (.inl rfl)
        (fun _ => rfl) ?_)
      exact searching_execByNameWith p.bindings (arguments.headD [])
  | giveUp hasks =>
      exact abandoning_step hp hactive List.not_mem_nil rfl (hprogram ▸ hasks) hstep

omit hp hactive in
theorem tries_of_became (h : Deed.became ∈ doing launch s p) : tries (doing launch s p) ≠ [] := by
  have hhanding : ∀ {fd : Fd} {bytes : Bytes}, Deed.became ∉ handing s p fd bytes := by
    intro fd bytes
    unfold handing
    split <;> simp
  unfold doing at h ⊢
  cases hrequest : p.program.request? with
  | none =>
      rw [hrequest] at h
      cases h
  | some call =>
      rw [hrequest] at h
      cases call with
      | exec path given bindings => exact List.cons_ne_nil _ _
      | write fd bytes => exact absurd h hhanding
      | flush =>
          dsimp only at h
          split at h
          · cases h
          · exact absurd h hhanding
      | _ => simp at h

omit hp hactive in
theorem tries_handing {fd : Fd} {bytes : Bytes} : tries (handing s p fd bytes) = [] := by
  unfold handing
  split <;> rfl

/-- Where a process is after a step, and what it has asked to become by then. -/
def Headway (launch : Launcher) (s : System α) (p : Process α) (s' : System α)
    (arguments : List Bytes) (done : List Deed) : Prop :=
  Named arguments (done ++ doing launch s p) ∧
    (Deed.became ∈ doing launch s p → tries (done ++ doing launch s p) ≠ []) ∧
    (Deed.became ∉ doing launch s p → ∀ q ∈ s'.processes, q.pid = p.pid →
      Advanced arguments (done ++ doing launch s p) q)

omit hactive in
theorem headway_of_tries (hnamed : Named arguments done) (htries : tries (doing launch s p) = [])
    (h : ∀ q ∈ s'.processes, q.pid = pid → Advanced arguments (done ++ doing launch s p) q) :
    Headway launch s p s' arguments done :=
  ⟨hnamed.append (.inr htries), fun hbecame => absurd htries (tries_of_became hbecame), fun _ q hq hsame =>
    h q hq (hsame.trans (mem_of_process? hp).2)⟩

/-- A process that asks to become a program becomes it, or goes on to the next one. -/
theorem exec_step {tried : Bool} {path : Bytes} {given : List Bytes} {bindings : Variables}
    {next : Errno → Prog α} (hsought : Deed.sought ∈ done) (hnamed : Named arguments done)
    (hflag : tried = false ∨ tries done ≠ []) (hsaid : ∀ fd, saidTo fd done = [])
    (hgiven : tried = false → given = arguments)
    (hnext : ∀ errno, Searching arguments true (next errno))
    (hprogram : p.program = .ask (.exec path given bindings) (fun _ => false) next)
    (hstep : step launch s pid = some s') : Headway launch s p s' arguments done := by
  have hpid := (mem_of_process? hp).2
  have hrequest : p.program.request? = some (.exec path given bindings) := by
    rw [hprogram]
    rfl
  have hname : ∀ {rest : List Deed}, tries rest = [] → Named arguments (done ++ .tried given :: rest) := by
    intro rest hrest
    by_cases htries : tries done = []
    · intro other hother
      rw [tries_append, htries] at hother
      cases hother
      exact hgiven (hflag.resolve_right fun hne => hne htries)
    · exact hnamed.append (.inl htries)
  have hasked : ∀ {rest : List Deed}, tries (done ++ .tried given :: rest) ≠ [] := by
    intro rest hnil
    rw [tries_append] at hnil
    exact List.cons_ne_nil _ _ (List.append_eq_nil_iff.mp hnil).2
  unfold Headway
  rw [doing_exec hrequest]
  rw [step_exec hp hactive hprogram] at hstep
  cases hbecome : s.become launch p path given bindings with
  | ok changed =>
      exact ⟨hname rfl, fun _ => hasked,
        fun hnot => absurd (List.mem_cons_of_mem _ List.mem_cons_self) hnot⟩
  | error errno =>
      rw [hbecome] at hstep
      cases hstep
      refine ⟨hname rfl, fun _ => hasked, fun _ q hq hsame => ?_⟩
      rw [eq_of_own hp hq (hsame.trans hpid) rfl]
      refine .of_at (ending_of_active hactive) (.searching (List.mem_append_left _ hsought) (hname rfl)
        (.inr hasked) (fun fd => ?_) (hnext errno))
      rw [saidTo_append, hsaid]
      rfl

/-- A step of a process on its way to its program leads it further. -/
theorem at_step (h : At arguments done p.program) (hstep : step launch s pid = some s') :
    Headway launch s p s' arguments done := by
  have hnamed := h.named
  cases h with
  | preparing hdone hprep =>
      subst hdone
      obtain ⟨htries, hnext⟩ := preparing_step hp hactive hprep hstep
      exact headway_of_tries hp hnamed htries hnext
  | abandoning hsought hnone hasks =>
      obtain ⟨htries, hnext⟩ := abandoning_step hp hactive hsought hnone hasks hstep
      exact headway_of_tries hp hnamed htries hnext
  | searching hsought _ hflag hsaid hsearch =>
      generalize hprogram : p.program = program at hsearch
      cases hsearch with
      | exec hgiven hnext =>
          exact exec_step hp hactive hsought hnamed hflag hsaid hgiven hnext hprogram hstep
      | giving =>
          have hrequest : p.program.request? = some (.write Fd.stderr notFound) := by
            rw [hprogram]
            rfl
          have hline : saidTo Fd.stderr done ++ notFound = notFound := by
            rw [hsaid]
            rfl
          refine headway_of_tries hp hnamed (by rw [doing_write hrequest]; exact tries_handing) ?_
          exact saying_step hp hactive hsought hnamed (fun fd _ => hsaid fd) hline hprogram hstep
  | @saying left hsought _ helse hline hprogram =>
      have hrequest : p.program.request? = some (.write Fd.stderr left) := by
        rw [hprogram]
        rfl
      refine headway_of_tries hp hnamed (by rw [doing_write hrequest]; exact tries_handing) ?_
      exact saying_step hp hactive hsought hnamed helse hline hprogram hstep
  | leaving hsought _ hsaid hprogram =>
      have hrequest : p.program.request? = some (.exit notFoundCode) := by
        rw [hprogram]
        rfl
      have hidle : doing launch s p = [] := doing_exit hrequest
      refine headway_of_tries hp hnamed (by rw [hidle]; rfl) fun q hq hsame => ?_
      cases hstep.symm.trans (step_exit hp hactive hprogram)
      rw [eq_of_own hp hq hsame rfl, hidle, List.append_nil]
      refine ⟨fun halive => ?_, fun code hexited _ => ?_⟩
      · cases halive
      · cases hexited
        exact ⟨rfl, hsaid⟩

end Step

/-! ## Stages on record -/

/-- The process of a stage asks to become its program first. Until it becomes one it is on its way,
and if it exits before that, though it has looked for its program, it has said so. -/
structure Fares (arguments : List Bytes) (log : List Event) (s : System α) (child : Pid) : Prop where
  named : Named arguments (deeds log child)
  asked : Deed.became ∈ deeds log child → tries (deeds log child) ≠ []
  goes : Deed.became ∉ deeds log child → ∀ q ∈ s.processes, q.pid = child → q.ending = none →
    At arguments (deeds log child) q.program
  left : Deed.became ∉ deeds log child → ∀ code, System.endings log child = [.exited code] →
    Deed.sought ∈ deeds log child → Fate.notRun.code = code ∧ Complained (deeds log child)

theorem mem_deeds_lapsed {deed : Deed} (h : deed ∈ deeds (lapsed s s') pid) :
    ∃ ending, deed = .ended ending := by
  obtain ⟨event, hevent, rfl⟩ := List.mem_map.mp h
  obtain ⟨old, -, hsome⟩ := List.mem_filterMap.mp (List.mem_filter.mp hevent).1
  obtain ⟨ending, -, rfl⟩ := Option.map_eq_some_iff.mp hsome
  exact ⟨ending, rfl⟩

theorem tries_lapsed : tries (deeds (lapsed s s') pid) = [] := by
  refine List.filterMap_eq_nil_iff.mpr fun deed hdeed => ?_
  obtain ⟨ending, rfl⟩ := mem_deeds_lapsed hdeed
  rfl

theorem saidTo_lapsed (fd : Fd) : saidTo fd (deeds (lapsed s s') pid) = [] := by
  refine List.flatMap_eq_nil_iff.mpr fun deed hdeed => ?_
  obtain ⟨ending, rfl⟩ := mem_deeds_lapsed hdeed
  rfl

theorem mem_append_lapsed {deed : Deed} (hdeed : ∀ ending, deed ≠ .ended ending) :
    deed ∈ done ++ deeds (lapsed s s') pid ↔ deed ∈ done := by
  rw [List.mem_append]
  refine or_iff_left fun hmem => ?_
  obtain ⟨ending, heq⟩ := mem_deeds_lapsed hmem
  exact hdeed ending heq

theorem lapsed_of_underway (hdistinct : s.Distinct) (hlater : s'.Distinct) (hp : p ∈ s.processes)
    (hq : q ∈ s'.processes) (hpid : q.pid = p.pid) (hending : q.ending = none) :
    deeds (lapsed s s') p.pid = [] := by
  rw [deeds_lapsed hdistinct hp, lapse?_of_mem hlater hq hpid, hending, ite_self]
  rfl

section Moves

variable {parent origin mover child : Pid} {forks : Bool} {news : Option (Pid × Ending)}
  {log later : List Event}

/-- A process that does not move does not exit: if the log says then that it has exited, it said so
before. -/
theorem endings_of_other {code : Nat} (hdistinct : s.Distinct) (hstands : Stands parent log s child)
    (hpass : Passage mover forks news s s') (hne : mover ≠ child)
    (h : System.endings log child ++ System.endings (lapsed s s') child = [.exited code]) :
    System.endings log child = [.exited code] := by
  cases hstands with
  | gone hgone => rwa [endings_lapsed_of_not_mem hgone, List.append_nil] at h
  | @there old hold hpid _ hendings =>
      subst hpid
      rcases hpass.stays old hold with ⟨q, hq, hheir⟩ | ⟨ending, hnews⟩
      · rw [hendings, endings_lapsed hdistinct hpass.distinct hold hq hheir] at h
        cases hending : old.ending with
        | some ending =>
            rw [hheir.ended ending hending] at h
            rw [hendings, hending]
            exact h
        | none =>
            -- only the one that moves exits
            have hcode : q.ending = some (.exited code) := Option.toList_eq_singleton_iff.mp h
            exact absurd (hheir.exits hending code hcode).1 (Ne.symm hne)
      · obtain ⟨-, other, hother, hsame, -, hended⟩ := hpass.gone _ _ hnews
        obtain rfl := hdistinct.eq_of_pid hold hother hsame
        rwa [endings_lapsed_of_ended hdistinct hold (by rw [hended]; rfl), List.append_nil] at h

/-- A process that does not move stays where it is on its way, unless it is killed. -/
theorem Fares.other (h : Fares arguments log s child) (hdistinct : s.Distinct)
    (hchild : child < s.nextPid) (hstands : Stands parent log s child)
    (hpass : Passage mover forks news s s') (hne : mover ≠ child)
    (hlater : deeds later child = deeds (lapsed s s') child) :
    Fares arguments (log ++ later) s' child := by
  have hdeeds : deeds (log ++ later) child = deeds log child ++ deeds (lapsed s s') child := by
    rw [deeds_append, hlater]
  refine ⟨?_, fun hbecame => ?_, fun hnot q hq hsame halive => ?_, fun hnot code hexited hsought => ?_⟩
  · rw [hdeeds]
    exact h.named.append (.inr tries_lapsed)
  · rw [hdeeds, mem_append_lapsed fun _ => by simp] at hbecame
    rw [hdeeds, tries_append, tries_lapsed, List.append_nil]
    exact h.asked hbecame
  · rw [hdeeds, mem_append_lapsed fun _ => by simp] at hnot
    rcases hpass.origins q hq with ⟨old, hold, hheir⟩ | ⟨-, hnew, -⟩
    · have hold' : old.pid = child := hheir.pid.symm.trans hsame
      have hnone : old.ending = none := by
        cases hending : old.ending with
        | none => rfl
        | some ending => exact absurd (hheir.ended ending hending) (by rw [halive]; simp)
      have hidle := lapsed_of_underway hdistinct hpass.distinct hold hq hheir.pid halive
      rw [hdeeds, ← hold', hidle, List.append_nil, hheir.program (hold' ▸ Ne.symm hne), hold']
      exact h.goes hnot old hold hold' hnone
    · exact absurd (hsame.symm.trans hnew) (Nat.ne_of_lt hchild)
  · rw [hdeeds, mem_append_lapsed fun _ => by simp] at hnot hsought
    rw [hdeeds]
    have hsame : System.endings later child = System.endings (lapsed s s') child :=
      congrArg (List.filterMap Deed.ending?) hlater
    rw [endings_append, hsame] at hexited
    have hbefore := endings_of_other hdistinct hstands hpass hne hexited
    obtain ⟨hcode, hsaid⟩ := h.left hnot code hbefore hsought
    exact ⟨hcode, hsaid.append saidTo_lapsed⟩

/-- A process that moves goes further on its way. -/
theorem Fares.own (h : Fares arguments log s child) (hdistinct : s.Distinct)
    (hnumbered : ∀ q ∈ s.processes, q.pid < s.nextPid) (hstands : Stands parent log s child)
    (hp : s.process? child = some p) (hactive : p.active = true)
    (hstep : step launch s child = some s') :
    Fares arguments (log ++ noted launch s child s') s' child := by
  obtain ⟨hmem, hpid⟩ := mem_of_process? hp
  have hpass := step_passage hdistinct hnumbered hp hactive hstep
  have hdeeds : deeds (log ++ noted launch s child s') child =
      (deeds log child ++ doing launch s p) ++ deeds (lapsed s s') child := by
    rw [deeds_append, deeds_noted hp, if_pos rfl, List.append_assoc]
  by_cases hbecame : Deed.became ∈ deeds log child
  · -- nothing is known of the program that it has become; what it has asked for first stays
    have hasked := h.asked hbecame
    refine ⟨?_, fun _ => ?_, fun hnot => absurd ?_ hnot, fun hnot => absurd ?_ hnot⟩
    · rw [deeds_append]
      exact h.named.append (.inl hasked)
    · rw [deeds_append, tries_append]
      exact List.append_ne_nil_of_left_ne_nil hasked _
    all_goals
      rw [deeds_append]
      exact List.mem_append_left _ hbecame
  · have hat := h.goes hbecame p hmem hpid (ending_of_active hactive)
    obtain ⟨hnamed, hasked, hnext⟩ := at_step hp hactive hat hstep
    have hnever : Deed.became ∉ deeds (log ++ noted launch s child s') child →
        Deed.became ∉ doing launch s p := by
      intro hnot hin
      rw [hdeeds] at hnot
      exact hnot (List.mem_append_left _ (List.mem_append_right _ hin))
    refine ⟨?_, fun hin => ?_, fun hnot q hq hsame halive => ?_, fun hnot code hexited hsought => ?_⟩
    · rw [hdeeds]
      exact hnamed.append (.inr tries_lapsed)
    · rw [hdeeds, mem_append_lapsed fun _ => by simp, List.mem_append] at hin
      rw [hdeeds, tries_append, tries_lapsed, List.append_nil]
      exact hasked (hin.resolve_left hbecame)
    · have hidle := lapsed_of_underway hdistinct hpass.distinct hmem hq (hsame.trans hpid.symm) halive
      rw [hpid] at hidle
      rw [hdeeds, hidle, List.append_nil]
      exact (hnext (hnever hnot) q hq (hsame.trans hpid.symm)).goes halive
    · rw [hdeeds, mem_append_lapsed fun _ => by simp] at hsought
      rw [hdeeds]
      have hbefore : System.endings log child = [] := by
        cases hstands with
        | gone hgone => exact absurd hpid (hgone p hmem)
        | @there old hold hsame _ hendings =>
            obtain rfl := hdistinct.eq_of_pid hmem hold (hsame.trans hpid.symm)
            rw [hendings, ending_of_active hactive]
            rfl
      rw [endings_append, endings_noted hp, hbefore, List.nil_append] at hexited
      rcases hpass.stays p hmem with ⟨q, hq, hheir⟩ | ⟨ending, hnews⟩
      · have hlapse := endings_lapsed hdistinct hpass.distinct hmem hq hheir
        rw [ending_of_active hactive, hpid, hexited] at hlapse
        have hcode : q.ending = some (.exited code) :=
          Option.toList_eq_singleton_iff.mp hlapse.symm
        obtain ⟨hsame, hsaid⟩ :=
          (hnext (hnever hnot) q hq hheir.pid).left code hcode hsought
        exact ⟨hsame, hsaid.append saidTo_lapsed⟩
      · obtain ⟨-, other, hother, hsame, -, hending⟩ := hpass.gone _ _ hnews
        obtain rfl := hdistinct.eq_of_pid hmem hother hsame
        rw [ending_of_active hactive] at hending
        cases hending

end Moves

end LineShell.Fates
