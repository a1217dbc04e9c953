import LineShell.Proofs.Pipeline.Tallies

/-!
# Stages that become filters

Where the process of a stage is on its way, and what is in its table there.

* **`Wired`** — the standard streams of a stage stand where its filter looks for them;
* **`Preparing`** — the process has not become its filter yet, and a step brings it further, lets it
  give up, or makes it the filter (`Preparing.step`);
* **`Filtering`** — the process has become its filter, which has come so far;
* **`StageIs.holds_writer`, `StageIs.holds_reader`** — a stage holds the ends that it still needs.
-/

namespace LineShell.Dataflow

open LineShell.System LineShell.Course Prog

variable {launch : Launcher} {scene : Scene} {dest handle : Handle} {plumbing : Plumbing}
  {stage : Nat} {progress : Progress} {s s' : System Answer} {pid : Pid} {p q : Process Answer}
  {arguments : List Bytes} {left : List Fd} {table : Table}

/-! ## Looking for a program -/

/-- The program asks for what a process asks that looks for its program, and gives up after
that. -/
inductive Seeks : Prog Answer → Prop
  | finished {program} : Asks IsGivingUp program → Seeks program
  | look {call again next} : IsLooking call → (∀ answer, Seeks (next answer)) →
      Seeks (.ask call again next)

theorem seeks_bind {α : Type} {program : Prog α} {rest : α → Prog Answer}
    (h : Asks IsLooking program) (hrest : ∀ value, Asks IsGivingUp (rest value)) :
    Seeks (program.bind rest) := by
  induction h with
  | pure => exact .finished (hrest _)
  | ask hcall _ ih => exact .look hcall ih

theorem seeks_searching : Seeks (searching arguments) :=
  seeks_bind (asks_execByName _ _) fun _ => asks_complaining _ _

/-- A process whose standard streams cannot be replaced gives up. -/
theorem asks_dropping_error {errno : Errno} :
    Asks IsGivingUp (dropping (α := Answer) arguments (.error errno) left) := by
  induction left with
  | nil => exact asks_complaining _ _
  | cons fd left ih => exact .ask trivial fun _ => ih

/-! ## Filters at work -/

/-- What is left of a filter that has read so much, the last part of which comes first. -/
def Filter.reading (filter : Filter) (sofar : List Bytes) : Prog Answer :=
  .ask (.readAll Fd.stdin sofar) (fun _ => false) fun answer =>
    (filter.answering answer).bind fun never => nomatch never

/-- What is left of a filter that has so much to write. -/
def Filter.writing (filter : Filter) (left : Bytes) : Prog Answer :=
  .ask (.write Fd.stdout left) (fun _ => false) fun _ => Prog.exit filter.code

/-- A filter that has read everything writes what it makes of it. -/
theorem Filter.answering_bind (filter : Filter) (input : Bytes) :
    ((filter.answering (.ok input)).bind fun never => nomatch never) =
      filter.writing (filter.convert input) := by
  show Prog.ask _ _ _ = Prog.ask _ _ _
  congr 1
  funext answer
  exact exit_bind _ _

/-! ## Places -/

/-- The standard streams of a stage stand where its filter looks for them. -/
structure Wired (scene : Scene) (dest : Handle) (stage : Nat) (table : Table) : Prop where
  ordered : table.Ordered
  input : ∃ handle, table.get? Fd.stdin = some ⟨handle, false⟩ ∧ scene.Reads stage handle
  output : ∃ handle, table.get? Fd.stdout = some ⟨handle, false⟩ ∧ scene.Writes dest stage handle

/-- The pipes and the target stand under the numbers of the plumbing. -/
abbrev LaidOut (scene : Scene) (dest : Handle) (plumbing : Plumbing) (table : Table) : Prop :=
  Laid scene.before scene.first (fun handle => handle = dest) plumbing table

/-- There is a pipe behind every stage but the last one, which writes to the target if there is
one. -/
structure Complete (scene : Scene) (dest : Handle) (plumbing : Plumbing) : Prop where
  count : plumbing.pipes.length = scene.width - 1
  direct : plumbing.target = none → dest = scene.output

/-- Where the process of a stage is that has not become its filter yet, and what is in its table
there. -/
inductive Preparing (scene : Scene) (dest : Handle) (plumbing : Plumbing) (stage : Nat)
    (p : Process Answer) : Prop
  | input {fd : Fd} {arguments : List Bytes} : p.program = .ask (.duplicate fd Fd.stdin)
        (fun _ => false) (inputWired plumbing stage arguments) →
      plumbing.inputOf stage = some fd → LaidOut scene dest plumbing p.table →
      Preparing scene dest plumbing stage p
  | output {fd : Fd} {descriptor : Descriptor} {arguments : List Bytes} :
      p.program = .ask (.duplicate fd Fd.stdout) (fun _ => false) (fun wired =>
        dropping arguments wired plumbing.descriptors) →
      (∀ fd ∈ plumbing.descriptors, fd ≠ Fd.stdin ∧ fd ≠ Fd.stdout) → fd ∈ plumbing.descriptors →
      p.table.Ordered → (∃ handle, p.table.get? Fd.stdin = some ⟨handle, false⟩ ∧ scene.Reads stage handle) →
      p.table.get? fd = some descriptor → scene.Writes dest stage descriptor.handle →
      Preparing scene dest plumbing stage p
  | dropping {fd : Fd} {left : List Fd} {arguments : List Bytes} :
      p.program = dropping arguments (.ok ()) (fd :: left) →
      (∀ other ∈ fd :: left, other ≠ Fd.stdin ∧ other ≠ Fd.stdout) →
      Wired scene dest stage p.table → Preparing scene dest plumbing stage p
  | seeking {call : Call} {again : call.Result → Bool} {next : call.Result → Prog Answer} :
      p.program = .ask call again next → IsLooking call → (∀ answer, Seeks (next answer)) →
      Wired scene dest stage p.table → Preparing scene dest plumbing stage p

/-- Where the process of a stage is that has become its filter, when the filter has come so far. -/
inductive Filtering (scene : Scene) (dest : Handle) (stage : Nat) (p : Process Answer) :
    Progress → Prop
  | starting {time : Nat} : p.program = .ask (.sleepUntil time) (fun _ => false) (fun _ =>
        (scene.filters stage).reading []) →
      Wired scene dest stage p.table → Filtering scene dest stage p .fresh
  | reading {progress : Progress} {sofar : List Bytes} : progress.phase = .reading →
      p.program = (scene.filters stage).reading sofar → progress.got = sofar.reverse.flatten →
      Wired scene dest stage p.table → Filtering scene dest stage p progress
  | writing {progress : Progress} {left : Bytes} : progress.phase = .writing →
      p.program = (scene.filters stage).writing left →
      progress.sent ++ left = (scene.filters stage).convert progress.got →
      Wired scene dest stage p.table → Filtering scene dest stage p progress
  | leaving {progress : Progress} : progress.phase = .done →
      p.program = Prog.exit (scene.filters stage).code → Filtering scene dest stage p progress

/-- Where the process of a stage is on its way. -/
inductive StageIs (scene : Scene) (dest : Handle) (plumbing : Plumbing) (became : List Pid)
    (stage : Nat) (p : Process Answer) : Progress → Prop
  | preparing : scene.origin + stage ∉ became → Preparing scene dest plumbing stage p →
      StageIs scene dest plumbing became stage p .fresh
  | filtering {progress : Progress} : Filtering scene dest stage p progress →
      StageIs scene dest plumbing became stage p progress

/-! ## Arriving at a place -/

theorem Wired.erase (h : Wired scene dest stage table) {fd : Fd} (hinput : fd ≠ Fd.stdin)
    (houtput : fd ≠ Fd.stdout) : Wired scene dest stage (table.erase fd) := by
  obtain ⟨hordered, ⟨input, hin, hreads⟩, output, hout, hwrites⟩ := h
  refine ⟨hordered.erase, ⟨input, ?_, hreads⟩, output, ?_, hwrites⟩
  · rw [Table.get?_erase, if_neg (Ne.symm hinput), hin]
  · rw [Table.get?_erase, if_neg (Ne.symm houtput), hout]

theorem Wired.afterExec (h : Wired scene dest stage table) :
    Wired scene dest stage table.afterExec := by
  obtain ⟨hordered, ⟨input, hin, hreads⟩, output, hout, hwrites⟩ := h
  refine ⟨hordered.afterExec, ⟨input, ?_, hreads⟩, output, ?_, hwrites⟩
  · rw [hordered.get?_afterExec, hin]
    rfl
  · rw [hordered.get?_afterExec, hout]
    rfl

/-- The plumbing has none of the numbers of the standard streams. -/
theorem standard_of_laid (hfits : scene.Fits) (h : LaidOut scene dest plumbing table) :
    ∀ fd ∈ plumbing.descriptors, fd ≠ Fd.stdin ∧ fd ≠ Fd.stdout := by
  refine fun fd hfd => ⟨?_, ?_⟩
  · rintro rfl
    exact absurd ((h.fresh _ hfd).symm.trans hfits.stdin) (by simp)
  · rintro rfl
    exact absurd ((h.fresh _ hfd).symm.trans hfits.stdout) (by simp)

/-- What replaces the standard input of a stage is what it is to read. -/
theorem reads_of_laid (h : LaidOut scene dest plumbing table) {fd : Fd}
    (hfd : plumbing.inputOf stage = some fd) : fd ∈ plumbing.descriptors ∧
      ∃ descriptor, table.get? fd = some descriptor ∧ scene.Reads stage descriptor.handle := by
  obtain ⟨earlier, descriptor, rfl, hin, hget, hend, hread⟩ := h.input hfd
  exact ⟨hin, descriptor, hget, hread, hend⟩

/-- What replaces the standard output of a stage is what it is to write to. -/
theorem writes_of_laid (hcomplete : Complete scene dest plumbing) (hstage : stage < scene.width)
    (h : LaidOut scene dest plumbing table) {fd : Fd} (hfd : plumbing.outputOf stage = some fd) :
    fd ∈ plumbing.descriptors ∧ ∃ descriptor, table.get? fd = some descriptor ∧
      scene.Writes dest stage descriptor.handle := by
  have hcount := hcomplete.count
  obtain ⟨hin, descriptor, hget, ⟨hlt, hend, hwrite⟩ | ⟨hge, -, rfl⟩⟩ := h.output hfd
  · exact ⟨hin, descriptor, hget, .inl ⟨by omega, hend, hwrite⟩⟩
  · exact ⟨hin, descriptor, hget, .inr ⟨by omega, rfl⟩⟩

/-- Where nothing replaces the standard output of a stage, that is what it is to write to. -/
theorem writes_of_direct (hfits : scene.Fits) (hcomplete : Complete scene dest plumbing)
    (hstage : stage < scene.width) (h : LaidOut scene dest plumbing table)
    (hnone : plumbing.outputOf stage = none) : ∃ handle,
      table.get? Fd.stdout = some ⟨handle, false⟩ ∧ scene.Writes dest stage handle := by
  have hcount := hcomplete.count
  unfold Plumbing.outputOf at hnone
  split at hnone
  · exact absurd hnone (by simp)
  · rename_i hpipe
    rw [List.getElem?_eq_none_iff] at hpipe
    refine ⟨scene.output, h.kept _ _ hfits.stdout, .inr ⟨by omega, ?_⟩⟩
    exact (hcomplete.direct hnone).symm

theorem preparing_seeks (h : Seeks p.program) (hwired : Wired scene dest stage p.table) :
    Preparing scene dest plumbing stage p ∨ Asks IsGivingUp p.program := by
  generalize hprogram : p.program = program at h
  cases h with
  | finished h => exact .inr h
  | look hcall hnext => exact .inl (.seeking hprogram hcall hnext hwired)

theorem preparing_dropping (hprogram : p.program = dropping arguments (.ok ()) left)
    (hleft : ∀ fd ∈ left, fd ≠ Fd.stdin ∧ fd ≠ Fd.stdout)
    (hwired : Wired scene dest stage p.table) :
    Preparing scene dest plumbing stage p ∨ Asks IsGivingUp p.program := by
  cases left with
  | nil =>
      refine preparing_seeks ?_ hwired
      rw [hprogram]
      exact seeks_searching
  | cons fd left => exact .inl (.dropping hprogram hleft hwired)

/-- The standard input stands where it has to, and the standard output is next. -/
theorem preparing_output (hprogram : p.program =
      ((wire (plumbing.outputOf stage) Fd.stdout).bind fun wired =>
        dropping arguments wired plumbing.descriptors))
    (hleft : ∀ fd ∈ plumbing.descriptors, fd ≠ Fd.stdin ∧ fd ≠ Fd.stdout)
    (hordered : p.table.Ordered)
    (hinput : ∃ handle, p.table.get? Fd.stdin = some ⟨handle, false⟩ ∧ scene.Reads stage handle)
    (hdirect : plumbing.outputOf stage = none → ∃ handle,
      p.table.get? Fd.stdout = some ⟨handle, false⟩ ∧ scene.Writes dest stage handle)
    (hreplaced : ∀ fd, plumbing.outputOf stage = some fd → fd ∈ plumbing.descriptors ∧
      ∃ descriptor, p.table.get? fd = some descriptor ∧
        scene.Writes dest stage descriptor.handle) :
    Preparing scene dest plumbing stage p ∨ Asks IsGivingUp p.program := by
  cases hsource : plumbing.outputOf stage with
  | none =>
      rw [hsource] at hprogram
      exact preparing_dropping hprogram hleft ⟨hordered, hinput, hdirect hsource⟩
  | some fd =>
      obtain ⟨hin, descriptor, hget, hwrites⟩ := hreplaced fd hsource
      rw [hsource, show wire (some fd) Fd.stdout = Prog.call (.duplicate fd Fd.stdout) from
        if_neg (hleft fd hin).2] at hprogram
      exact .inl (.output hprogram hleft hin hordered hinput hget hwrites)

/-- The process of a stage begins with everything that the shell has laid out. -/
theorem preparing_runStage (hfits : scene.Fits) (hcomplete : Complete scene dest plumbing)
    (hstage : stage < scene.width) (hprogram : p.program = runStage plumbing stage arguments)
    (htable : LaidOut scene dest plumbing p.table) :
    Preparing scene dest plumbing stage p ∨ Asks IsGivingUp p.program := by
  have hleft := standard_of_laid hfits htable
  rw [runStage_eq_wire] at hprogram
  cases hsource : plumbing.inputOf stage with
  | none =>
      rw [hsource] at hprogram
      refine preparing_output hprogram hleft htable.ordered ⟨scene.input, ?_, hfits.readable, ?_⟩ ?_
        fun fd => writes_of_laid hcomplete hstage htable
      · exact htable.kept _ _ hfits.stdin
      · cases stage with
        | zero => rfl
        | succ earlier =>
            have hnone : plumbing.pipes[earlier]? = none := by
              simpa [Plumbing.inputOf] using hsource
            have hcount := hcomplete.count
            rw [List.getElem?_eq_none_iff] at hnone
            omega
      · exact writes_of_direct hfits hcomplete hstage htable
  | some fd =>
      obtain ⟨hin, -⟩ := reads_of_laid htable hsource
      rw [hsource, show wire (some fd) Fd.stdin = Prog.call (.duplicate fd Fd.stdin) from
        if_neg (hleft fd hin).1] at hprogram
      exact .inl (.input hprogram hsource htable)

/-! ## Steps -/

/-- The standard input has been replaced, or the process gives up. -/
theorem preparing_inputWired (hfits : scene.Fits) (hcomplete : Complete scene dest plumbing)
    (hstage : stage < scene.width) {fd : Fd} (hsource : plumbing.inputOf stage = some fd)
    (htable : LaidOut scene dest plumbing p.table)
    (hq : q = { (duplicate p fd Fd.stdin).2 with
      program := inputWired plumbing stage arguments (duplicate p fd Fd.stdin).1 }) :
    Preparing scene dest plumbing stage q ∨ Asks IsGivingUp q.program := by
  have hleft := standard_of_laid hfits htable
  obtain ⟨hfd, source, hget, hreads⟩ := reads_of_laid htable hsource
  rcases duplicate_cases fd Fd.stdin (p := p) with ⟨errno, hdup⟩ |
    ⟨descriptor, hfound, ⟨heq, -⟩ | hdup⟩
  · rw [hq, hdup]
    exact .inr asks_dropping_error
  · exact absurd heq (hleft fd hfd).1
  · cases hget.symm.trans hfound
    rw [hq, hdup]
    have hother : ∀ {other}, other ≠ Fd.stdin →
        (p.table.set Fd.stdin ⟨source.handle, false⟩).get? other = p.table.get? other :=
      fun hne => by rw [Table.get?_set, if_neg hne]
    refine preparing_output rfl hleft htable.ordered.set
      ⟨source.handle, Table.get?_set_self, hreads⟩ ?_ ?_
    · intro hnone
      obtain ⟨output, hout, hwrites⟩ := writes_of_direct hfits hcomplete hstage htable hnone
      exact ⟨output, (hother (by decide)).trans hout, hwrites⟩
    · intro other hother'
      obtain ⟨hin, found, hfound', hwrites⟩ := writes_of_laid hcomplete hstage htable hother'
      exact ⟨hin, found, (hother (hleft other hin).1).trans hfound', hwrites⟩

/-- The standard output has been replaced too, or the process gives up. -/
theorem preparing_outputWired {fd : Fd} {target : Descriptor}
    (hleft : ∀ fd ∈ plumbing.descriptors, fd ≠ Fd.stdin ∧ fd ≠ Fd.stdout)
    (hfd : fd ∈ plumbing.descriptors) (hordered : p.table.Ordered)
    (hinput : ∃ handle, p.table.get? Fd.stdin = some ⟨handle, false⟩ ∧ scene.Reads stage handle)
    (hget : p.table.get? fd = some target) (hwrites : scene.Writes dest stage target.handle)
    (hq : q = { (duplicate p fd Fd.stdout).2 with
      program := dropping arguments (duplicate p fd Fd.stdout).1 plumbing.descriptors }) :
    Preparing scene dest plumbing stage q ∨ Asks IsGivingUp q.program := by
  rcases duplicate_cases fd Fd.stdout (p := p) with ⟨errno, hdup⟩ |
    ⟨descriptor, hfound, ⟨heq, -⟩ | hdup⟩
  · rw [hq, hdup]
    exact .inr asks_dropping_error
  · exact absurd heq (hleft fd hfd).2
  · cases hget.symm.trans hfound
    rw [hq, hdup]
    obtain ⟨input, hin, hreads⟩ := hinput
    refine preparing_dropping rfl hleft ⟨hordered.set, ⟨input, ?_, hreads⟩, target.handle, ?_,
      hwrites⟩
    · rw [Table.get?_set, if_neg (by decide), hin]
    · rw [Table.get?_set_self]

/-- A process that looks for its filter becomes it, looks on, or gives up. -/
theorem seeking_step {call : Call} {again : call.Result → Bool} {next : call.Result → Prog Answer}
    (hprogram : p.program = .ask call again next) (hcall : IsLooking call)
    (hnext : ∀ answer, Seeks (next answer)) (hwired : Wired scene dest stage p.table)
    (hp : s.process? pid = some p) (hactive : p.active = true)
    (hfilter : ∀ changed, successor? launch s pid = some changed →
      changed.program = (scene.filters stage).program.bind fun never => nomatch never)
    (hstep : step launch s pid = some s') :
    ∃ q, s' = s.setProcess q ∧ q.pid = p.pid ∧ q.ending = none ∧
      ((successor? launch s pid).isSome = false ∧
          (Preparing scene dest plumbing stage q ∨ Asks IsGivingUp q.program) ∨
        (successor? launch s pid).isSome = true ∧ Filtering scene dest stage q .fresh) := by
  have halive := ending_of_active hactive
  have hproceed : ∀ answer, Seeks (Process.proceed call again next answer) :=
    holds_proceed (.look hcall hnext) hnext
  cases call with
  | bindings =>
      rw [step_answered hp hactive rfl hprogram] at hstep
      cases hstep
      refine ⟨_, rfl, rfl, halive, .inl ⟨?_, preparing_seeks (hproceed _) hwired⟩⟩
      rw [successor?_eq_none_of_ask hp hprogram (by simp)]
      rfl
  | exec path arguments bindings =>
      cases hstep.symm.trans (step_exec hp hactive hprogram)
      have hsuccessor : successor? launch s pid =
          (s.become launch p path arguments bindings).toOption := by
        unfold successor?
        simp only [hp, hprogram]
      cases hbecome : s.become launch p path arguments bindings with
      | ok changed =>
          rw [hbecome] at hsuccessor
          obtain ⟨hpid, hending, htable⟩ := become_ok hbecome
          have hstarting : Prog.ask (.sleepUntil (s.clock + startingTime)) (fun _ => false)
              (fun () => changed.program) = .ask (.sleepUntil (s.clock + startingTime))
                (fun _ => false) fun _ => (scene.filters stage).reading [] := by
            rw [hfilter changed hsuccessor]
            rfl
          exact ⟨_, rfl, hpid, hending.trans halive, .inr ⟨by rw [hsuccessor]; rfl,
            .starting hstarting (htable ▸ hwired.afterExec)⟩⟩
      | error errno =>
          rw [hbecome] at hsuccessor
          exact ⟨_, rfl, rfl, halive, .inl ⟨by rw [hsuccessor]; rfl,
            preparing_seeks (hproceed _) hwired⟩⟩
  | _ => exact absurd hcall id

/-- A step of a process that has not become its filter yet brings it further, lets it give up, or
makes it the filter. It hands nothing over. -/
theorem Preparing.step (h : Preparing scene dest plumbing stage p) (hfits : scene.Fits)
    (hcomplete : Complete scene dest plumbing) (hstage : stage < scene.width)
    (hp : s.process? pid = some p) (hactive : p.active = true)
    (hfilter : ∀ changed, successor? launch s pid = some changed →
      changed.program = (scene.filters stage).program.bind fun never => nomatch never)
    (hstep : step launch s pid = some s') :
    delivered s pid = [] ∧ ∃ q, s' = s.setProcess q ∧ q.pid = p.pid ∧ q.ending = none ∧
      ((successor? launch s pid).isSome = false ∧
          (Preparing scene dest plumbing stage q ∨ Asks IsGivingUp q.program) ∨
        (successor? launch s pid).isSome = true ∧ Filtering scene dest stage q .fresh) := by
  have halive := ending_of_active hactive
  have hquiet : ∀ {call : Call} {again : call.Result → Bool} {next : call.Result → Prog Answer},
      p.program = .ask call again next → (∀ path arguments bindings,
        call ≠ .exec path arguments bindings) → (successor? launch s pid).isSome = false := by
    intro call again next hprogram hcall
    rw [successor?_eq_none_of_ask hp hprogram hcall]
    rfl
  cases h with
  | @input fd arguments hprogram hsource htable =>
      refine ⟨delivered_eq_nil_of_ask hp hprogram (by simp) (by simp), ?_⟩
      cases hstep.symm.trans (step_duplicate hp hactive hprogram)
      obtain ⟨hpid, hending⟩ := duplicate_rest fd Fd.stdin (p := p)
      exact ⟨_, rfl, hpid, hending.trans halive, .inl ⟨hquiet hprogram (by simp),
        preparing_inputWired hfits hcomplete hstage hsource htable rfl⟩⟩
  | @output fd target arguments hprogram hleft hin hordered hinput hget hwrites =>
      refine ⟨delivered_eq_nil_of_ask hp hprogram (by simp) (by simp), ?_⟩
      cases hstep.symm.trans (step_duplicate hp hactive hprogram)
      obtain ⟨hpid, hending⟩ := duplicate_rest fd Fd.stdout (p := p)
      exact ⟨_, rfl, hpid, hending.trans halive, .inl ⟨hquiet hprogram (by simp),
        preparing_outputWired hleft hin hordered hinput hget hwrites rfl⟩⟩
  | @dropping fd left arguments hprogram hleft hwired =>
      have hask : p.program = .ask (.close fd) (fun _ => false) fun _ =>
        Course.dropping arguments (.ok ()) left := hprogram
      refine ⟨delivered_eq_nil_of_ask hp hask (by simp) (by simp), ?_⟩
      cases hstep.symm.trans (step_close hp hactive hask)
      have hfd := hleft fd List.mem_cons_self
      exact ⟨_, rfl, rfl, halive, .inl ⟨hquiet hask (by simp), preparing_dropping rfl
        (fun other hother => hleft other (List.mem_cons_of_mem _ hother))
        (hwired.erase hfd.1 hfd.2)⟩⟩
  | @seeking call again next hprogram hcall hnext hwired =>
      refine ⟨delivered_eq_nil_of_ask hp hprogram ?_ ?_,
        seeking_step hprogram hcall hnext hwired hp hactive hfilter hstep⟩
      · rintro rfl
        exact hcall
      · rintro fd bytes rfl
        exact hcall

variable {tally : Tally} {log : List Delivery} {became : List Pid}

/-- A step of a process that has become its filter brings the filter further. -/
theorem Filtering.step (h : Filtering scene dest stage p (tally stage)) (hfits : scene.Fits)
    (hstreams : Streams scene dest tally log s) (hstage : stage < scene.width)
    (hp : s.process? (scene.origin + stage) = some p) (hactive : p.active = true)
    (hwriter : ∀ place, stage = place + 1 → (tally place).phase ≠ .done →
      s.held (.pipeWriter (scene.first + place)) = true)
    (hreader : (tally stage).phase = .writing → ∀ handle, scene.Writes dest stage handle →
      ∀ pipe, handle.endpoint = .pipeWriter pipe → s.held (.pipeReader pipe) = true)
    (hroom : scene.first + (scene.width - 1) ≤ s.pipes.length)
    (hstep : step launch s (scene.origin + stage) = some s') :
    successor? launch s (scene.origin + stage) = none ∧
      ∃ after q progress, s' = after.setProcess q ∧ Quiet s after ∧ q.pid = p.pid ∧
        Streams scene dest (tally.set stage progress)
          (log ++ delivered s (scene.origin + stage)) after ∧
        (q.ending = none ∧ Filtering scene dest stage q progress ∨
          progress.phase = .done ∧ q.ending.isSome = true) := by
  have halive := ending_of_active hactive
  generalize hprogress : tally stage = progress at h
  cases h with
  | @starting time hprogram hwired =>
      refine ⟨successor?_eq_none_of_ask hp hprogram (by simp), ?_⟩
      rw [step_answered hp hactive rfl hprogram] at hstep
      simp only [answer] at hstep
      split at hstep
      · cases hstep
        refine ⟨s, _, tally stage, rfl, .refl, rfl, ?_, .inl ⟨halive, ?_⟩⟩
        · rw [delivered_eq_nil_of_ask hp hprogram (by simp) (by simp), List.append_nil,
            Tally.set_tally]
          exact hstreams
        · rw [hprogress]
          exact .reading rfl rfl rfl hwired
      · exact absurd hstep (by simp)
  | @reading _ sofar hphase hprogram hgot hwired =>
      obtain ⟨hordered, ⟨input, hget, hreads⟩, houtput⟩ := hwired
      refine ⟨successor?_eq_none_of_ask hp hprogram (by simp), ?_⟩
      rw [step_readAll hp hactive hprogram, Option.map_eq_some_iff] at hstep
      obtain ⟨⟨reply, after⟩, hread, rfl⟩ := hstep
      rw [delivered_eq_nil_of_ask hp hprogram (by simp) (by simp), List.append_nil]
      -- it has found the end, and writes what it makes of all that it has read, or it reads on
      rcases hstreams.read hfits (hprogress ▸ hphase) hget hreads (fun place heq => heq ▸ hstage)
        hwriter (by decide) hread with ⟨rfl, hafter⟩ | ⟨chunk, hne, rfl, hafter⟩
      · refine ⟨after, _, _, rfl, quiet_readSome hread, rfl, hafter, .inl ⟨halive, ?_⟩⟩
        refine .writing rfl ((scene.filters stage).answering_bind sofar.reverse.flatten) ?_
          ⟨hordered, ⟨input, hget, hreads⟩, houtput⟩
        rw [hstreams.unsent stage (hprogress ▸ hphase), List.nil_append, hprogress, hgot]
      · refine ⟨after, _, _, rfl, quiet_readSome hread, rfl, hafter, .inl ⟨halive, ?_⟩⟩
        obtain ⟨byte, chunk, rfl⟩ := List.exists_cons_of_ne_nil hne
        refine .reading (hprogress ▸ hphase) rfl ?_ ⟨hordered, ⟨input, hget, hreads⟩, houtput⟩
        rw [List.reverse_cons, List.flatten_append, ← hgot, hprogress]
        simp
  | @writing _ left hphase hprogram hleft hwired =>
      obtain ⟨output, hget, hwrites⟩ := hwired.output
      refine ⟨successor?_eq_none_of_ask hp hprogram (by simp), ?_⟩
      rw [step_write hp hactive hprogram, Option.map_eq_some_iff] at hstep
      obtain ⟨⟨reply, after⟩, hwrite, rfl⟩ := hstep
      obtain ⟨chunk, more, rfl, rfl, hafter⟩ := hstreams.write hfits hstage (hprogress ▸ hphase) hget
        hwrites (hreader (hprogress ▸ hphase) output hwrites) hroom (hprogress ▸ hleft) hwrite
      rw [delivered_of_write hp hprogram hget hwrite]
      refine ⟨after, _, _, rfl, quiet_writeSome hwrite, rfl, hafter, .inl ⟨halive, ?_⟩⟩
      cases more with
      | nil => exact .leaving rfl rfl
      | cons byte more =>
          refine .writing rfl rfl ?_ hwired
          rw [hprogress, ← hleft, List.append_assoc]
  | leaving hphase hprogram =>
      refine ⟨successor?_eq_none_of_ask hp hprogram (by simp), ?_⟩
      cases hstep.symm.trans (step_exit hp hactive hprogram)
      refine ⟨s, _, tally stage, rfl, .refl, rfl, ?_, .inr ⟨hprogress ▸ hphase, rfl⟩⟩
      rw [delivered_eq_nil_of_ask hp hprogram (by simp) (by simp), List.append_nil,
        Tally.set_tally]
      exact hstreams

/-! ## What a stage holds -/

/-- A stage that has not written everything holds the end that it writes to. -/
theorem StageIs.holds_writer (h : StageIs scene dest plumbing became stage p progress)
    (hcomplete : Complete scene dest plumbing) (hstage : stage + 1 < scene.width)
    (hphase : progress.phase ≠ .done) :
    p.table.holds (.pipeWriter (scene.first + stage)) = true := by
  have hwrites : ∀ {fd : Fd} {descriptor : Descriptor}, p.table.get? fd = some descriptor →
      scene.Writes dest stage descriptor.handle →
      p.table.holds (.pipeWriter (scene.first + stage)) = true := by
    intro fd descriptor hget hwrites
    rcases hwrites with ⟨-, hend, -⟩ | ⟨hlast, -⟩
    · exact hend ▸ Table.holds_of_get? hget
    · exact absurd hstage (Nat.not_lt_of_le (Nat.le_of_eq hlast.symm))
  have hwired : Wired scene dest stage p.table →
      p.table.holds (.pipeWriter (scene.first + stage)) = true := by
    rintro ⟨-, -, output, hget, hout⟩
    exact hwrites hget hout
  cases h with
  | preparing _ h =>
      cases h with
      | input _ _ htable =>
          have hpipe : stage < plumbing.pipes.length := by
            rw [hcomplete.count]
            omega
          obtain ⟨descriptor, hget, hend, -⟩ :=
            htable.writer stage _ (List.getElem?_eq_getElem hpipe)
          exact hend ▸ Table.holds_of_get? hget
      | output _ _ _ _ _ hget hout => exact hwrites hget hout
      | dropping _ _ h => exact hwired h
      | seeking _ _ _ h => exact hwired h
  | filtering h =>
      cases h with
      | starting _ h => exact hwired h
      | reading _ _ _ h => exact hwired h
      | writing _ _ _ h => exact hwired h
      | leaving hdone => exact absurd hdone hphase

/-- A stage that has not read everything holds the end that it reads. -/
theorem StageIs.holds_reader {place : Nat}
    (h : StageIs scene dest plumbing became (place + 1) p progress)
    (hphase : progress.phase = .reading) :
    p.table.holds (.pipeReader (scene.first + place)) = true := by
  have hreads : ∀ {fd : Fd} {descriptor : Descriptor}, p.table.get? fd = some descriptor →
      scene.Reads (place + 1) descriptor.handle →
      p.table.holds (.pipeReader (scene.first + place)) = true := by
    rintro fd descriptor hget ⟨-, hend⟩
    exact hend ▸ Table.holds_of_get? hget
  have hwired : Wired scene dest (place + 1) p.table →
      p.table.holds (.pipeReader (scene.first + place)) = true := by
    rintro ⟨-, ⟨input, hget, hin⟩, -⟩
    exact hreads hget hin
  cases h with
  | preparing _ h =>
      cases h with
      | input _ hsource htable =>
          obtain ⟨-, descriptor, hget, hin⟩ := reads_of_laid htable hsource
          exact hreads hget hin
      | output _ _ _ _ hinput =>
          obtain ⟨input, hget, hin⟩ := hinput
          exact hreads hget hin
      | dropping _ _ h => exact hwired h
      | seeking _ _ _ h => exact hwired h
  | filtering h =>
      cases h with
      | starting _ h => exact hwired h
      | reading _ _ _ h => exact hwired h
      | writing hwriting => exact absurd (hphase.symm.trans hwriting) (by simp)
      | leaving hdone => exact absurd (hphase.symm.trans hdone) (by simp)

end LineShell.Dataflow
