import LineShell.Proofs.System.Requests

/-!
# What the operations of a machine come to

Every operation is taken apart once. What holds after it is read off its outcome, and not off its
definition.

* **`ReadOutcome`, `WriteOutcome`** — what is taken from an open file, and what is handed to one;
* **`waitFor_cases`, `signal_cases`** — what a process is told of its children, and what a signal
  makes of a process;
* **`AnswerOutcome`** — what a request leaves that concerns the asking process alone;
* **`StepOutcome`** — everything that a process can do in a step (`step_cases`).
-/

namespace LineShell.System

variable {α : Type} {launch : Launcher} {s s' after : System α} {p q answered changed : Process α}
  {table : Table} {fd : Fd}

/-! ## Reading and writing -/

/-- What a read comes to. -/
inductive ReadOutcome (s : System α) (table : Table) (fd : Fd) (count : Nat) :
    Except Errno Bytes → System α → Prop
  /-- It is refused, or what is read is not used up. -/
  | still {reply} : ReadOutcome s table fd count reply s
  | queued {descriptor : Descriptor} {pipe : PipeId} : table.get? fd = some descriptor →
      descriptor.handle.endpoint = .pipeReader pipe → s.queue pipe ≠ [] →
      ReadOutcome s table fd count (.ok ((s.queue pipe).take count))
        (s.setQueue pipe ((s.queue pipe).drop count))
  | typed {descriptor : Descriptor} {piece : Bytes} {typed : List Bytes} :
      table.get? fd = some descriptor → descriptor.handle.endpoint = .terminal →
      ReadOutcome s table fd count (.ok piece) { s with typed := typed }
  | stored {descriptor : Descriptor} {id : NodeId} {chunk : Bytes} {position : Nat} :
      table.get? fd = some descriptor → descriptor.handle.endpoint = .node id →
      ReadOutcome s table fd count (.ok chunk) (s.setPosition descriptor.handle position)

theorem readSome_cases {count : Nat} {reply : Except Errno Bytes}
    (h : s.readSome table fd count = some (reply, after)) :
    ReadOutcome s table fd count reply after := by
  unfold readSome at h
  -- the number stands for nothing, or for what cannot be read
  split at h
  · cases h
    exact .still
  rename_i descriptor hget
  dsimp only at h
  split at h
  · cases h
    exact .still
  split at h
  · rename_i pipe hend
    split_ifs at h with hwaiting hheld
    · cases h
      exact .queued hget hend (by simpa using hwaiting)
    · cases h
      exact .still
  · cases h
    exact .still
  · rename_i hend
    split at h <;> cases h
    · exact .still
    · exact .typed hget hend
  · rename_i id hend
    split at h <;> cases h
    · exact .stored hget hend
    all_goals exact .still

/-- What a write comes to. -/
inductive WriteOutcome (s : System α) (table : Table) (fd : Fd) (bytes : Bytes) :
    Except Errno Bytes → System α → Prop
  | refused {errno} : WriteOutcome s table fd bytes (.error errno) s
  | nothing : bytes = [] → WriteOutcome s table fd bytes (.ok []) s
  /-- It is handed to the terminal or to a device, which keep nothing. -/
  | swallowed {descriptor : Descriptor} : table.get? fd = some descriptor →
      (∀ pipe, descriptor.handle.endpoint ≠ .pipeWriter pipe) →
      (∀ id old, descriptor.handle.endpoint = .node id →
        (s.files.node? id).map Node.content ≠ some (.regular old)) →
      WriteOutcome s table fd bytes (.ok []) s
  | queued {descriptor : Descriptor} {pipe : PipeId} : table.get? fd = some descriptor →
      descriptor.handle.endpoint = .pipeWriter pipe →
      WriteOutcome s table fd bytes (.ok (bytes.drop (pipeCapacity - (s.queue pipe).length)))
        (s.setQueue pipe (s.queue pipe ++ bytes.take (pipeCapacity - (s.queue pipe).length)))
  | stored {descriptor : Descriptor} {id : NodeId} {old : Bytes} {position : Nat} :
      table.get? fd = some descriptor → descriptor.handle.endpoint = .node id → bytes ≠ [] →
      (s.files.node? id).map Node.content = some (.regular old) →
      position = (if descriptor.handle.access.append then old.length
        else s.position descriptor.handle) →
      WriteOutcome s table fd bytes (.ok []) (setPosition
        { s with files := s.files.setBytes id (Files.overwrite old position bytes) }
        descriptor.handle (position + bytes.length))

theorem writeSome_outcome {bytes : Bytes} {reply : Except Errno Bytes}
    (h : s.writeSome table fd bytes = some (reply, after)) :
    WriteOutcome s table fd bytes reply after := by
  unfold writeSome at h
  split at h
  · cases h
    exact .refused
  rename_i descriptor hget
  dsimp only at h
  split at h
  · cases h
    exact .refused
  split at h
  · rename_i pipe hend
    split_ifs at h with hheld hempty hroom <;> cases h
    · exact .refused
    · exact .nothing (List.isEmpty_iff.mp hempty)
    · exact .queued hget hend
  · cases h
    exact .refused
  · rename_i hend
    cases h
    exact .swallowed hget (by simp [hend]) (by simp [hend])
  · rename_i id hend
    split at h
    · rename_i old hcontent
      split at h <;> cases h
      · rename_i hempty
        exact .nothing (List.isEmpty_iff.mp hempty)
      · rename_i hempty
        exact .stored hget hend (by simpa using hempty) hcontent rfl
    · cases h
      exact .refused
    · rename_i kind hkind hcontent
      cases h
      refine .swallowed hget (by simp [hend]) fun other old hother => ?_
      obtain rfl : id = other := by simpa [hend] using hother
      simp [hcontent]
    · cases h
      exact .refused

/-! ## Open files -/

/-- What opening a path comes to. -/
inductive OpenOutcome (s : System α) (p : Process α) (path : Bytes) (access : Access)
    (closeOnExec : Bool) : Except Errno Fd → Process α → System α → Prop
  /-- There is no number left for it, or it is refused as a path. -/
  | refused {errno} : (p.limit ≤ p.table.free ∧ errno = .tooManyFiles) ∨
        s.endpointAt p path access = .error errno →
      OpenOutcome s p path access closeOnExec (.error errno) p s
  /-- It stands under the least free number. -/
  | opened {endpoint : Endpoint} {files : Files} : p.table.free < p.limit →
      s.endpointAt p path access = .ok (endpoint, files) →
      OpenOutcome s p path access closeOnExec (.ok p.table.free)
        { p with table :=
            p.table.set p.table.free ⟨⟨endpoint, access, s.cells.length⟩, closeOnExec⟩ }
        { s with files := files, cells := s.cells ++ [0] }

theorem openPath_cases {path : Bytes} {access : Access} {closeOnExec : Bool}
    {reply : Except Errno Fd} (h : s.openPath p path access closeOnExec = (reply, answered, after)) :
    OpenOutcome s p path access closeOnExec reply answered after := by
  unfold openPath at h
  dsimp only at h
  split at h
  · rename_i hfull
    cases h
    exact .refused (.inl ⟨hfull, rfl⟩)
  · rename_i hroom
    split at h <;> cases h
    · rename_i herror
      exact .refused (.inr herror)
    · rename_i hendpoint
      exact .opened (Nat.lt_of_not_le hroom) hendpoint

/-- A number that may come to stand for what another one stands for as well. -/
theorem duplicateAbove_cases (source minimum : Fd) :
    (duplicateAbove p source minimum).2 = p ∨ ∃ fd descriptor,
      p.table.get? source = some descriptor ∧ (duplicateAbove p source minimum).2 =
        { p with table := p.table.set fd ⟨descriptor.handle, true⟩ } := by
  unfold duplicateAbove
  split
  · exact .inl rfl
  · rename_i descriptor hget
    dsimp only
    split_ifs
    · exact .inl rfl
    · exact .inl rfl
    · exact .inr ⟨_, descriptor, hget, rfl⟩

theorem seek_cases (move : Seek) : (s.seek table fd move).2 = s ∨
    ∃ handle position, (s.seek table fd move).2 = s.setPosition handle position := by
  unfold seek
  split
  · exact .inl rfl
  · split
    · exact .inr ⟨_, _, rfl⟩
    · exact .inl rfl

theorem resize_cases (size : Nat) : (s.resize table fd size).2 = s ∨
    ∃ id bytes, (s.resize table fd size).2 = { s with files := s.files.setBytes id bytes } := by
  unfold resize
  split
  · exact .inl rfl
  · split
    · split
      · exact .inr ⟨_, _, rfl⟩
      · exact .inl rfl
    · exact .inl rfl

/-! ## Children and signals -/

/-- The machine in which the process with a number is forgotten. -/
def forget (s : System α) (gone : Pid) : System α :=
  { s with processes := s.processes.filter fun process => process.pid != gone }

theorem mem_forget {gone : Pid} :
    q ∈ (s.forget gone).processes ↔ q ∈ s.processes ∧ q.pid ≠ gone := by
  unfold forget
  rw [List.mem_filter, bne_iff_ne]

/-- A process is told of the end of one of its children, which is forgotten then, or of none. -/
theorem waitFor_cases {parent : Pid} {child : Option Pid}
    {reply : Except Errno (Pid × ChildNews)} (h : s.waitFor parent child = some (reply, after)) :
    (∃ errno, reply = .error errno ∧ after = s) ∨
      ∃ gone ∈ s.processes, ∃ ending, gone.parent = parent ∧ gone.ending = some ending ∧
        (∀ wanted, child = some wanted → gone.pid = wanted) ∧
        reply = .ok (gone.pid, .ended ending) ∧ after = s.forget gone.pid := by
  unfold waitFor at h
  dsimp only at h
  split at h
  · rename_i gone hfound
    cases h
    have hended := List.find?_some hfound
    obtain ⟨ending, hending⟩ := Option.isSome_iff_exists.mp hended
    obtain ⟨hmem, hsuits⟩ := List.mem_filter.mp (List.mem_of_find?_eq_some hfound)
    rw [Bool.and_eq_true, beq_iff_eq] at hsuits
    refine .inr ⟨gone, hmem, ending, hsuits.1, hending, ?_, by rw [hending]; rfl, rfl⟩
    rintro wanted rfl
    have hwanted := hsuits.2
    rw [Option.isNone_some, Bool.false_or, beq_iff_eq, Option.some.injEq] at hwanted
    exact hwanted.symm
  · split at h
    · cases h
      exact .inl ⟨_, rfl, rfl⟩
    · cases h

/-- What a signal makes of a process that is under way. -/
inductive Struck (p : Process α) : Process α → Prop
  | noted (signals : Signals) : Struck p { p with signals := signals }
  | halted (halted : Bool) : Struck p { p with halted := halted }
  | killed (number : Signal) : Struck p (p.finish (.killed number))

/-- A signal changes nothing, or one process that has not ended. -/
theorem signal_cases (s : System α) (target : Pid) (number : Signal) :
    (s.signal target number).2 = s ∨ ∃ p changed, s.process? target = some p ∧ p.ending = none ∧
      Struck p changed ∧ (s.signal target number).2 = s.setProcess changed := by
  unfold signal
  split
  · exact .inl rfl
  split
  · exact .inl rfl
  rename_i p hp
  split
  · exact .inl rfl
  rename_i hidle
  have halive : p.ending = none := by
    simp only [Process.alive, Bool.or_eq_true, decide_eq_true_eq, Bool.not_eq_true', not_or] at hidle
    simpa using hidle.2
  split
  · exact .inl rfl
  · exact .inr ⟨p, _, hp, halive, .noted _, rfl⟩
  · split_ifs
    · exact .inl rfl
    · exact .inr ⟨p, _, hp, halive, .halted true, rfl⟩
    · exact .inr ⟨p, _, hp, halive, .halted false, rfl⟩
    · exact .inr ⟨p, _, hp, halive, .killed number, rfl⟩

theorem Struck.pid (h : Struck p changed) : changed.pid = p.pid := by
  cases h <;> rfl

/-- Nobody is gone after a signal. -/
theorem map_pid_signal (s : System α) (target : Pid) (number : Signal) :
    (s.signal target number).2.processes.map Process.pid = s.processes.map Process.pid := by
  rcases signal_cases s target number with heq | ⟨p, changed, -, -, -, heq⟩
  · rw [heq]
  · rw [heq, map_pid_setProcess]

theorem isSome_process? {pid : Pid} : (s.process? pid).isSome = true ↔ pid ∈ s.processes.map Process.pid := by
  unfold process?
  simp only [List.find?_isSome, beq_iff_eq, List.mem_map]

/-! ## Answers -/

/-- What a request makes of the files, if it is one for a change of names, modes or times. -/
def rearranged? (s : System α) (p : Process α) : Call → Option (Except Errno Files)
  | .makeDirectory path mode => some (s.files.makeDirectory p.directory path mode p.mask)
  | .removeDirectory path => some (s.files.removeDirectory p.directory path)
  | .unlink path => some (s.files.unlink p.directory path)
  | .hardLink source path => some (s.files.hardLink p.directory source path)
  | .makeLink target path => some (s.files.makeLink p.directory path target)
  | .rename source path => some (s.files.rename p.directory source path)
  | .setMode path mode => some (s.files.setMode p.directory path mode)
  | .setTime path follow time =>
      some (s.files.setTime p.directory path follow (time.getD s.clock))
  | _ => none

/-- For which child a request waits, if it asks for the end of one. -/
def awaited? : Call → Option (Option Pid)
  | .wait child => some child
  | .waitOrSignal | .poll => some none
  | _ => none

/-- What is left of the asking process and of the machine, when a request has been answered. -/
inductive AnswerOutcome (s : System α) (p : Process α) : (call : Call) → call.Result →
    Process α → System α → Prop
  | still {call reply} : awaited? call = none → AnswerOutcome s p call reply p s
  | opened {path access closeOnExec reply answered after} :
      OpenOutcome s p path access closeOnExec reply answered after →
      AnswerOutcome s p (.openPath path access closeOnExec) reply answered after
  | piped {ends answered after} : s.openPipe p = (.ok ends, answered, after) →
      AnswerOutcome s p .pipe (.ok ends) answered after
  | closed {fd reply} :
      AnswerOutcome s p (.close fd) reply { p with table := p.table.erase fd } s
  | shared {call reply source fd descriptor closeOnExec} : awaited? call = none →
      p.table.get? source = some descriptor → AnswerOutcome s p call reply
        { p with table := p.table.set fd ⟨descriptor.handle, closeOnExec⟩ } s
  | told {call reply child news after} : awaited? call = some child →
      s.waitFor p.pid child = some (news, after) → AnswerOutcome s p call reply p after
  | waiting {call reply child} : awaited? call = some child → s.waitFor p.pid child = none →
      AnswerOutcome s p call reply p s
  | read {fd count reply after} : s.readSome p.table fd count = some (reply, after) →
      AnswerOutcome s p (.read fd count) reply p after
  | placed {fd move reply handle position} :
      AnswerOutcome s p (.seek fd move) reply p (s.setPosition handle position)
  | resized {fd size reply id bytes} : AnswerOutcome s p (.resize fd size) reply p
      { s with files := s.files.setBytes id bytes }
  | rearranged {call reply files} : awaited? call = none → rearranged? s p call = some (.ok files) →
      AnswerOutcome s p call reply p { s with files := files }
  | moved {path reply id} :
      AnswerOutcome s p (.changeDirectory path) reply { p with directory := id } s
  | adjusted {call reply mask limit pending signals} : awaited? call = none →
      AnswerOutcome s p call reply
        { p with mask := mask, limit := limit, pending := pending, signals := signals } s

theorem answer_cases {call : Call} {reply : call.Result}
    (h : s.answer p call = some (reply, answered, after)) :
    AnswerOutcome s p call reply answered after := by
  -- a request for other names, modes or times either changes the files or changes nothing
  have hchange : ∀ {call : Call} {reply : call.Result} {result : Except Errno Unit}
      {changed : Except Errno Files}, awaited? call = none → rearranged? s p call = some changed →
      s.change p changed = (result, answered, after) →
      AnswerOutcome s p call reply answered after := by
    intro call reply result changed hcall hchanged heq
    unfold change at heq
    split at heq <;> cases heq
    · exact .rearranged hcall hchanged
    · exact .still hcall
  cases call with
  | openPath path access closeOnExec =>
      exact .opened (openPath_cases (Option.some.inj h))
  | pipe =>
      have heq := Option.some.inj h
      rcases reply with errno | ends
      · obtain ⟨rfl, rfl⟩ := openPipe_error heq
        exact .still rfl
      · exact .piped heq
  | close fd =>
      simp only [answer] at h
      split at h <;> cases h
      · exact .closed
      · exact .still rfl
  | duplicate source target =>
      simp only [answer, Option.some.injEq, Prod.mk.injEq] at h
      obtain ⟨-, rfl, rfl⟩ := h
      rcases duplicate_cases source target with ⟨errno, heq⟩ | ⟨descriptor, hget, ⟨-, heq⟩ | heq⟩
      all_goals rw [heq]
      · exact .still rfl
      · exact .still rfl
      · exact .shared rfl hget
  | duplicateAbove source minimum =>
      simp only [answer, Option.some.injEq, Prod.mk.injEq] at h
      obtain ⟨-, rfl, rfl⟩ := h
      rcases duplicateAbove_cases source minimum with heq | ⟨fd, descriptor, hget, heq⟩
      all_goals rw [heq]
      · exact .still rfl
      · exact .shared rfl hget
  | wait child =>
      simp only [answer, Option.map_eq_some_iff] at h
      obtain ⟨⟨news, later⟩, hwait, heq⟩ := h
      cases heq
      exact .told rfl hwait
  | waitOrSignal =>
      simp only [answer] at h
      split at h
      · rename_i hwait
        cases h
        exact .told rfl hwait
      · rename_i hwait
        split at h <;> cases h
        exact .waiting rfl hwait
  | poll =>
      simp only [answer] at h
      split at h <;> cases h
      · rename_i hwait
        exact .told rfl hwait
      · rename_i hwait
        exact .waiting rfl hwait
  | read fd count =>
      simp only [answer, Option.map_eq_some_iff] at h
      obtain ⟨⟨chunk, later⟩, hread, heq⟩ := h
      cases heq
      exact .read hread
  | seek fd move =>
      simp only [answer, Option.some.injEq, Prod.mk.injEq] at h
      obtain ⟨-, rfl, rfl⟩ := h
      rcases seek_cases move with heq | ⟨handle, position, heq⟩
      all_goals rw [heq]
      · exact .still rfl
      · exact .placed
  | resize fd size =>
      simp only [answer, Option.some.injEq, Prod.mk.injEq] at h
      obtain ⟨-, rfl, rfl⟩ := h
      rcases resize_cases size with heq | ⟨id, bytes, heq⟩
      all_goals rw [heq]
      · exact .still rfl
      · exact .resized
  | changeDirectory path =>
      simp only [answer] at h
      split at h <;> cases h
      · exact .moved
      · exact .still rfl
  | sleepUntil time =>
      simp only [answer] at h
      split at h <;> cases h
      exact .still rfl
  | makeDirectory | removeDirectory | unlink | hardLink | makeLink | rename | setMode | setTime =>
      exact hchange rfl rfl (Option.some.inj h)
  | put | setMask | setLimit | dispose | arrived =>
      cases h
      exact .adjusted rfl
  | currentDirectory | canonical | names | status | kind | mayUse | limit | parentId | processId
    | now | bindings =>
      cases h
      exact .still rfl
  | fork | exec | exit | readAll | write | flush | kill => cases h

/-- A process that is answered keeps its number. -/
theorem pid_of_answer {call : Call} {reply : call.Result}
    (h : s.answer p call = some (reply, answered, after)) : answered.pid = p.pid := by
  cases answer_cases h with
  | opened hopened => cases hopened <;> rfl
  | piped hmade =>
      obtain ⟨-, rfl, -⟩ := openPipe_ok hmade
      rfl
  | _ => rfl

/-! ## Steps -/

/-- What a process goes on with when it has read a part of everything. -/
def readOn {fd : Fd} {sofar : List Bytes} (again : Call.Result (.readAll fd sofar) → Bool)
    (next : Call.Result (.readAll fd sofar) → Prog α) : Except Errno Bytes → Prog α
  | .error errno => Process.proceed (.readAll fd sofar) again next (.error errno)
  | .ok [] => Process.proceed (.readAll fd sofar) again next (.ok sofar.reverse.flatten)
  | .ok chunk => .ask (.readAll fd (chunk :: sofar)) again next

/-- What a process goes on with when it has handed over a part of what it writes. -/
def writeOn {fd : Fd} {bytes : Bytes} (again : Call.Result (.write fd bytes) → Bool)
    (next : Call.Result (.write fd bytes) → Prog α) : Except Errno Bytes → Prog α
  | .error errno => Process.proceed (.write fd bytes) again next (.error errno)
  | .ok [] => Process.proceed (.write fd bytes) again next (.ok ())
  | .ok left => .ask (.write fd left) again next

/-- What a process does in a step, and how the machine is then. -/
inductive StepOutcome (launch : Launcher) (s : System α) (p : Process α) : System α → Prop
  | unrolled {σ β : Type} {body : σ → Prog (σ ⊕ β)} {state : σ} {next : β → Prog α} :
      p.program = .loop body state next →
      StepOutcome launch s p (s.setProcess { p with program := Prog.unroll body state next })
  | answered {call : Call} {again : call.Result → Bool} {next : call.Result → Prog α}
      {reply : call.Result} {answered : Process α} {after : System α} :
      p.program = .ask call again next → call.isSpecial = false →
      s.answer p call = some (reply, answered, after) →
      StepOutcome launch s p (after.setProcess { answered with
        program := Process.proceed call again next reply })
  | forked {again : Call.fork.Result → Bool} {next : Call.fork.Result → Prog α} :
      p.program = .ask .fork again next →
      StepOutcome launch s p { s.setProcess { p with
          program := Process.proceed .fork again next (.ok (.parent s.nextPid)) } with
        processes := (s.setProcess { p with
            program := Process.proceed .fork again next (.ok (.parent s.nextPid)) }).processes ++
          [{ p with
            pid := s.nextPid
            parent := p.pid
            signals := p.signals.forChild
            program := Process.proceed .fork again next (.ok .child) }]
        nextPid := s.nextPid + 1 }
  | became {path : Bytes} {arguments : List Bytes} {bindings : Variables} {again : Errno → Bool}
      {next : Errno → Prog α} {changed : Process α} :
      p.program = .ask (.exec path arguments bindings) again next →
      s.become launch p path arguments bindings = .ok changed →
      StepOutcome launch s p (s.setProcess { changed with
        program := .ask (.sleepUntil (s.clock + startingTime)) (fun _ => false)
          fun () => changed.program })
  | refused {path : Bytes} {arguments : List Bytes} {bindings : Variables} {again : Errno → Bool}
      {next : Errno → Prog α} {errno : Errno} :
      p.program = .ask (.exec path arguments bindings) again next →
      s.become launch p path arguments bindings = .error errno →
      StepOutcome launch s p (s.setProcess { p with
        program := Process.proceed (.exec path arguments bindings) again next errno })
  | exited {code : Int} {again : Empty → Bool} {next : Empty → Prog α} :
      p.program = .ask (.exit code) again next →
      StepOutcome launch s p (s.setProcess (p.finish (.exited (code % 256).toNat)))
  | read {fd : Fd} {sofar : List Bytes} {again : Call.Result (.readAll fd sofar) → Bool}
      {next : Call.Result (.readAll fd sofar) → Prog α} {reply : Except Errno Bytes}
      {after : System α} : p.program = .ask (.readAll fd sofar) again next →
      s.readSome p.table fd pipeCapacity = some (reply, after) →
      StepOutcome launch s p (after.setProcess { p with program := readOn again next reply })
  | wrote {fd : Fd} {bytes : Bytes} {again : Call.Result (.write fd bytes) → Bool}
      {next : Call.Result (.write fd bytes) → Prog α} {reply : Except Errno Bytes}
      {after : System α} : p.program = .ask (.write fd bytes) again next →
      s.writeSome p.table fd bytes = some (reply, after) →
      StepOutcome launch s p (after.setProcess { p with program := writeOn again next reply })
  | idle {again : Call.flush.Result → Bool} {next : Call.flush.Result → Prog α} :
      p.program = .ask .flush again next → p.pending.isEmpty = true →
      StepOutcome launch s p (s.setProcess { p with
        program := Process.proceed .flush again next (.ok ()) })
  | dropped {again : Call.flush.Result → Bool} {next : Call.flush.Result → Prog α}
      {errno : Errno} {after : System α} : p.program = .ask .flush again next →
      p.pending.isEmpty = false →
      s.writeSome p.table Fd.stdout p.pending = some (.error errno, after) →
      StepOutcome launch s p (after.setProcess { p with
        pending := []
        program := Process.proceed .flush again next (.error errno) })
  | flushed {again : Call.flush.Result → Bool} {next : Call.flush.Result → Prog α}
      {left : Bytes} {after : System α} : p.program = .ask .flush again next →
      p.pending.isEmpty = false →
      s.writeSome p.table Fd.stdout p.pending = some (.ok left, after) →
      StepOutcome launch s p (after.setProcess { p with pending := left })
  | signalled {target : Pid} {number : Signal} {again : Call.Result (.kill target number) → Bool}
      {next : Call.Result (.kill target number) → Prog α} {own : Process α} :
      p.program = .ask (.kill target number) again next →
      (s.signal target number).2.process? p.pid = some own →
      StepOutcome launch s p ((s.signal target number).2.setProcess { own with
        program := Process.proceed (.kill target number) again next (s.signal target number).1 })

/-- A step of a process comes to one of these outcomes. -/
theorem step_cases {pid : Pid} (hp : s.process? pid = some p) (hactive : p.active = true)
    (h : step launch s pid = some s') : StepOutcome launch s p s' := by
  obtain ⟨hmem, rfl⟩ := mem_of_process? hp
  cases hprogram : p.program with
  | pure value => exact absurd (h.symm.trans (step_pure hp hactive hprogram)) (by simp)
  | loop body state next =>
      cases h.symm.trans (step_loop hp hactive hprogram)
      exact .unrolled hprogram
  | ask call again next =>
      by_cases hspecial : call.isSpecial = false
      · rw [step_answered hp hactive hspecial hprogram, Option.map_eq_some_iff] at h
        obtain ⟨⟨reply, answered, after⟩, hanswer, rfl⟩ := h
        exact .answered hprogram hspecial hanswer
      · cases call with
        | fork =>
            cases h.symm.trans (step_fork hp hactive hprogram)
            exact .forked hprogram
        | exec path arguments bindings =>
            cases hbecome : s.become launch p path arguments bindings with
            | ok changed =>
                rw [step_exec hp hactive hprogram, hbecome] at h
                cases h
                exact .became hprogram hbecome
            | error errno =>
                rw [step_exec hp hactive hprogram, hbecome] at h
                cases h
                exact .refused hprogram hbecome
        | exit code =>
            cases h.symm.trans (step_exit hp hactive hprogram)
            exact .exited hprogram
        | readAll fd sofar =>
            rw [step_readAll hp hactive hprogram, Option.map_eq_some_iff] at h
            obtain ⟨⟨reply, after⟩, hread, rfl⟩ := h
            exact .read hprogram hread
        | write fd bytes =>
            rw [step_write hp hactive hprogram, Option.map_eq_some_iff] at h
            obtain ⟨⟨reply, after⟩, hwrite, rfl⟩ := h
            exact .wrote hprogram hwrite
        | flush =>
            cases hpending : p.pending.isEmpty with
            | true =>
                cases h.symm.trans (step_flush_of_isEmpty hp hactive hprogram hpending)
                exact .idle hprogram hpending
            | false =>
                rw [step_flush hp hactive hprogram hpending, Option.map_eq_some_iff] at h
                obtain ⟨⟨errno | left, after⟩, hwrite, rfl⟩ := h
                · exact .dropped hprogram hpending hwrite
                · exact .flushed hprogram hpending hwrite
        | kill target number =>
            -- nobody is gone after a signal, so the process that has sent it is there
            have hthere : ((s.signal target number).2.process? p.pid).isSome = true := by
              rw [isSome_process?, map_pid_signal]
              exact List.mem_map_of_mem hmem
            obtain ⟨own, hown⟩ := Option.isSome_iff_exists.mp hthere
            rw [step_kill hp hactive hprogram, hown] at h
            cases h
            exact .signalled hprogram hown
        | _ => exact absurd rfl hspecial

/-- What holds of what it asks and of everything behind it holds of what a reader goes on with. -/
theorem holds_readOn {good : Prog α → Prop} {fd : Fd} {sofar : List Bytes}
    {again : Call.Result (.readAll fd sofar) → Bool}
    {next : Call.Result (.readAll fd sofar) → Prog α}
    (hask : ∀ more, good (.ask (.readAll fd more) again next)) (hnext : ∀ answer, good (next answer))
    (reply : Except Errno Bytes) : good (readOn again next reply) := by
  rcases reply with errno | _ | ⟨byte, chunk⟩
  · exact holds_proceed (hask sofar) hnext _
  · exact holds_proceed (hask sofar) hnext _
  · exact hask _

theorem holds_writeOn {good : Prog α → Prop} {fd : Fd} {bytes : Bytes}
    {again : Call.Result (.write fd bytes) → Bool}
    {next : Call.Result (.write fd bytes) → Prog α}
    (hask : ∀ left, good (.ask (.write fd left) again next)) (hnext : ∀ answer, good (next answer))
    (reply : Except Errno Bytes) : good (writeOn again next reply) := by
  rcases reply with errno | _ | ⟨byte, left⟩
  · exact holds_proceed (hask bytes) hnext _
  · exact holds_proceed (hask bytes) hnext _
  · exact hask _

/-! ## What a process goes on with -/

/-- A process that opens a path goes on with what that comes to. -/
theorem step_openPath {pid : Pid} (hp : s.process? pid = some p) (hactive : p.active = true)
    (hstep : step launch s pid = some s') {path : Bytes} {access : Access} {closeOnExec : Bool}
    {again : Except Errno Fd → Bool} {next : Except Errno Fd → Prog α}
    (hprogram : p.program = .ask (.openPath path access closeOnExec) again next) :
    ∃ reply answered after, OpenOutcome s p path access closeOnExec reply answered after ∧
      s' = after.setProcess { answered with
        program := Process.proceed (.openPath path access closeOnExec) again next reply } := by
  rw [step_answered hp hactive rfl hprogram] at hstep
  exact ⟨_, _, _, openPath_cases rfl, (Option.some.inj hstep).symm⟩

section Programs

variable {pid : Pid} (hp : s.process? pid = some p) (hactive : p.active = true)
  (hstep : step launch s pid = some s') (hq : q ∈ s'.processes) (hsame : q.pid = pid)

include hp hactive hstep hq hsame

/-- A process that is answered goes on with the answer. -/
theorem program_of_answered {call : Call} {again : call.Result → Bool}
    {next : call.Result → Prog α} (hspecial : call.isSpecial = false)
    (hprogram : p.program = .ask call again next) :
    ∃ reply, q.program = Process.proceed call again next reply := by
  rw [step_answered hp hactive hspecial hprogram, Option.map_eq_some_iff] at hstep
  obtain ⟨⟨reply, answered, after⟩, hanswer, rfl⟩ := hstep
  have hpid := pid_of_answer hanswer
  rw [eq_of_own hp hq hsame hpid]
  exact ⟨reply, rfl⟩

/-- A process that writes has more of it, or goes on. -/
theorem program_of_write {fd : Fd} {bytes : Bytes}
    {again : Call.Result (.write fd bytes) → Bool} {next : Call.Result (.write fd bytes) → Prog α}
    (hprogram : p.program = .ask (.write fd bytes) again next) :
    ∃ reply, q.program = writeOn again next reply := by
  rw [step_write hp hactive hprogram, Option.map_eq_some_iff] at hstep
  obtain ⟨⟨reply, after⟩, -, rfl⟩ := hstep
  rw [eq_of_own hp hq hsame rfl]
  exact ⟨reply, rfl⟩

/-- A process that hands over what it holds back has more of it, or goes on. -/
theorem program_of_flush {again : Call.flush.Result → Bool} {next : Call.flush.Result → Prog α}
    (hprogram : p.program = .ask .flush again next) :
    q.program = p.program ∨ ∃ reply, q.program = Process.proceed .flush again next reply := by
  cases hpending : p.pending.isEmpty with
  | true =>
      cases hstep.symm.trans (step_flush_of_isEmpty hp hactive hprogram hpending)
      rw [eq_of_own hp hq hsame rfl]
      exact .inr ⟨_, rfl⟩
  | false =>
      rw [step_flush hp hactive hprogram hpending, Option.map_eq_some_iff] at hstep
      obtain ⟨⟨errno | left, after⟩, -, rfl⟩ := hstep
      · rw [eq_of_own hp hq hsame rfl]
        exact .inr ⟨_, rfl⟩
      · rw [eq_of_own hp hq hsame rfl]
        exact .inl rfl

end Programs

end LineShell.System
