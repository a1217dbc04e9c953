import LineShell.System.Machine
import LineShell.Proofs.System.Tables

/-!
# How a machine answers

One step of a machine, request by request, and what it leaves of the other processes.

* **processes** — the one with a number, and the machine in which one has changed
  (`mem_setProcess`);
* **`process?_of_step`** — only a process that is under way makes a step;
* **`step_answered`** — a request that concerns the asking process alone is answered by `answer`;
* **`step_fork`, `step_exec`, `step_exit`, …** — the other requests.
-/

namespace LineShell

/-- The request is answered step by step, or by more than the asking process. -/
def Call.isSpecial : Call → Bool
  | .fork | .exec .. | .exit _ | .readAll .. | .write .. | .flush | .kill .. => true
  | _ => false

namespace System

variable {α : Type} {launch : Launcher} {s s' : System α} {pid : Pid} {p q changed : Process α}

/-- What stands in a list to which one has been added stood there before, or is that one. -/
theorem getElem?_concat_cases {β : Type} {values : List β} {last value : β} {place : Nat}
    (h : (values ++ [last])[place]? = some value) :
    values[place]? = some value ∨ place = values.length ∧ last = value := by
  rcases Nat.lt_or_ge place values.length with hlt | hge
  · rw [List.getElem?_append_left hlt] at h
    exact .inl h
  · rw [List.getElem?_append_right hge, List.getElem?_singleton] at h
    split at h
    · exact .inr ⟨by omega, Option.some.inj h⟩
    · cases h

/-! ## Processes -/

theorem mem_of_process? (h : s.process? pid = some p) : p ∈ s.processes ∧ p.pid = pid := by
  unfold process? at h
  exact ⟨List.mem_of_find?_eq_some h, by simpa using List.find?_some h⟩

@[simp] theorem setProcess_pipes : (s.setProcess changed).pipes = s.pipes := rfl

@[simp] theorem setProcess_nextPid : (s.setProcess changed).nextPid = s.nextPid := rfl

theorem map_pid_setProcess :
    (s.setProcess changed).processes.map Process.pid = s.processes.map Process.pid := by
  unfold setProcess
  simp only [List.map_map]
  refine List.map_congr_left fun process _ => ?_
  by_cases h : process.pid = changed.pid <;> simp [h]

/-- Among the processes of a machine in which one has changed are that one and the others. -/
theorem mem_setProcess : q ∈ (s.setProcess changed).processes ↔
    (q = changed ∧ ∃ old ∈ s.processes, old.pid = changed.pid) ∨
      (q ∈ s.processes ∧ q.pid ≠ changed.pid) := by
  unfold setProcess
  simp only [List.mem_map, beq_iff_eq]
  constructor
  · rintro ⟨old, hold, hq⟩
    split at hq
    · rename_i heq
      exact .inl ⟨hq.symm, old, hold, heq⟩
    · rename_i hne
      exact .inr ⟨hq ▸ hold, hq ▸ hne⟩
  · rintro (⟨rfl, old, hold, heq⟩ | ⟨hq, hne⟩)
    · exact ⟨old, hold, if_pos heq⟩
    · exact ⟨q, hq, if_neg hne⟩

/-- The process that has changed is the only one with its number. -/
theorem eq_of_mem_setProcess (hq : q ∈ (s.setProcess changed).processes)
    (hpid : q.pid = changed.pid) : q = changed := by
  rcases mem_setProcess.mp hq with ⟨rfl, -⟩ | ⟨-, hne⟩
  · rfl
  · exact absurd hpid hne

theorem eq_of_own {after : System α} (hp : s.process? pid = some p)
    (hq : q ∈ (after.setProcess changed).processes) (hsame : q.pid = pid)
    (hchanged : changed.pid = p.pid) : q = changed :=
  eq_of_mem_setProcess hq (hsame.trans ((mem_of_process? hp).2.symm.trans hchanged.symm))

/-- No two processes have the same number. -/
def Distinct (s : System α) : Prop := (s.processes.map Process.pid).Nodup

/-- The process with the number of a process is that process. -/
theorem Distinct.process?_of_mem (h : s.Distinct) (hp : p ∈ s.processes) :
    s.process? p.pid = some p := by
  unfold Distinct at h
  unfold process?
  generalize s.processes = processes at h hp
  induction processes with
  | nil => exact absurd hp List.not_mem_nil
  | cons first rest ih =>
      rw [List.map_cons, List.nodup_cons] at h
      rw [List.find?_cons]
      rcases List.mem_cons.mp hp with rfl | hp
      · simp
      · have hne : first.pid ≠ p.pid := fun heq => h.1 (heq ▸ List.mem_map_of_mem hp)
        rw [beq_false_of_ne hne]
        exact ih h.2 hp

theorem Distinct.eq_of_pid (h : s.Distinct) (hp : p ∈ s.processes)
    (hq : q ∈ s.processes) (hpid : q.pid = p.pid) : q = p := by
  have hfound := h.process?_of_mem hq
  rw [hpid, h.process?_of_mem hp] at hfound
  exact (Option.some.inj hfound).symm

theorem Distinct.process?_of_pid (h : s.Distinct) (hp : p ∈ s.processes) (hpid : p.pid = pid) :
    s.process? pid = some p :=
  hpid ▸ h.process?_of_mem hp

/-- Nobody else has the number under which a process is found. -/
theorem Distinct.eq_of_process? (h : s.Distinct) (hp : s.process? pid = some p)
    (hq : q ∈ s.processes) (hpid : q.pid = pid) : q = p := by
  obtain ⟨hmem, hsame⟩ := mem_of_process? hp
  exact h.eq_of_pid hmem hq (hpid.trans hsame.symm)

/-- What stands in for a process is there. -/
theorem mem_setProcess_self (hp : p ∈ s.processes) (hpid : changed.pid = p.pid) :
    changed ∈ (s.setProcess changed).processes :=
  mem_setProcess.mpr (.inl ⟨rfl, p, hp, hpid.symm⟩)

theorem Distinct.setProcess (h : s.Distinct) : (s.setProcess changed).Distinct := by
  unfold Distinct
  rw [map_pid_setProcess]
  exact h

/-- Processes have different numbers below the next one, tables are in order and lead to what there
is, and a process that has ended has no open files. -/
structure Sound (s : System α) : Prop where
  distinct : s.Distinct
  numbered : ∀ p ∈ s.processes, p.pid < s.nextPid
  ordered : ∀ p ∈ s.processes, p.table.Ordered
  ended : ∀ p ∈ s.processes, p.ending.isSome = true → p.table = []
  pipes : ∀ p ∈ s.processes, ∀ entry ∈ p.table, ∀ pipe,
    entry.2.handle.endpoint = .pipeReader pipe ∨ entry.2.handle.endpoint = .pipeWriter pipe →
      pipe < s.pipes.length
  nodes : ∀ p ∈ s.processes, ∀ entry ∈ p.table, ∀ id,
    entry.2.handle.endpoint = .node id → id < s.files.nodes.length
  cells : ∀ p ∈ s.processes, ∀ entry ∈ p.table, entry.2.handle.cell < s.cells.length

/-- A machine is sound in which one process has nothing open but the terminal. -/
theorem Sound.of_terminal (hprocesses : s.processes = [p]) (hpid : p.pid < s.nextPid)
    (hordered : p.table.Ordered) (hending : p.ending = none)
    (htable : ∀ entry ∈ p.table,
      entry.2.handle.endpoint = .terminal ∧ entry.2.handle.cell < s.cells.length) : s.Sound := by
  have honly : ∀ q ∈ s.processes, q = p := fun q hq => by simpa [hprocesses] using hq
  refine ⟨?_, fun q hq => honly q hq ▸ hpid, fun q hq => honly q hq ▸ hordered, ?_, ?_, ?_, ?_⟩
  · unfold Distinct
    rw [hprocesses]
    exact List.pairwise_singleton _ _
  · intro q hq hended
    rw [honly q hq, hending] at hended
    exact absurd hended (by simp)
  · intro q hq entry hentry pipe hend
    rw [(htable entry (honly q hq ▸ hentry)).1] at hend
    exact absurd hend (by simp)
  · intro q hq entry hentry id hend
    rw [(htable entry (honly q hq ▸ hentry)).1] at hend
    exact absurd hend (by simp)
  · exact fun q hq entry hentry => (htable entry (honly q hq ▸ hentry)).2

/-! ## Steps -/

theorem ending_of_active (h : p.active = true) : p.ending = none := by
  simp only [Process.active, Process.alive, Bool.and_eq_true] at h
  simpa using h.1

/-- An answered process asks once more, or goes on from the answer. -/
theorem holds_proceed {good : Prog α → Prop} {call : Call} {again : call.Result → Bool}
    {next : call.Result → Prog α} (hask : good (.ask call again next))
    (hnext : ∀ answer, good (next answer)) (answer : call.Result) :
    good (Process.proceed call again next answer) := by
  unfold Process.proceed
  split
  · exact hask
  · exact hnext answer

/-- Only a process that is under way makes a step. -/
theorem process?_of_step (h : step launch s pid = some s') :
    ∃ p, s.process? pid = some p ∧ p.active = true := by
  unfold step at h
  cases hp : s.process? pid with
  | none => exact absurd h (by simp [hp])
  | some p =>
      refine ⟨p, rfl, ?_⟩
      by_contra hactive
      simp [hp, hactive] at h

variable (hp : s.process? pid = some p) (hactive : p.active = true)

include hp hactive in
/-- A request that concerns the asking process alone is answered, and the process goes on. -/
theorem step_answered {call : Call} {again : call.Result → Bool} {next : call.Result → Prog α}
    (hcall : call.isSpecial = false) (hprogram : p.program = .ask call again next) :
    step launch s pid = (s.answer p call).map fun answered =>
      answered.2.2.setProcess { answered.2.1 with
        program := Process.proceed call again next answered.1 } := by
  unfold step
  simp only [hp, hactive, Bool.not_true, Bool.false_eq_true, if_false, hprogram]
  cases call <;> first | rfl | exact absurd hcall (by simp [Call.isSpecial])

include hp hactive in
/-- A process that gives up a number goes on, whether the number stood for something or not. -/
theorem step_close {fd : Fd} {rest : Prog α}
    (hprogram : p.program = .ask (.close fd) (fun _ => false) fun _ => rest) :
    step launch s pid = some (s.setProcess { p with
      table := p.table.erase fd
      program := rest }) := by
  rw [step_answered hp hactive rfl hprogram]
  cases hget : p.table.get? fd with
  | none =>
      simp only [answer, hget, Option.map_some, Table.erase_of_get?_eq_none hget]
      rfl
  | some descriptor =>
      simp only [answer, hget, Option.map_some]
      rfl

include hp hactive in
/-- A process goes on when a number has been made to stand for what another one stands for. -/
theorem step_duplicate {source target : Fd} {rest : Except Errno Unit → Prog α}
    (hprogram : p.program = .ask (.duplicate source target) (fun _ => false) rest) :
    step launch s pid = some (s.setProcess { (duplicate p source target).2 with
      program := rest (duplicate p source target).1 }) := by
  rw [step_answered hp hactive rfl hprogram]
  rfl

include hp hactive in
theorem step_pure {value : α} (hprogram : p.program = .pure value) : step launch s pid = none := by
  unfold step
  simp only [hp, hactive, Bool.not_true, Bool.false_eq_true, if_false, hprogram]

include hp hactive in
/-- A fork makes a copy of the process under the next number. -/
theorem step_fork {again : Call.Result .fork → Bool} {next : Call.Result .fork → Prog α}
    (hprogram : p.program = .ask .fork again next) :
    step launch s pid = some { s.setProcess { p with
        program := Process.proceed .fork again next (.ok (.parent s.nextPid)) } with
      processes := (s.setProcess { p with
          program := Process.proceed .fork again next (.ok (.parent s.nextPid)) }).processes ++
        [{ p with
          pid := s.nextPid
          parent := pid
          signals := p.signals.forChild
          program := Process.proceed .fork again next (.ok .child) }]
      nextPid := s.nextPid + 1 } := by
  unfold step
  simp only [hp, hactive, Bool.not_true, Bool.false_eq_true, if_false, hprogram]

include hp hactive in
/-- A process becomes another program, which takes its time, or goes on as what it was. -/
theorem step_exec {path : Bytes} {arguments : List Bytes} {bindings : Variables}
    {again : Errno → Bool} {next : Errno → Prog α}
    (hprogram : p.program = .ask (.exec path arguments bindings) again next) :
    step launch s pid = some (match s.become launch p path arguments bindings with
      | .ok changed => s.setProcess { changed with
          program := .ask (.sleepUntil (s.clock + startingTime)) (fun _ => false)
            fun () => changed.program }
      | .error errno => s.setProcess { p with
          program := Process.proceed (.exec path arguments bindings) again next errno }) := by
  unfold step
  simp only [hp, hactive, Bool.not_true, Bool.false_eq_true, if_false, hprogram]
  split <;> simp_all

/-- What a process becomes, when it asks to become a program and the system lets it. -/
def successor? (launch : Launcher) (s : System α) (pid : Pid) : Option (Process α) :=
  match s.process? pid with
  | none => none
  | some p =>
      match p.program with
      | .ask (.exec path arguments bindings) _ _ =>
          (s.become launch p path arguments bindings).toOption
      | _ => none

/-- A process that becomes a program keeps its number, and the files that are not closed then. -/
theorem become_ok {path : Bytes} {arguments : List Bytes} {bindings : Variables}
    (h : s.become launch p path arguments bindings = .ok changed) :
    changed.pid = p.pid ∧ changed.ending = p.ending ∧ changed.table = p.table.afterExec := by
  unfold become at h
  split at h
  · exact absurd h (by simp)
  · split at h
    · exact absurd h (by simp)
    · cases h
      exact ⟨rfl, rfl, rfl⟩

/-- What is loaded is what a file is launched as. -/
theorem launched_of_load {directory : NodeId} {depth : Nat} {path : Bytes} {arguments : List Bytes}
    {program : Prog Empty} (h : load launch s directory depth path arguments = .ok program) :
    ∃ bytes given, launch bytes given = some program := by
  induction depth generalizing path arguments with
  | zero => exact absurd h (by simp [load])
  | succ depth ih =>
      unfold load at h
      split at h
      · exact absurd h (by simp)
      · split at h
        · exact absurd h (by simp)
        · exact ih h
        · split at h
          · rename_i hlaunch
            cases h
            exact ⟨_, _, hlaunch⟩
          · exact absurd h (by simp)

/-- What a process becomes is what a file is launched as. -/
theorem successor?_launched (h : successor? launch s pid = some changed) :
    ∃ bytes given program, launch bytes given = some program ∧
      changed.program = program.bind fun never => nomatch never := by
  unfold successor? at h
  split at h
  · exact absurd h (by simp)
  · split at h
    · rename_i path arguments bindings _ _ _
      unfold become at h
      split at h
      · exact absurd h (by simp [Except.toOption])
      · split at h
        · exact absurd h (by simp [Except.toOption])
        · rename_i program hload
          cases h
          obtain ⟨bytes, given, hlaunch⟩ := launched_of_load hload
          exact ⟨bytes, given, program, hlaunch, rfl⟩
    · exact absurd h (by simp)

include hp hactive in
theorem step_exit {code : Int} {again : Empty → Bool} {next : Empty → Prog α}
    (hprogram : p.program = .ask (.exit code) again next) :
    step launch s pid = some (s.setProcess (p.finish (.exited (code % 256).toNat))) := by
  unfold step
  simp only [hp, hactive, Bool.not_true, Bool.false_eq_true, if_false, hprogram]

include hp hactive in
/-- A process that reads everything gets a part of it, and has read everything when the part is
empty. -/
theorem step_readAll {fd : Fd} {sofar : List Bytes}
    {again : Call.Result (.readAll fd sofar) → Bool}
    {next : Call.Result (.readAll fd sofar) → Prog α}
    (hprogram : p.program = .ask (.readAll fd sofar) again next) :
    step launch s pid = (s.readSome p.table fd pipeCapacity).map fun answered =>
      answered.2.setProcess { p with program :=
        match answered.1 with
        | .error errno => Process.proceed (.readAll fd sofar) again next (.error errno)
        | .ok [] => Process.proceed (.readAll fd sofar) again next (.ok sofar.reverse.flatten)
        | .ok chunk => .ask (.readAll fd (chunk :: sofar)) again next } := by
  cases hread : s.readSome p.table fd pipeCapacity with
  | none => simp [step, hp, hactive, hprogram, hread]
  | some answered =>
      rcases answered with ⟨errno | _ | _, after⟩ <;> simp [step, hp, hactive, hprogram, hread]

include hp hactive in
/-- A process that writes hands on a part of its bytes, and goes on when none are left. -/
theorem step_write {fd : Fd} {bytes : Bytes} {again : Call.Result (.write fd bytes) → Bool}
    {next : Call.Result (.write fd bytes) → Prog α}
    (hprogram : p.program = .ask (.write fd bytes) again next) :
    step launch s pid = (s.writeSome p.table fd bytes).map fun answered =>
      answered.2.setProcess { p with program :=
        match answered.1 with
        | .error errno => Process.proceed (.write fd bytes) again next (.error errno)
        | .ok [] => Process.proceed (.write fd bytes) again next (.ok ())
        | .ok left => .ask (.write fd left) again next } := by
  cases hwrite : s.writeSome p.table fd bytes with
  | none => simp [step, hp, hactive, hprogram, hwrite]
  | some answered =>
      rcases answered with ⟨errno | _ | _, after⟩ <;> simp [step, hp, hactive, hprogram, hwrite]

include hp hactive in
/-- A process that holds nothing back has nothing to write. -/
theorem step_flush_of_isEmpty {again : Call.Result .flush → Bool}
    {next : Call.Result .flush → Prog α} (hprogram : p.program = .ask .flush again next)
    (hpending : p.pending.isEmpty = true) :
    step launch s pid = some (s.setProcess { p with
      program := Process.proceed .flush again next (.ok ()) }) := by
  unfold step
  simp only [hp, hactive, Bool.not_true, Bool.false_eq_true, if_false, hprogram, hpending, if_true]

include hp hactive in
/-- A process writes what it holds back to its standard output. -/
theorem step_flush {again : Call.Result .flush → Bool} {next : Call.Result .flush → Prog α}
    (hprogram : p.program = .ask .flush again next) (hpending : p.pending.isEmpty = false) :
    step launch s pid = (s.writeSome p.table Fd.stdout p.pending).map fun answered =>
      answered.2.setProcess (match answered.1 with
        | .error errno => { p with
            pending := []
            program := Process.proceed .flush again next (.error errno) }
        | .ok left => { p with pending := left }) := by
  cases hwrite : s.writeSome p.table Fd.stdout p.pending with
  | none => simp [step, hp, hactive, hprogram, hpending, hwrite]
  | some answered =>
      rcases answered with ⟨errno | left, after⟩ <;>
        simp [step, hp, hactive, hprogram, hpending, hwrite]

include hp hactive in
theorem step_kill {target : Pid} {number : Signal}
    {again : Call.Result (.kill target number) → Bool}
    {next : Call.Result (.kill target number) → Prog α}
    (hprogram : p.program = .ask (.kill target number) again next) :
    step launch s pid = (match (s.signal target number).2.process? pid with
      | none => some (s.signal target number).2
      | some after => some ((s.signal target number).2.setProcess { after with
          program := Process.proceed (.kill target number) again next
            (s.signal target number).1 })) := by
  cases hthere : (s.signal target number).2.process? pid with
  | none => simp [step, hp, hactive, hprogram, hthere]
  | some after => simp [step, hp, hactive, hprogram, hthere]

include hp hactive in
theorem step_loop {σ β : Type} {body : σ → Prog (σ ⊕ β)} {state : σ} {next : β → Prog α}
    (hprogram : p.program = .loop body state next) :
    step launch s pid = some (s.setProcess { p with program := Prog.unroll body state next }) := by
  unfold step
  simp only [hp, hactive, Bool.not_true, Bool.false_eq_true, if_false, hprogram]

/-- A number that is to stand for what another one stands for does so from then on, unless that is
refused. -/
theorem duplicate_cases (source target : Fd) :
    (∃ errno, duplicate p source target = (.error errno, p)) ∨
      ∃ descriptor, p.table.get? source = some descriptor ∧
        (source = target ∧ duplicate p source target = (.ok (), p) ∨
          duplicate p source target = (.ok (), { p with
            table := p.table.set target ⟨descriptor.handle, false⟩ })) := by
  unfold duplicate
  cases hget : p.table.get? source with
  | none => exact .inl ⟨_, rfl⟩
  | some descriptor =>
      dsimp only
      split
      · exact .inl ⟨_, rfl⟩
      · refine .inr ⟨descriptor, rfl, ?_⟩
        split
        · rename_i heq
          exact .inl ⟨heq, rfl⟩
        · exact .inr rfl

/-- Nothing but the table of a process changes with what its numbers stand for. -/
theorem duplicate_rest (source target : Fd) :
    (duplicate p source target).2.pid = p.pid ∧
      (duplicate p source target).2.ending = p.ending := by
  rcases duplicate_cases source target (p := p) with ⟨errno, hdup⟩ |
    ⟨descriptor, -, ⟨-, hdup⟩ | hdup⟩
  all_goals exact hdup ▸ ⟨rfl, rfl⟩

/-! ## Opening files -/

theorem openPipe_error {errno : Errno} {answered : Process α} {after : System α}
    (h : s.openPipe p = (.error errno, answered, after)) : answered = p ∧ after = s := by
  unfold openPipe at h
  dsimp only at h
  split at h <;> cases h
  exact ⟨rfl, rfl⟩

/-- The ends of a new pipe stand under the two least free numbers. -/
theorem openPipe_ok {ends : Fd × Fd} {answered : Process α} {after : System α}
    (h : s.openPipe p = (.ok ends, answered, after)) :
    ends = (p.table.free, Table.freeFrom (p.table.free + 1) p.table) ∧
      answered = { p with table := ((p.table.set ends.1
          ⟨⟨.pipeReader s.pipes.length, { read := true }, s.cells.length⟩, true⟩).set ends.2
          ⟨⟨.pipeWriter s.pipes.length, { write := true }, (s.cells ++ [0]).length⟩, true⟩) } ∧
      after = { s with pipes := s.pipes ++ [[]], cells := s.cells ++ [0] ++ [0] } := by
  unfold openPipe at h
  dsimp only at h
  split at h <;> cases h
  exact ⟨rfl, rfl, rfl⟩

/-- A path that is not that of an open file is opened as a node. -/
theorem endpointAt_of_ownFile? {path : Bytes} {access : Access} {endpoint : Endpoint} {files : Files}
    (hown : ownFile? path = none) (h : s.endpointAt p path access = .ok (endpoint, files)) :
    ∃ id, s.files.openPath p.directory path access p.mask = .ok (id, files) ∧ endpoint = .node id := by
  unfold endpointAt at h
  rw [hown] at h
  cases hopen : s.files.openPath p.directory path access p.mask with
  | error errno => exact absurd h (by simp [hopen, bind, Except.bind])
  | ok opened =>
      simp only [hopen, bind, Except.bind] at h
      split at h
      · exact absurd h (by simp [throw, throwThe, MonadExceptOf.throw])
      · cases h
        exact ⟨_, rfl, rfl⟩

/-- What a path is opened as is a node, the terminal, or an end of a pipe that the process holds an
end of. -/
theorem endpointAt_ok {path : Bytes} {access : Access} {endpoint : Endpoint} {files : Files}
    (h : s.endpointAt p path access = .ok (endpoint, files)) :
    (∃ id, endpoint = .node id) ∨ endpoint = .terminal ∨ ∃ entry ∈ p.table, ∃ pipe,
      (entry.2.handle.endpoint = .pipeReader pipe ∨ entry.2.handle.endpoint = .pipeWriter pipe) ∧
        (endpoint = .pipeReader pipe ∨ endpoint = .pipeWriter pipe) := by
  cases hown : ownFile? path with
  | none =>
      obtain ⟨id, -, rfl⟩ := endpointAt_of_ownFile? hown h
      exact .inl ⟨id, rfl⟩
  | some fd =>
      unfold endpointAt at h
      rw [hown] at h
      dsimp only at h
      split at h
      · exact absurd h (by simp [throw, throwThe, MonadExceptOf.throw])
      · rename_i descriptor hget
        have hmem := Table.mem_of_get? hget
        unfold reopen at h
        split at h
        · cases h
          exact .inr (.inl rfl)
        · rename_i pipe hpipe
          refine .inr (.inr ⟨_, hmem, pipe, .inl hpipe, ?_⟩)
          cases h
          split
          · exact .inl rfl
          · exact .inr rfl
        · rename_i pipe hpipe
          refine .inr (.inr ⟨_, hmem, pipe, .inr hpipe, ?_⟩)
          cases h
          split
          · exact .inl rfl
          · exact .inr rfl
        · split at h
          · exact absurd h (by simp)
          · split at h
            · exact absurd h (by simp)
            · split at h
              · exact absurd h (by simp)
              · cases h
                exact .inl ⟨_, rfl⟩

end System

end LineShell
