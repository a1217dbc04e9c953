import LineShell.Proofs.Pipeline.LineCourse
import LineShell.Proofs.System.Streams

/-!
# Lines of filters

A shell runs a line whose programs are filters: each reads its standard input to the end, writes
what it makes of that to its standard output, and exits.

* **`Filter`** — such a program; **`through`** is what filters make of an input one after the other;
* **`Run`** — the states that are reached, which processes have become their filters by then, and
  what the stages have handed over (`Delivery`);
* **`Lost`, `Doomed`** — a shell that will not say that the line has been run, and a stage that
  will not become its filter, stay so in every step.
-/

namespace LineShell.Dataflow

open LineShell.System LineShell.Course Prog

/-! ## Filters -/

/-- A program that reads its standard input to the end, writes what it makes of that to its
standard output, and exits. -/
structure Filter where
  /-- What it makes of its input. -/
  convert : Bytes → Bytes
  /-- The code it exits with. -/
  code : Int

/-- What a filter does once it has its input. -/
def Filter.answering (filter : Filter) : Except Errno Bytes → Prog Empty
  | .ok input => (Prog.write Fd.stdout (filter.convert input)).bind fun _ => Prog.exit filter.code
  | .error _ => Prog.exit filter.code

/-- The program of a filter. -/
def Filter.program (filter : Filter) : Prog Empty := (Prog.readAll Fd.stdin).bind filter.answering

/-- What is left of an input behind so many filters. -/
def through (filters : Nat → Filter) (input : Bytes) : Nat → Bytes
  | 0 => input
  | count + 1 => (filters count).convert (through filters input count)

/-! ## Runs -/

/-- Bytes that a process has handed over to an open file. -/
structure Delivery where
  /-- The process. -/
  pid : Pid
  /-- The open file. -/
  handle : Handle
  /-- The bytes. -/
  bytes : Bytes

/-- What a process is about to write, and under which number. -/
def outgoing? {α : Type} (p : Process α) : Option (Fd × Bytes) :=
  match p.program.request? with
  | some (.write fd bytes) => some (fd, bytes)
  | some .flush => some (Fd.stdout, p.pending)
  | _ => none

/-- What a process hands over in its next step. -/
def delivered {α : Type} (s : System α) (pid : Pid) : List Delivery :=
  match s.process? pid with
  | none => []
  | some p =>
      match outgoing? p with
      | none => []
      | some (fd, bytes) =>
          match p.table.get? fd, s.writeSome p.table fd bytes with
          | some descriptor, some (.ok left, _) =>
              [⟨pid, descriptor.handle, bytes.take (bytes.length - left.length)⟩]
          | _, _ => []

theorem delivered_eq_nil {α : Type} {s : System α} {pid : Pid} {p : Process α}
    (hp : s.process? pid = some p) (h : outgoing? p = none) : delivered s pid = [] := by
  unfold delivered
  simp only [hp, h]

/-- Only a process that writes hands something over. -/
theorem delivered_eq_nil_of_ask {α : Type} {s : System α} {pid : Pid} {p : Process α}
    (hp : s.process? pid = some p) {call : Call} {again : call.Result → Bool}
    {next : call.Result → Prog α} (hprogram : p.program = .ask call again next)
    (hflush : call ≠ .flush) (hwrite : ∀ fd bytes, call ≠ .write fd bytes) :
    delivered s pid = [] := by
  refine delivered_eq_nil hp ?_
  unfold outgoing?
  rw [hprogram]
  cases call <;> first
    | rfl
    | exact absurd rfl hflush
    | exact absurd rfl (hwrite _ _)

/-- What a process writes at once is handed over. -/
theorem delivered_of_write {α : Type} {s after : System α} {pid : Pid} {p : Process α}
    (hp : s.process? pid = some p) {fd : Fd} {chunk left : Bytes} {again next}
    (hprogram : p.program = .ask (.write fd (chunk ++ left)) again next) {handle : Handle}
    {closing : Bool} (hget : p.table.get? fd = some ⟨handle, closing⟩)
    (hwrite : s.writeSome p.table fd (chunk ++ left) = some (.ok left, after)) :
    delivered s pid = [⟨pid, handle, chunk⟩] := by
  have hout : outgoing? p = some (fd, chunk ++ left) := by
    unfold outgoing?
    rw [hprogram]
    rfl
  unfold delivered
  simp [hp, hout, hget, hwrite]

/-- All that a process has handed over, in this order. -/
def received (log : List Delivery) (pid : Pid) : Bytes :=
  (log.filter fun delivery => delivery.pid == pid).flatMap Delivery.bytes

/-- The states that are reached from a first one, in which time passes, the shell makes steps and
the processes that it has started make steps, in any order. With them stand the processes that
have become other programs, and what the stages have handed over. What the process of a stage
becomes is the filter of the stage. -/
inductive Run (launch : Launcher) (filters : Nat → Filter) (shell : Pid) (start : System Answer) :
    List Pid → List Delivery → System Answer → Prop
  | start : Run launch filters shell start [] [] start
  | tick {became log s} (time : Nat) : Run launch filters shell start became log s →
      Run launch filters shell start became log (s.setClock time)
  | shell {became log s s'} : Run launch filters shell start became log s →
      step launch s shell = some s' → Run launch filters shell start became log s'
  | stage {became log s s' stage} : Run launch filters shell start became log s →
      (∀ changed, successor? launch s (start.nextPid + stage) = some changed →
        changed.program = (filters stage).program.bind fun never => nomatch never) →
      step launch s (start.nextPid + stage) = some s' →
      Run launch filters shell start
        (if (successor? launch s (start.nextPid + stage)).isSome
          then (start.nextPid + stage) :: became else became)
        (log ++ delivered s (start.nextPid + stage)) s'

/-! ## What comes to nothing -/

variable {launch : Launcher} {s s' after : System Answer} {pid shell origin : Pid}
  {became : List Pid} {stage : Nat} {p q : Process Answer}

/-- The numbers of processes are different, and below the next one. -/
structure Numbered (s : System Answer) : Prop where
  distinct : s.Distinct
  below : ∀ p ∈ s.processes, p.pid < s.nextPid

theorem Numbered.step (h : Numbered s) (hstep : step launch s pid = some s') : Numbered s' :=
  have hkeeps := step_keeps h.distinct h.below hstep
  ⟨hkeeps.distinct, hkeeps.numbered⟩

/-- The shell will not say that the line has been run. -/
def Lost (shell : Pid) (s : System Answer) : Prop :=
  shell < s.nextPid ∧ ∀ p ∈ s.processes, p.pid = shell → Forsaken p.program

/-- What is in the way of a process that makes a step stays there. -/
theorem Lost.other (h : Lost shell s) (hnumbered : Numbered s) (hne : pid ≠ shell)
    (hstep : step launch s pid = some s') : Lost shell s' := by
  have hkeeps := step_keeps hnumbered.distinct hnumbered.below hstep
  refine ⟨Nat.lt_of_lt_of_le h.1 hkeeps.next, fun q hq hpid => ?_⟩
  rcases hkeeps.others q hq (hpid ▸ Ne.symm hne) with hnew | ⟨old, hold, hkept⟩
  · exact absurd h.1 (Nat.not_lt_of_le (hpid ▸ hnew))
  · exact hkept.program ▸ h.2 old hold (hkept.pid ▸ hpid)

/-- A shell that has left the way stays off it. -/
theorem Lost.own (h : Lost shell s) (hnumbered : Numbered s)
    (hstep : step launch s shell = some s') : Lost shell s' := by
  obtain ⟨p, hp, hactive⟩ := process?_of_step hstep
  obtain ⟨hmem, hpid⟩ := mem_of_process? hp
  have hkeeps := step_keeps hnumbered.distinct hnumbered.below hstep
  refine ⟨Nat.lt_of_lt_of_le h.1 hkeeps.next, ?_⟩
  have hforsaken := h.2 p hmem hpid
  cases hprogram : p.program with
  | pure value => exact absurd (hstep.symm.trans (step_pure hp hactive hprogram)) (by simp)
  | loop body state next =>
      rw [hprogram] at hforsaken
      cases hforsaken
  | ask call again next =>
      rw [hprogram] at hforsaken
      cases hforsaken with
      | @close fd _ _ hnext =>
          intro q hq hsame
          obtain ⟨reply, heq⟩ := program_of_answered hp hactive hstep hq hsame rfl hprogram
          exact heq ▸ holds_proceed (.close hnext) hnext reply
      | @write fd bytes _ _ hnext =>
          intro q hq hsame
          obtain ⟨reply, heq⟩ := program_of_write hp hactive hstep hq hsame hprogram
          exact heq ▸ holds_writeOn (fun _ => .write hnext) hnext reply

/-- The process of a stage has been started, has not become its filter and will not become it. -/
structure Doomed (origin : Pid) (became : List Pid) (s : System Answer) (stage : Nat) : Prop where
  started : origin + stage < s.nextPid
  never : origin + stage ∉ became
  giving : ∀ p ∈ s.processes, p.pid = origin + stage → p.ending = none → Asks IsGivingUp p.program

/-- A stage that will not become its filter stays so, whoever makes a step. -/
theorem Doomed.step (h : Doomed origin became s stage) (hnumbered : Numbered s)
    (hstep : step launch s pid = some s') :
    Doomed origin (if (successor? launch s pid).isSome then pid :: became else became) s' stage := by
  have hkeeps := step_keeps hnumbered.distinct hnumbered.below hstep
  have hstarted := Nat.lt_of_lt_of_le h.started hkeeps.next
  by_cases hpid : pid = origin + stage
  · subst hpid
    obtain ⟨p, hp, hactive⟩ := process?_of_step hstep
    obtain ⟨hmem, hpid⟩ := mem_of_process? hp
    have hasks := h.giving p hmem hpid (ending_of_active hactive)
    have hnone : (successor? launch s (origin + stage)).isSome = false := by
      rw [successor?_eq_none hp fun path arguments bindings hrequest => hasks.of_request? hrequest]
      rfl
    rw [hnone]
    refine ⟨hstarted, h.never, ?_⟩
    refine (asks_step (fun call hcall => ?_) (fun _ _ _ h => h) (fun _ _ _ h => h) hp hactive hasks
      hstep).resolve_left (by simp [hnone])
    cases call <;> first | exact absurd hcall id | exact ⟨rfl, by simp⟩
  · refine ⟨hstarted, fun hin => ?_, fun q hq hsame halive => ?_⟩
    · split at hin
      · exact (List.mem_cons.mp hin).elim (fun heq => hpid heq.symm) h.never
      · exact h.never hin
    · rcases hkeeps.others q hq (hsame ▸ Ne.symm hpid) with hnew | ⟨old, hold, hkept⟩
      · exact absurd h.started (Nat.not_lt_of_le (hsame ▸ hnew))
      · have hending := (hkept.of_alive halive).2
        exact hkept.program ▸ h.giving old hold (hkept.pid ▸ hsame) (hending ▸ halive)

end LineShell.Dataflow
