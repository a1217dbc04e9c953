import LineShell.Proofs.Pipeline.Course
import LineShell.Proofs.System.Landings
import LineShell.Shell.Redirection
import Mathlib.Logic.Relation

/-!
# Errands

A process that opens the files of redirections one after the other, to try them or to write a text
to them.

* **`Errand`** — one target, which is tried or given a text; `Errand.runAll` does several;
* **`Errand.effect?`** — what an errand comes to, read off the files and the pipes;
* **`Carried`** — what errands come to one after the other;
* **`comes_iff_carried`** — a process that does its errands and nothing else comes to that.
-/

namespace LineShell.Errands

open LineShell.System LineShell.Course

/-! ## Errands -/

/-- A target that is tried, or to which a text is written. -/
structure Errand where
  target : Target
  /-- The text to be written, unless the target is only tried. -/
  text? : Option String

/-- What an errand comes to. -/
inductive Outcome where
  /-- The target has been tried. -/
  | tried (result : Except LineFault Unit)
  /-- A text was to be written to the target. -/
  | written (result : Except OpenFailure Unit)

/-- The errand has succeeded. -/
def Outcome.ok : Outcome → Bool
  | .tried (.ok ()) | .written (.ok ()) => true
  | _ => false

namespace Errand

/-- The bytes to be written; for a trial there are none. -/
def bytes (errand : Errand) : Bytes := Text.bytesOf (errand.text?.getD "")

/-- What is said of an errand when it is done, or when it cannot be done. -/
def answer (errand : Errand) (result : Except OpenFailure Unit) : Outcome :=
  match errand.text? with
  | none => .tried (result.mapError fun _ => .cannotOpenFile)
  | some _ => .written result

/-- Does the errand. -/
def run (errand : Errand) : Prog Outcome :=
  match errand.text? with
  | none => do return .tried (← errand.target.preflight)
  | some text => do return .written (← errand.target.deposit text)

/-- Does one errand after the other. -/
def runAll : List Errand → Prog (List Outcome)
  | [] => pure []
  | errand :: rest => do
      let outcome ← errand.run
      let outcomes ← runAll rest
      return outcome :: outcomes

/-- What the process does when nothing is left to be written. -/
def closing {α : Type} (errand : Errand) (next : Outcome → Prog α) (fd : Fd)
    (written : Except Errno Unit) : Prog α :=
  .ask (.close fd) (fun _ => false) fun _ => next (errand.answer (written.mapError .system))

/-- What the process does when it has asked for the target to be opened. -/
def landing {α : Type} (errand : Errand) (next : Outcome → Prog α) : Except Errno Fd → Prog α
  | .error errno => next (errand.answer (.error (.system errno)))
  | .ok fd =>
      if errand.bytes = [] then errand.closing next fd (.ok ())
      else .ask (.write fd errand.bytes) (fun _ => false) (errand.closing next fd)

variable {α : Type} {errand : Errand} {next : Outcome → Prog α}

theorem bytesOf_eq_nil_iff {text : String} : Text.bytesOf text = [] ↔ text.isEmpty = true := by
  unfold Text.bytesOf Text.encode
  rw [List.flatMap_eq_nil_iff, String.isEmpty_iff, ← String.toList_eq_nil_iff]
  constructor
  · intro h
    refine List.eq_nil_iff_forall_not_mem.mpr fun c hc => ?_
    have hlength := congrArg List.length (h c hc)
    rw [String.length_utf8EncodeChar] at hlength
    exact absurd hlength (Nat.ne_of_gt c.utf8Size_pos)
  · rintro h
    simp [h]

theorem run_bind_of_nul {word : NulWord} (h : cleanBytes errand.target.path = .error word) :
    errand.run.bind next = next (errand.answer (.error .nul)) := by
  unfold run answer
  cases errand.text? with
  | none =>
      unfold Target.preflight Target.openFile
      rw [h]
      rfl
  | some text =>
      unfold Target.deposit Target.openFile
      rw [h]
      rfl

/-- An errand begins with the opening of its target. -/
theorem run_bind {path : Bytes} (h : cleanBytes errand.target.path = .ok path) :
    errand.run.bind next =
      .ask (.openPath path errand.target.mode.access true) interrupted (errand.landing next) := by
  unfold run
  obtain ⟨target, text?⟩ := errand
  cases text? with
  | none =>
      dsimp only
      unfold Target.preflight Target.openFile
      rw [h]
      show Prog.ask _ _ _ = Prog.ask _ _ _
      congr 1 <;> funext reply <;> cases reply <;> rfl
  | some text =>
      dsimp only
      unfold Target.deposit Target.openFile
      rw [h]
      show Prog.ask _ _ _ = Prog.ask _ _ _
      congr 1
      · funext reply
        cases reply <;> rfl
      · funext reply
        cases reply with
        | error errno => rfl
        | ok fd =>
            unfold landing bytes
            dsimp only [Option.getD_some]
            -- an empty text is not written at all
            by_cases hempty : text.isEmpty = true
            · rw [if_pos (bytesOf_eq_nil_iff.mpr hempty)]
              simp only [hempty]
              rfl
            · rw [if_neg fun h => hempty (bytesOf_eq_nil_iff.mp h)]
              simp only [hempty]
              show Prog.ask _ _ _ = Prog.ask _ _ _
              congr 1
              funext written
              show Prog.ask _ _ _ = Prog.ask _ _ _
              congr 1
              funext closed
              cases written <;> rfl

end Errand

/-! ## Effects -/

/-- What errands can change in a machine: the files, and what waits in the pipes. -/
structure Holdings where
  files : Files
  pipes : List Bytes

variable {α : Type} {launch : Launcher} {start s s' : System α} {p q : Process α} {errand : Errand}

/-- What a target is opened as in a store, and the store afterwards. -/
def land (start : System α) (p : Process α) (files : Files) (target : Target) :
    Except OpenFailure (Endpoint × Files) :=
  match cleanBytes target.path with
  | .error _ => .error .nul
  | .ok path =>
      if p.limit ≤ p.table.free then .error (.system .tooManyFiles)
      else (({ start with files := files } : System α).endpointAt p path
        target.mode.access).mapError .system

theorem writing (mode : WriteMode) : Files.Writing mode.access := by
  cases mode <;> exact ⟨rfl, rfl, rfl, rfl⟩

theorem land_eq_ok {target : Target} {endpoint : Endpoint} {files later : Files} :
    land start p files target = .ok (endpoint, later) ↔
      ∃ path, cleanBytes target.path = .ok path ∧ p.table.free < p.limit ∧
        ({ start with files := files } : System α).endpointAt p path target.mode.access =
          .ok (endpoint, later) := by
  unfold land
  cases cleanBytes target.path with
  | error word => simp
  | ok path =>
      dsimp only
      by_cases hlimit : p.limit ≤ p.table.free
      · simp [hlimit, Nat.not_lt.mpr hlimit]
      · cases hend : ({ start with files := files } : System α).endpointAt p path
          target.mode.access <;> simp [hlimit, Nat.lt_of_not_le hlimit, hend, Except.mapError]

/-- What a target is opened as is what its path is opened as. -/
theorem landed_of_land {target : Target} {endpoint : Endpoint} {files later : Files}
    (h : land start p files target = .ok (endpoint, later)) :
    ∃ path, cleanBytes target.path = .ok path ∧
      Landed p path target.mode.access files later endpoint := by
  obtain ⟨path, hpath, -, hend⟩ := land_eq_ok.mp h
  exact ⟨path, hpath, landed_of_endpointAt (writing target.mode) hend⟩

/-- What becomes of bytes that are written to what has just been opened; nothing if there is no room
for them in a pipe. -/
def pour (start : System α) (endpoint : Endpoint) (mode : WriteMode) (bytes : Bytes)
    (held : Holdings) : Option (Except Errno Unit × Holdings) :=
  match endpoint with
  | .terminal => some (.ok (), held)
  | .pipeReader _ => some (.error .badDescriptor, held)
  | .pipeWriter pipe =>
      let waiting := held.pipes.getD pipe []
      if !start.held (.pipeReader pipe) then some (.error .brokenPipe, held)
      else if waiting.length + bytes.length ≤ pipeCapacity then
        some (.ok (), { held with pipes := held.pipes.set pipe (waiting ++ bytes) })
      else none
  | .node id =>
      match (held.files.node? id).map Node.content with
      | some (.regular old) =>
          let position := if mode.access.append then old.length else 0
          let changed := Files.overwrite old position bytes
          some (.ok (), { held with files := held.files.setBytes id changed })
      | some (.device .full) => some (.error .noSpace, held)
      | some (.device _) => some (.ok (), held)
      | _ => some (.error .badDescriptor, held)

/-- What an errand comes to, and what it leaves; nothing if there is no room for its text. -/
def Errand.effect? (start : System α) (p : Process α) (errand : Errand) (held : Holdings) :
    Option (Outcome × Holdings) :=
  match land start p held.files errand.target with
  | .error failure => some (errand.answer (.error failure), held)
  | .ok (endpoint, files) =>
      if errand.bytes = [] then some (errand.answer (.ok ()), { held with files := files })
      else (pour start endpoint errand.target.mode errand.bytes { held with files := files }).map
        fun (reply, after) => (errand.answer (reply.mapError .system), after)

/-! ## Runs -/

/-- The machine has come here by steps of one process alone. -/
abbrev Steps (launch : Launcher) (pid : Pid) : System α → System α → Prop :=
  Relation.ReflTransGen fun s s' => step launch s pid = some s'

/-- Where no step is left, there is only one way to get. -/
theorem Steps.eq_of_last {pid : Pid} {last other : System α} (h : Steps launch pid s last)
    (hother : Steps launch pid s other) (hlast : step launch last pid = none)
    (hend : step launch other pid = none) : last = other := by
  have hunique : Relator.RightUnique fun s s' : System α => step launch s pid = some s' :=
    fun _ _ _ h h' => Option.some.inj (h.symm.trans h')
  have hstuck : ∀ {s t : System α}, step launch s pid = none → Steps launch pid s t → s = t := by
    intro s t hnone hsteps
    rcases hsteps.cases_head with rfl | ⟨next, hstep, -⟩
    · rfl
    · exact absurd (hnone.symm.trans hstep) (by simp)
  rcases Relation.ReflTransGen.total_of_right_unique hunique h hother with hsteps | hsteps
  · exact hstuck hlast hsteps
  · exact (hstuck hend hsteps).symm

/-- A machine is as at the start but for one process, the files and what waits in the pipes, and for
the positions of open files. -/
structure Stands (start : System α) (q : Process α) (held : Holdings) (s : System α) : Prop where
  processes : s.processes = (start.setProcess q).processes
  files : s.files = held.files
  pipes : s.pipes = held.pipes
  length : held.pipes.length = start.pipes.length

/-- A process that can begin with errands is one of the processes of a sound machine. -/
structure Able (start : System α) (p : Process α) : Prop where
  sound : start.Sound
  process : p ∈ start.processes
  active : p.active = true

theorem process?_of_setProcess {old : Process α} (hold : old ∈ start.processes)
    (hpid : old.pid = q.pid) (h : s.processes = (start.setProcess q).processes) :
    s.process? q.pid = some q := by
  unfold process?
  rw [h]
  unfold setProcess
  rw [List.find?_map]
  have hmatch : ((fun process : Process α => process.pid == q.pid) ∘ fun process =>
      if process.pid == q.pid then q else process) = fun process => process.pid == q.pid := by
    funext process
    dsimp only [Function.comp]
    split <;> simp_all
  rw [hmatch]
  cases hfind : start.processes.find? fun process => process.pid == q.pid with
  | none => exact absurd (List.find?_eq_none.mp hfind old hold) (by simp [hpid])
  | some found =>
      have hfound := List.find?_some hfind
      rw [Option.map_some, if_pos hfound]

section Standing

variable {held : Holdings}

theorem Stands.process? (h : Stands start q held s) (hable : Able start p) (hpid : q.pid = p.pid) :
    s.process? p.pid = some q := by
  rw [← hpid]
  exact process?_of_setProcess hable.process hpid.symm h.processes

/-- What only concerns the process, the files and the pipes leaves the rest as it is. -/
theorem Stands.setProcess {changed : Process α} {after : System α} {left : Holdings}
    (h : Stands start q held s) (hprocesses : after.processes = s.processes)
    (hpid : changed.pid = q.pid) (hfiles : after.files = left.files)
    (hpipes : after.pipes = left.pipes) (hlength : left.pipes.length = held.pipes.length) :
    Stands start changed left (after.setProcess changed) where
  processes := by
    unfold System.setProcess
    rw [hprocesses, h.processes]
    unfold System.setProcess
    rw [List.map_map]
    refine List.map_congr_left fun process _ => ?_
    by_cases hprocess : process.pid = q.pid <;> simp [hprocess, hpid]
  files := hfiles
  pipes := hpipes
  length := hlength.trans h.length

/-- What nobody but the process can have opened is held as it was, if the process has not. -/
theorem Stands.held_eq {endpoint : Endpoint} (h : Stands start q held s) (hable : Able start p)
    (hpid : q.pid = p.pid) (htable : q.table.holds endpoint = p.table.holds endpoint) :
    s.held endpoint = start.held endpoint := by
  unfold System.held
  rw [h.processes]
  unfold System.setProcess
  rw [List.any_map, Bool.eq_iff_iff, List.any_eq_true, List.any_eq_true]
  refine exists_congr fun process => and_congr_right fun hprocess => ?_
  dsimp only [Function.comp]
  split
  · rename_i hsame
    have heq : process.pid = p.pid := (by simpa using hsame : process.pid = q.pid).trans hpid
    rw [hable.sound.distinct.eq_of_pid hable.process hprocess heq, htable]
  · rfl

/-- The process waits for ever: it makes no step, and has not come to an end. -/
def Stuck (launch : Launcher) (pid : Pid) (s : System α) : Prop :=
  step launch s pid = none ∧ ∀ q, s.process? pid = some q → ∀ value, q.program ≠ .pure value

/-- The process is about to write to what it has opened. -/
structure Writes (start : System α) (p : Process α) (held : Holdings) (s : System α) (table : Table)
    (fd : Fd) (endpoint : Endpoint) (mode : WriteMode) (bytes : Bytes)
    (rest : Except Errno Unit → Prog α) : Prop where
  stands : Stands start
    { p with table := table, program := .ask (.write fd bytes) (fun _ => false) rest } held s
  opened : ∃ cell, table.get? fd = some ⟨⟨endpoint, mode.access, cell⟩, true⟩ ∧
    s.cells.getD cell 0 = 0
  readers : ∀ pipe, table.holds (.pipeReader pipe) = p.table.holds (.pipeReader pipe)
  pipes : ∀ pipe, endpoint = .pipeWriter pipe → pipe < start.pipes.length
  bytes : bytes ≠ []

section Writing

variable {table : Table} {fd : Fd} {endpoint : Endpoint} {mode : WriteMode} {bytes : Bytes}
  {rest : Except Errno Unit → Prog α}

theorem Writes.step_eq (h : Writes start p held s table fd endpoint mode bytes rest)
    (hable : Able start p) : step launch s p.pid = (s.writeSome table fd bytes).map fun answered =>
      answered.2.setProcess { p with
        table := table
        program := match answered.1 with
          | .error errno => rest (.error errno)
          | .ok [] => rest (.ok ())
          | .ok left => .ask (.write fd left) (fun _ => false) rest } :=
  step_write (h.stands.process? hable rfl) hable.active rfl

/-- What is answered at once brings the process further. -/
theorem Writes.once (reply : Except Errno Unit) {after : System α} {left : Holdings}
    (h : Writes start p held s table fd endpoint mode bytes rest) (hable : Able start p)
    (hwrite : s.writeSome table fd bytes = some (reply.map fun _ => [], after))
    (hprocesses : after.processes = s.processes) (hfiles : after.files = left.files)
    (hpipes : after.pipes = left.pipes) (hlength : left.pipes.length = held.pipes.length) :
    ∃ s', Steps launch p.pid s s' ∧
      Stands start { p with table := table, program := rest reply } left s' := by
  refine ⟨after.setProcess { p with table := table, program := rest reply },
    .single ?_, h.stands.setProcess hprocesses rfl hfiles hpipes hlength⟩
  rw [h.step_eq hable, hwrite]
  cases reply <;> rfl

theorem Writes.writeSome_eq (h : Writes start p held s table fd endpoint mode bytes rest)
    (hable : Able start p) : ∃ cell, s.writeSome table fd bytes = match endpoint with
      | .pipeWriter pipe =>
          let waiting := held.pipes.getD pipe []
          let room := pipeCapacity - waiting.length
          if !start.held (.pipeReader pipe) then some (.error .brokenPipe, s)
          else if room = 0 then none
          else some (.ok (bytes.drop room), s.setQueue pipe (waiting ++ bytes.take room))
      | .pipeReader _ => some (.error .badDescriptor, s)
      | .terminal => some (.ok [], s)
      | .node id =>
          match (held.files.node? id).map Node.content with
          | some (.regular old) =>
              let position := if mode.access.append then old.length else 0
              let changed := Files.overwrite old position bytes
              some (.ok [], ({ s with files := held.files.setBytes id changed } :
                System α).setPosition ⟨endpoint, mode.access, cell⟩ (position + bytes.length))
          | some (.device .full) => some (.error .noSpace, s)
          | some (.device _) => some (.ok [], s)
          | _ => some (.error .badDescriptor, s) := by
  obtain ⟨cell, hget, hcell⟩ := h.opened
  refine ⟨cell, ?_⟩
  have hempty : bytes.isEmpty = false := by simpa using h.bytes
  -- nobody but this process has moved, so the readers are those of the beginning
  have hheld : ∀ pipe, s.held (.pipeReader pipe) = start.held (.pipeReader pipe) :=
    fun pipe => h.stands.held_eq hable rfl (h.readers pipe)
  unfold writeSome
  rw [hget]
  dsimp only
  rw [(writing mode).write, Bool.not_true, if_neg Bool.false_ne_true]
  cases endpoint with
  | terminal | pipeReader pipe => rfl
  | pipeWriter pipe =>
      dsimp only
      rw [hheld, hempty]
      unfold queue
      rw [h.stands.pipes]
      rfl
  | node id =>
      dsimp only
      unfold position
      rw [hempty, h.stands.files, hcell]
      rfl

/-- A process that writes to a full pipe waits for ever, as nobody reads. -/
theorem Writes.stuck {pipe : PipeId}
    (h : Writes start p held s table fd (.pipeWriter pipe) mode bytes rest) (hable : Able start p)
    (hreader : start.held (.pipeReader pipe) = true)
    (hfull : pipeCapacity ≤ (held.pipes.getD pipe []).length) : Stuck launch p.pid s := by
  obtain ⟨cell, hwrite⟩ := h.writeSome_eq hable
  dsimp only at hwrite
  rw [hreader, Nat.sub_eq_zero_of_le hfull] at hwrite
  refine ⟨?_, fun q hq value => ?_⟩
  · rw [h.step_eq hable, hwrite]
    rfl
  · rw [h.stands.process? hable rfl] at hq
    cases hq
    exact nofun

variable (launch) in
/-- What has room fills the pipe, and the process is about to write the rest. -/
theorem Writes.fills {pipe : PipeId}
    (h : Writes start p held s table fd (.pipeWriter pipe) mode bytes rest) (hable : Able start p)
    (hreader : start.held (.pipeReader pipe) = true)
    (hroom : (held.pipes.getD pipe []).length < pipeCapacity)
    (hlong : pipeCapacity < (held.pipes.getD pipe []).length + bytes.length) :
    ∃ s' left more, step launch s p.pid = some s' ∧
      Writes start p left s' table fd (.pipeWriter pipe) mode more rest ∧
      pipeCapacity ≤ (left.pipes.getD pipe []).length := by
  obtain ⟨cell, hwrite⟩ := h.writeSome_eq hable
  dsimp only at hwrite
  generalize hwaiting : held.pipes.getD pipe [] = waiting at *
  rw [hreader, Bool.not_true, if_neg Bool.false_ne_true, if_neg (Nat.sub_ne_zero_of_lt hroom)] at hwrite
  generalize hleft : pipeCapacity - waiting.length = room at *
  have hmore : bytes.drop room ≠ [] := by
    rw [Ne, List.drop_eq_nil_iff]
    omega
  refine ⟨(s.setQueue pipe (waiting ++ bytes.take room)).setProcess { p with
      table := table
      program := .ask (.write fd (bytes.drop room)) (fun _ => false) rest },
    ⟨held.files, held.pipes.set pipe (waiting ++ bytes.take room)⟩, bytes.drop room, ?_, ?_, ?_⟩
  · rw [h.step_eq hable, hwrite, Option.map_some]
    cases hdrop : bytes.drop room with
    | nil => exact absurd hdrop hmore
    | cons byte more => rfl
  · refine ⟨h.stands.setProcess rfl rfl h.stands.files ?_ (List.length_set ..), h.opened, h.readers,
      h.pipes, hmore⟩
    unfold setQueue
    rw [h.stands.pipes]
  · have hpipe : pipe < held.pipes.length := h.stands.length ▸ h.pipes pipe rfl
    rw [List.getD_eq_getElem?_getD, List.getElem?_set_self hpipe, Option.getD_some,
      List.length_append, List.length_take]
    omega

/-- What has room in a pipe is put into it. -/
theorem Writes.fits {pipe : PipeId}
    (h : Writes start p held s table fd (.pipeWriter pipe) mode bytes rest) (hable : Able start p)
    (hreader : start.held (.pipeReader pipe) = true)
    (hroom : (held.pipes.getD pipe []).length + bytes.length ≤ pipeCapacity) :
    ∃ s', Steps launch p.pid s s' ∧ Stands start { p with table := table, program := rest (.ok ()) }
      { held with pipes := held.pipes.set pipe (held.pipes.getD pipe [] ++ bytes) } s' := by
  obtain ⟨cell, hwrite⟩ := h.writeSome_eq hable
  dsimp only at hwrite
  have hpositive : 0 < bytes.length := List.length_pos_iff.mpr h.bytes
  have hfits : bytes.length ≤ pipeCapacity - (held.pipes.getD pipe []).length := by omega
  rw [hreader, Bool.not_true, if_neg Bool.false_ne_true, if_neg (by omega),
    List.drop_eq_nil_of_le hfits, List.take_of_length_le hfits] at hwrite
  refine h.once (.ok ()) hable hwrite rfl h.stands.files ?_ (List.length_set ..)
  unfold setQueue
  rw [h.stands.pipes]

/-- What is written to a pipe is put into it, or fills it. -/
theorem Writes.poured_pipe {pipe : PipeId}
    (h : Writes start p held s table fd (.pipeWriter pipe) mode bytes rest) (hable : Able start p) :
    ∃ s', Steps launch p.pid s s' ∧ match pour start (.pipeWriter pipe) mode bytes held with
      | some (reply, left) => Stands start { p with table := table, program := rest reply } left s'
      | none => Stuck launch p.pid s' := by
  unfold pour
  dsimp only
  cases hreader : start.held (.pipeReader pipe) with
  | false =>
      obtain ⟨cell, hwrite⟩ := h.writeSome_eq hable
      dsimp only at hwrite
      rw [hreader] at hwrite
      exact h.once (.error .brokenPipe) hable hwrite rfl h.stands.files h.stands.pipes rfl
  | true =>
      rw [Bool.not_true, if_neg Bool.false_ne_true]
      by_cases hroom : (held.pipes.getD pipe []).length + bytes.length ≤ pipeCapacity
      · rw [if_pos hroom]
        exact h.fits hable hreader hroom
      rw [if_neg hroom]
      by_cases hfull : pipeCapacity ≤ (held.pipes.getD pipe []).length
      · exact ⟨s, .refl, h.stuck hable hreader hfull⟩
      · -- what has room fills the pipe, and the rest waits
        obtain ⟨s', left, more, hstep, hfilled, hqueue⟩ := h.fills launch hable hreader
          (Nat.lt_of_not_le hfull) (Nat.lt_of_not_le hroom)
        exact ⟨s', .single hstep, hfilled.stuck hable hreader hqueue⟩

variable (launch) in
/-- What is written goes where it is poured. -/
theorem Writes.poured (h : Writes start p held s table fd endpoint mode bytes rest)
    (hable : Able start p) :
    ∃ s', Steps launch p.pid s s' ∧ match pour start endpoint mode bytes held with
      | some (reply, left) => Stands start { p with table := table, program := rest reply } left s'
      | none => Stuck launch p.pid s' := by
  cases endpoint with
  | pipeWriter pipe => exact h.poured_pipe hable
  | terminal =>
      obtain ⟨cell, hwrite⟩ := h.writeSome_eq hable
      exact h.once (.ok ()) hable hwrite rfl h.stands.files h.stands.pipes rfl
  | pipeReader pipe =>
      obtain ⟨cell, hwrite⟩ := h.writeSome_eq hable
      exact h.once (.error .badDescriptor) hable hwrite rfl h.stands.files h.stands.pipes rfl
  | node id =>
      obtain ⟨cell, hwrite⟩ := h.writeSome_eq hable
      unfold pour
      dsimp only at hwrite ⊢
      generalize (held.files.node? id).map Node.content = content at hwrite ⊢
      rcases content with _ | old | _ | _ | kind | _
      case some.regular =>
        exact h.once (.ok ()) hable hwrite rfl rfl h.stands.pipes rfl
      case some.device =>
        cases kind with
        | full =>
            exact h.once (.error .noSpace) hable hwrite rfl h.stands.files h.stands.pipes rfl
        | null | zero | terminal =>
            exact h.once (.ok ()) hable hwrite rfl h.stands.files h.stands.pipes rfl
      all_goals
        exact h.once (.error .badDescriptor) hable hwrite rfl h.stands.files h.stands.pipes rfl

end Writing

section Errands

variable {next : Outcome → Prog α}

/-- A process that has come from one machine to another, where it is or waits as it is said to. -/
def Reaches (launch : Launcher) (start : System α) (p : Process α) (s : System α)
    (program : Outcome → Prog α) (effect? : Option (Outcome × Holdings)) : Prop :=
  ∃ s', Steps launch p.pid s s' ∧ match effect? with
    | some (outcome, left) => Stands start { p with program := program outcome } left s'
    | none => Stuck launch p.pid s'

variable (launch) in
/-- A file that is given up is not open any more. -/
theorem Stands.closed {table : Table} {fd : Fd} {written : Except Errno Unit}
    (h : Stands start { p with table := table, program := errand.closing next fd written } held s)
    (hable : Able start p) (htable : table.erase fd = p.table) : Reaches launch start p s next
      (some (errand.answer (written.mapError .system), held)) := by
  have hstep : step launch s p.pid = _ := step_close (h.process? hable rfl) hable.active rfl
  dsimp only at hstep
  rw [htable] at hstep
  exact ⟨_, .single hstep, h.setProcess rfl rfl h.files h.pipes rfl⟩

variable (launch) in
/-- An errand that is opened is done, unless there is no room for its text. -/
theorem Stands.landed {fd : Fd} {endpoint : Endpoint} {cell : Nat}
    (h : Stands start { p with
      table := p.table.set fd ⟨⟨endpoint, errand.target.mode.access, cell⟩, true⟩
      program := errand.landing next (.ok fd) } held s)
    (hable : Able start p) (hfree : p.table.get? fd = none) (hcell : s.cells.getD cell 0 = 0)
    (hreader : ∀ pipe, endpoint ≠ .pipeReader pipe)
    (hpipe : ∀ pipe, endpoint = .pipeWriter pipe → pipe < start.pipes.length) :
    Reaches launch start p s next
      (if errand.bytes = [] then some (errand.answer (.ok ()), held)
      else (pour start endpoint errand.target.mode errand.bytes held).map
        fun (reply, after) => (errand.answer (reply.mapError .system), after)) := by
  by_cases hbytes : errand.bytes = []
  · rw [if_pos hbytes]
    unfold Errand.landing at h
    simp only [hbytes, if_true] at h
    exact h.closed launch hable (Table.erase_set hfree)
  · rw [if_neg hbytes]
    unfold Errand.landing at h
    simp only [hbytes, if_false] at h
    have hwrites : Writes start p held s
        (p.table.set fd ⟨⟨endpoint, errand.target.mode.access, cell⟩, true⟩) fd endpoint
        errand.target.mode errand.bytes (errand.closing next fd) :=
      ⟨h, ⟨cell, Table.get?_set_self, hcell⟩,
        fun pipe => by rw [Table.holds_set hfree, beq_false_of_ne (hreader pipe), Bool.false_or],
        hpipe, hbytes⟩
    obtain ⟨s', hsteps, hpoured⟩ := hwrites.poured launch hable
    cases hpour : pour start endpoint errand.target.mode errand.bytes held with
    | none =>
        rw [hpour] at hpoured
        exact ⟨s', hsteps, hpoured⟩
    | some poured =>
        rw [hpour] at hpoured
        obtain ⟨last, hclose, hlast⟩ := hpoured.closed launch hable (Table.erase_set hfree)
        exact ⟨last, hsteps.trans hclose, hlast⟩

/-- A target that is opened is opened as it is read off the store. -/
theorem Stands.endpointAt_eq {program : Prog α} {path : Bytes} {access : Access}
    (h : Stands start { p with program := program } held s) :
    s.endpointAt { p with program := program } path access =
      ({ start with files := held.files } : System α).endpointAt p path access := by
  unfold endpointAt
  rw [h.files]

/-- What cannot be opened is answered, as it is not for an interruption. -/
theorem proceed_refused {path : Bytes} {errno : Errno} {files : Files}
    (h : ({ start with files := files } : System α).endpointAt p path errand.target.mode.access =
      .error errno) :
    Process.proceed (.openPath path errand.target.mode.access true) interrupted
      (errand.landing next) (.error errno) = next (errand.answer (.error (.system errno))) := by
  have hgives : interrupted (.error errno) = false := by
    have hne : errno ≠ .interrupted := fun heq => endpointAt_ne_interrupted (heq ▸ h)
    simpa [interrupted] using hne
  unfold Process.proceed
  rw [hgives]
  rfl

/-- What is opened is no end of a pipe that is read, and no pipe that is not there. -/
theorem Able.landed {path : Bytes} {access : Access} {files later : Files} {endpoint : Endpoint}
    (hable : Able start p) (h : Landed p path access files later endpoint) :
    (∀ pipe, endpoint ≠ .pipeReader pipe) ∧
      ∀ pipe, endpoint = .pipeWriter pipe → pipe < start.pipes.length := by
  cases h with
  | node | terminal => exact ⟨fun _ => nofun, fun _ => nofun⟩
  | pipe _ _ _ hentry hheld =>
      refine ⟨fun _ => nofun, fun other heq => ?_⟩
      cases heq
      exact hable.sound.pipes p hable.process _ hentry _ hheld

variable (launch) in
/-- An errand comes to its effect. -/
theorem Stands.reaches (h : Stands start { p with program := errand.run.bind next } held s)
    (hable : Able start p) : Reaches launch start p s next (errand.effect? start p held) := by
  unfold Errand.effect? land
  cases hpath : cleanBytes errand.target.path with
  | error word =>
      rw [Errand.run_bind_of_nul hpath] at h
      exact ⟨s, .refl, h⟩
  | ok path =>
      rw [Errand.run_bind hpath] at h
      have hstep : step launch s p.pid = _ :=
        step_answered (h.process? hable rfl) hable.active rfl rfl
      simp only [answer, Option.map_some] at hstep
      unfold System.openPath at hstep
      dsimp only at hstep ⊢
      by_cases hlimit : p.limit ≤ p.table.free
      · -- no number is left
        rw [if_pos hlimit] at hstep ⊢
        exact ⟨_, .single hstep, h.setProcess rfl rfl h.files h.pipes rfl⟩
      rw [if_neg hlimit] at hstep ⊢
      rw [h.endpointAt_eq] at hstep
      cases hend : ({ start with files := held.files } : System α).endpointAt p path
        errand.target.mode.access with
      | error errno =>
          rw [hend] at hstep
          dsimp only at hstep
          rw [proceed_refused hend] at hstep
          exact ⟨_, .single hstep, h.setProcess rfl rfl h.files h.pipes rfl⟩
      | ok landed =>
          obtain ⟨endpoint, files⟩ := landed
          rw [hend] at hstep
          have hopened : Stands start { p with
              table := p.table.set p.table.free
                ⟨⟨endpoint, errand.target.mode.access, s.cells.length⟩, true⟩
              program := errand.landing next (.ok p.table.free) } ⟨files, held.pipes⟩
              (({ s with files := files, cells := s.cells ++ [0] } : System α).setProcess _) :=
            h.setProcess rfl rfl rfl h.pipes rfl
          have hfree := (hable.sound.ordered p hable.process).get?_free
          have hcell : (s.cells ++ [0]).getD s.cells.length 0 = 0 := by simp
          obtain ⟨hreader, hpipe⟩ :=
            hable.landed (landed_of_endpointAt (writing errand.target.mode) hend)
          obtain ⟨s', hsteps, hlast⟩ :=
            hopened.landed launch hable hfree hcell hreader hpipe
          exact ⟨s', .head hstep hsteps, hlast⟩

end Errands

end Standing

/-! ## Several errands -/

/-- What some errands have come to, each of them. -/
abbrev Log := List (Errand × Outcome)

/-- Errands come to what is logged, one after the other. -/
inductive Carried (start : System α) (p : Process α) : Holdings → Log → Holdings → Prop
  | nil {held : Holdings} : Carried start p held [] held
  | cons {held between after : Holdings} {errand : Errand} {outcome : Outcome} {rest : Log} :
      errand.effect? start p held = some (outcome, between) → Carried start p between rest after →
      Carried start p held ((errand, outcome) :: rest) after

variable {held between after : Holdings} {log before behind : Log}

theorem carried_append : Carried start p held (before ++ behind) after ↔
    ∃ between, Carried start p held before between ∧ Carried start p between behind after := by
  constructor
  · intro h
    induction before generalizing held with
    | nil => exact ⟨held, .nil, h⟩
    | cons entry before ih =>
        cases h with
        | cons heffect hrest =>
            obtain ⟨between, hbefore, hbehind⟩ := ih hrest
            exact ⟨between, .cons heffect hbefore, hbehind⟩
  · rintro ⟨between, hbefore, hbehind⟩
    induction hbefore with
    | nil => exact hbehind
    | cons heffect _ ih => exact .cons heffect (ih hbehind)

/-- Errands come to one thing only. -/
theorem Carried.unique {other : Log} {last : Holdings} (h : Carried start p held log after)
    (hother : Carried start p held other last) (hsame : log.map Prod.fst = other.map Prod.fst) :
    log = other ∧ after = last := by
  induction h generalizing other with
  | nil =>
      obtain rfl : other = [] := List.map_eq_nil_iff.mp hsame.symm
      cases hother
      exact ⟨rfl, rfl⟩
  | cons heffect _ ih =>
      cases hother with
      | nil => exact absurd hsame (by simp)
      | cons heffect' hrest' =>
          obtain ⟨rfl, hrest⟩ := List.cons.inj hsame
          cases heffect.symm.trans heffect'
          obtain ⟨rfl, rfl⟩ := ih hrest' hrest
          exact ⟨rfl, rfl⟩

theorem runAll_cons_bind {errands : List Errand} {next : List Outcome → Prog α} :
    (Errand.runAll (errand :: errands)).bind next = errand.run.bind fun outcome =>
      (Errand.runAll errands).bind fun outcomes => next (outcome :: outcomes) := by
  show (errand.run.bind _).bind next = _
  rw [Prog.bind_assoc]
  congr 1
  funext outcome
  show ((Errand.runAll errands).bind _).bind next = _
  rw [Prog.bind_assoc]
  rfl

variable (launch) in
/-- A process that does errands comes to what they come to. -/
theorem Carried.steps (h : Carried start p held log after) (hable : Able start p)
    {next : List Outcome → Prog α}
    (hstands : Stands start { p with program := (Errand.runAll (log.map Prod.fst)).bind next } held s) :
    ∃ s', Steps launch p.pid s s' ∧
      Stands start { p with program := next (log.map Prod.snd) } after s' := by
  induction h generalizing s next with
  | nil => exact ⟨s, .refl, hstands⟩
  | @cons held between after errand outcome rest heffect _ ih =>
      have hfirst : Stands start { p with program := errand.run.bind fun outcome =>
          (Errand.runAll (rest.map Prod.fst)).bind fun outcomes => next (outcome :: outcomes) }
          held s := by
        rwa [List.map_cons, runAll_cons_bind] at hstands
      obtain ⟨s', hsteps, hreached⟩ := hfirst.reaches launch hable
      rw [heffect] at hreached
      obtain ⟨last, hrest, hlast⟩ := ih hreached
      exact ⟨last, hsteps.trans hrest, hlast⟩

variable (launch) in
/-- Errands come to something, or their process waits for ever. -/
theorem Stands.carried_or_stuck {errands : List Errand} {next : List Outcome → Prog α}
    (h : Stands start { p with program := (Errand.runAll errands).bind next } held s)
    (hable : Able start p) :
    (∃ log after, log.map Prod.fst = errands ∧ Carried start p held log after) ∨
      ∃ s', Steps launch p.pid s s' ∧ Stuck launch p.pid s' := by
  induction errands generalizing held s next with
  | nil => exact .inl ⟨[], held, rfl, .nil⟩
  | cons errand errands ih =>
      rw [runAll_cons_bind] at h
      obtain ⟨s', hsteps, hreached⟩ := h.reaches launch hable
      cases heffect : errand.effect? start p held with
      | none =>
          rw [heffect] at hreached
          exact .inr ⟨s', hsteps, hreached⟩
      | some effect =>
          obtain ⟨outcome, between⟩ := effect
          rw [heffect] at hreached
          rcases ih hreached with ⟨log, after, rfl, hrest⟩ | ⟨last, hrest, hstuck⟩
          · exact .inl ⟨(errand, outcome) :: log, after, rfl, .cons heffect hrest⟩
          · exact .inr ⟨last, hsteps.trans hrest, hstuck⟩

variable (start held) in
/-- An errand comes to something, unless its path stands for a pipe that the process holds. -/
theorem effect?_isSome (h : ∀ path, cleanBytes errand.target.path = .ok path → ¬p.NamesPipe path) :
    ∃ outcome left, errand.effect? start p held = some (outcome, left) := by
  unfold Errand.effect?
  cases hland : land start p held.files errand.target with
  | error failure => exact ⟨_, _, rfl⟩
  | ok landed =>
      obtain ⟨endpoint, files⟩ := landed
      obtain ⟨path, hpath, hlanded⟩ := landed_of_land hland
      dsimp only
      by_cases hbytes : errand.bytes = []
      · rw [if_pos hbytes]
        exact ⟨_, _, rfl⟩
      rw [if_neg hbytes]
      cases hlanded with
      | terminal => exact ⟨_, _, rfl⟩
      | pipe _ _ hnames => exact absurd hnames (h path hpath)
      | @node id =>
          unfold pour
          dsimp only
          split <;> exact ⟨_, _, rfl⟩

variable (start held) in
theorem exists_carried {errands : List Errand} (h : ∀ errand ∈ errands, ∀ path,
    cleanBytes errand.target.path = .ok path → ¬p.NamesPipe path) :
    ∃ log after, log.map Prod.fst = errands ∧ Carried start p held log after := by
  induction errands generalizing held with
  | nil => exact ⟨[], held, rfl, .nil⟩
  | cons errand errands ih =>
      obtain ⟨outcome, between, heffect⟩ :=
        effect?_isSome start held (h errand List.mem_cons_self)
      obtain ⟨log, after, rfl, hrest⟩ :=
        ih between fun other hother => h other (List.mem_cons_of_mem _ hother)
      exact ⟨(errand, outcome) :: log, after, rfl, .cons heffect hrest⟩

/-! ## What a process comes to -/

/-- A process does errands and nothing else, while the others stand still: it comes to an end, with
what is logged of each of them, and leaves these files and this in the pipes. -/
def Comes (launch : Launcher) (start : System (List Outcome)) (p : Process (List Outcome))
    (log : Log) (after : Holdings) : Prop :=
  ∃ s q, Steps launch p.pid
      (start.setProcess { p with program := Errand.runAll (log.map Prod.fst) }) s ∧
    s.process? p.pid = some q ∧ q.program = .pure (log.map Prod.snd) ∧
    s.files = after.files ∧ s.pipes = after.pipes

/-- A process that has come to the end of its program makes no step. -/
theorem step_of_pure {pid : Pid} {value : α} (hq : s.process? pid = some q)
    (hprogram : q.program = .pure value) : step launch s pid = none := by
  cases hactive : q.active with
  | true => exact step_pure hq hactive hprogram
  | false =>
      unfold step
      simp [hq, hactive]

variable (launch) in
/-- A process comes to what its errands come to. -/
theorem comes_iff_carried {start : System (List Outcome)} {p : Process (List Outcome)}
    (hable : Able start p) :
    Comes launch start p log after ↔ Carried start p ⟨start.files, start.pipes⟩ log after := by
  have hbegin : ∀ errands, Stands start { p with program := (Errand.runAll errands).bind .pure }
      ⟨start.files, start.pipes⟩
      (start.setProcess { p with program := Errand.runAll errands }) := by
    intro errands
    rw [Prog.bind_pure]
    exact ⟨rfl, rfl, rfl, rfl⟩
  constructor
  · -- there is one way for the process alone: it ends where the effects lead, or waits for ever
    rintro ⟨s, q, hsteps, hq, hprogram, hfiles, hpipes⟩
    rcases (hbegin (log.map Prod.fst)).carried_or_stuck launch hable with
      ⟨other, last, hsame, hcarried⟩ | ⟨s', hsteps', hnone, hstuck⟩
    · rw [← hsame] at hsteps
      obtain ⟨s', hsteps', hstands⟩ :=
        hcarried.steps launch hable (hbegin (other.map Prod.fst))
      have hq' := hstands.process? hable rfl
      obtain rfl := hsteps.eq_of_last hsteps' (step_of_pure hq hprogram) (step_of_pure hq' rfl)
      cases hq.symm.trans hq'
      have hother : other = log :=
        (List.zip_of_prod hsame (Prog.pure.inj hprogram)).trans (List.zip_of_prod rfl rfl).symm
      have hlast : last = after := by
        cases last
        cases after
        exact congrArg₂ Holdings.mk (hstands.files.symm.trans hfiles)
          (hstands.pipes.symm.trans hpipes)
      rwa [hother, hlast] at hcarried
    · obtain rfl := hsteps.eq_of_last hsteps' (step_of_pure hq hprogram) hnone
      exact absurd hprogram (hstuck q hq _)
  · intro h
    obtain ⟨s, hsteps, hstands⟩ := h.steps launch hable (hbegin (log.map Prod.fst))
    exact ⟨s, _, hsteps, hstands.process? hable rfl, rfl, hstands.files, hstands.pipes⟩

end LineShell.Errands
