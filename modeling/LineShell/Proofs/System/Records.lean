import LineShell.Proofs.System.Children

/-!
# Records of what processes do

A machine moves in any way: time passes, processes make steps, signals come from outside, and a
process that waits for a child is disturbed. A record is kept of the children that are started, of
how processes end, and of what parents are told of that.

* **`Deed`** — what a process does, or what becomes of it;
* **`Recorded`** — the states that are reached, and the records of the ways there;
* **`Tally`** — each child that a process has started is there with the ending that is on record, or
  is gone, and its end has been told once; every move keeps that (`Tally.step`).
-/

namespace LineShell

/-- What a process does, or what becomes of it. -/
inductive Deed where
  /-- It starts a child. -/
  | started (child : Pid)
  /-- It looks at its variables. -/
  | sought
  /-- It asks to become a program. -/
  | tried (arguments : List Bytes)
  /-- It becomes a program. -/
  | became
  /-- It hands bytes over. -/
  | wrote (fd : Fd) (bytes : Bytes)
  /-- The bytes that it writes are refused. -/
  | refused (fd : Fd)
  /-- It is told of the end of a child. -/
  | told (child : Pid) (ending : Ending)
  /-- It ends. -/
  | ended (ending : Ending)
  deriving DecidableEq

namespace Deed

/-- The child that is started. -/
def child? : Deed → Option Pid
  | .started child => some child
  | _ => none

/-- The end of a child that is told. -/
def news? : Deed → Option (Pid × Ending)
  | .told child ending => some (child, ending)
  | _ => none

/-- The ending of the process. -/
def ending? : Deed → Option Ending
  | .ended ending => some ending
  | _ => none

/-- The program that is asked for. -/
def tried? : Deed → Option (List Bytes)
  | .tried arguments => some arguments
  | _ => none

/-- The bytes that are handed over under a number. -/
def bytesTo (fd : Fd) : Deed → Bytes
  | .wrote other bytes => if other = fd then bytes else []
  | _ => []

end Deed

/-- A deed of a process. -/
structure Event where
  /-- The process. -/
  pid : Pid
  /-- What it does. -/
  deed : Deed
  deriving DecidableEq

namespace System

variable {α : Type} {launch : Launcher} {s s' : System α} {pid shell child : Pid}
  {p q : Process α} {log more : List Event}

/-! ## Records -/

/-- What comes of an attempt to write. -/
def handing (s : System α) (p : Process α) (fd : Fd) (bytes : Bytes) : List Deed :=
  match s.writeSome p.table fd bytes with
  | none => []
  | some (.ok left, _) => [.wrote fd (bytes.take (bytes.length - left.length))]
  | some (.error _, _) => [.refused fd]

/-- What a process does in its next step. -/
def doing (launch : Launcher) (s : System α) (p : Process α) : List Deed :=
  match p.program.request? with
  | none => []
  | some .fork => [.started s.nextPid]
  | some .bindings => [.sought]
  | some (.exec path arguments bindings) =>
      .tried arguments :: match s.become launch p path arguments bindings with
        | .ok _ => [.became]
        | .error _ => []
  | some (.write fd bytes) => handing s p fd bytes
  | some .flush => if p.pending.isEmpty then [] else handing s p Fd.stdout p.pending
  | some call => (s.news? p.pid call).toList.map fun told => .told told.1 told.2

/-- How a process has ended that was under way before. -/
def lapse? (s' : System α) (old : Process α) : Option Ending :=
  if old.ending.isSome then none else (s'.process? old.pid).bind Process.ending

/-- Which processes have ended from one state to another. -/
def lapsed (s s' : System α) : List Event :=
  s.processes.filterMap fun old => (lapse? s' old).map fun ending => ⟨old.pid, .ended ending⟩

/-- What there is to record of a step. -/
def noted (launch : Launcher) (s : System α) (pid : Pid) (s' : System α) : List Event :=
  ((s.process? pid).toList.flatMap fun p => (doing launch s p).map fun deed => ⟨pid, deed⟩) ++
    lapsed s s'

/-- The deeds of a process, in their order. -/
def deeds (log : List Event) (pid : Pid) : List Deed :=
  (log.filter fun event => event.pid == pid).map Event.deed

/-- The children that a process has started. -/
def started (log : List Event) (pid : Pid) : List Pid := (deeds log pid).filterMap Deed.child?

/-- The ends of children that a process has been told of. -/
def told (log : List Event) (pid : Pid) : List (Pid × Ending) :=
  (deeds log pid).filterMap Deed.news?

/-- How often and how a process has ended. -/
def endings (log : List Event) (pid : Pid) : List Ending := (deeds log pid).filterMap Deed.ending?

theorem deeds_append : deeds (log ++ more) pid = deeds log pid ++ deeds more pid := by
  unfold deeds
  rw [List.filter_append, List.map_append]

theorem started_append : started (log ++ more) pid = started log pid ++ started more pid := by
  unfold started
  rw [deeds_append, List.filterMap_append]

theorem told_append : told (log ++ more) pid = told log pid ++ told more pid := by
  unfold told
  rw [deeds_append, List.filterMap_append]

theorem endings_append : endings (log ++ more) pid = endings log pid ++ endings more pid := by
  unfold endings
  rw [deeds_append, List.filterMap_append]

theorem deeds_eq_nil (h : ∀ event ∈ log, event.pid ≠ pid) : deeds log pid = [] := by
  unfold deeds
  rw [List.filter_eq_nil_iff.mpr, List.map_nil]
  exact fun event hevent => by simpa using h event hevent

theorem deeds_map {own : List Deed} {other : Pid} :
    deeds (own.map fun deed => ⟨other, deed⟩) pid = if other = pid then own else [] := by
  unfold deeds
  rw [List.filter_map, List.map_map]
  split
  · rename_i heq
    rw [List.filter_eq_self.mpr fun deed _ => by simp [heq]]
    exact List.map_id own
  · rename_i hne
    rw [List.filter_eq_nil_iff.mpr fun deed _ => by simp [hne], List.map_nil]

/-! ## Ends on record -/

theorem pid_of_mem_lapsed {event : Event} (h : event ∈ lapsed s s') :
    ∃ old ∈ s.processes, event.pid = old.pid := by
  obtain ⟨old, hold, hsome⟩ := List.mem_filterMap.mp h
  obtain ⟨ending, -, rfl⟩ := Option.map_eq_some_iff.mp hsome
  exact ⟨old, hold, rfl⟩

theorem deeds_lapsed_of_not_mem (h : ∀ q ∈ s.processes, q.pid ≠ pid) :
    deeds (lapsed s s') pid = [] :=
  deeds_eq_nil fun event hevent => by
    obtain ⟨old, hold, heq⟩ := pid_of_mem_lapsed hevent
    exact heq ▸ h old hold

/-- Of each process, an ending is recorded when it has just ended. -/
theorem deeds_lapsed (hdistinct : s.Distinct) (hp : p ∈ s.processes) :
    deeds (lapsed s s') p.pid = (lapse? s' p).toList.map Deed.ended := by
  unfold Distinct at hdistinct
  unfold lapsed
  generalize s.processes = processes at hdistinct hp
  induction processes with
  | nil => exact absurd hp List.not_mem_nil
  | cons first rest ih =>
      rw [List.map_cons, List.nodup_cons] at hdistinct
      have hsplit : ∀ {events : List Event}, deeds ((lapse? s' first).toList.map
          (fun ending => ⟨first.pid, .ended ending⟩) ++ events) p.pid =
            (if first.pid = p.pid then (lapse? s' first).toList.map Deed.ended else []) ++
              deeds events p.pid := by
        intro events
        rw [deeds_append, ← deeds_map, List.map_map]
        rfl
      -- the process is the first one, or has another number than that
      have hcons : ((first :: rest).filterMap fun old => (lapse? s' old).map fun ending =>
          (⟨old.pid, .ended ending⟩ : Event)) = (lapse? s' first).toList.map
            (fun ending => ⟨first.pid, .ended ending⟩) ++ rest.filterMap fun old =>
              (lapse? s' old).map fun ending => ⟨old.pid, .ended ending⟩ := by
        rw [List.filterMap_cons]
        cases lapse? s' first <;> rfl
      rw [hcons, hsplit]
      rcases List.mem_cons.mp hp with rfl | hp
      · rw [if_pos rfl, deeds_eq_nil, List.append_nil]
        intro event hevent
        obtain ⟨old, hold, hsome⟩ := List.mem_filterMap.mp hevent
        obtain ⟨ending, -, rfl⟩ := Option.map_eq_some_iff.mp hsome
        exact fun heq => hdistinct.1 (heq ▸ List.mem_map_of_mem hold)
      · have hne : first.pid ≠ p.pid := fun heq => hdistinct.1 (heq ▸ List.mem_map_of_mem hp)
        rw [if_neg hne, List.nil_append]
        exact ih hdistinct.2 hp

theorem lapsed_filterMap {β : Type} {f : Deed → Option β} (hdistinct : s.Distinct)
    (hf : ∀ ending, f (.ended ending) = none) : (deeds (lapsed s s') pid).filterMap f = [] := by
  by_cases hthere : ∃ q ∈ s.processes, q.pid = pid
  · obtain ⟨q, hq, rfl⟩ := hthere
    rw [deeds_lapsed hdistinct hq]
    refine List.filterMap_eq_nil_iff.mpr fun deed hdeed => ?_
    obtain ⟨ending, -, rfl⟩ := List.mem_map.mp hdeed
    exact hf ending
  · rw [deeds_lapsed_of_not_mem fun q hq hsame => hthere ⟨q, hq, hsame⟩, List.filterMap_nil]

theorem lapse?_of_mem (hdistinct : s'.Distinct) (hq : q ∈ s'.processes) (hpid : q.pid = p.pid) :
    lapse? s' p = if p.ending.isSome then none else q.ending := by
  unfold lapse?
  rw [← hpid, hdistinct.process?_of_mem hq]
  rfl

/-! ## Deeds of a step -/

theorem deeds_noted (hp : s.process? pid = some p) (other : Pid) :
    deeds (noted launch s pid s') other =
      (if pid = other then doing launch s p else []) ++ deeds (lapsed s s') other := by
  unfold noted
  rw [hp, deeds_append]
  show deeds ((doing launch s p).map _ ++ []) other ++ _ = _
  rw [List.append_nil, deeds_map]

/-- What is read off a record concerns processes, not what they do themselves. -/
structure Social {β : Type} (f : Deed → Option β) : Prop where
  sought : f .sought = none
  tried : ∀ arguments, f (.tried arguments) = none
  became : f .became = none
  wrote : ∀ fd bytes, f (.wrote fd bytes) = none
  refused : ∀ fd, f (.refused fd) = none

theorem Social.handing {β : Type} {f : Deed → Option β} (h : Social f) {fd : Fd} {bytes : Bytes} :
    (handing s p fd bytes).filterMap f = [] := by
  unfold System.handing
  split
  · rfl
  · rw [List.filterMap_cons_none (h.wrote _ _), List.filterMap_nil]
  · rw [List.filterMap_cons_none (h.refused _), List.filterMap_nil]

theorem Social.doing {β : Type} {f : Deed → Option β} (h : Social f) :
    (doing launch s p).filterMap f =
      (if p.program.request? = some .fork then (f (.started s.nextPid)).toList else []) ++
        (p.program.request?.bind (s.news? p.pid)).toList.filterMap fun news =>
          f (.told news.1 news.2) := by
  have htold : ∀ news : Option (Pid × Ending),
      (news.toList.map fun told => Deed.told told.1 told.2).filterMap f =
        news.toList.filterMap fun news => f (.told news.1 news.2) := by
    intro news
    rw [List.filterMap_map]
    rfl
  have hsingle : ∀ deed : Deed, [deed].filterMap f = (f deed).toList := by
    intro deed
    cases hdeed : f deed <;> simp [hdeed]
  unfold System.doing
  cases p.program.request? with
  | none => rfl
  | some call =>
      cases call with
      | fork =>
          rw [if_pos rfl]
          exact (hsingle _).trans (List.append_nil _).symm
      | bindings => exact (hsingle _).trans (by rw [h.sought]; rfl)
      | exec path arguments bindings =>
          show (Deed.tried arguments :: match s.become launch p path arguments bindings with
            | .ok _ => [Deed.became]
            | .error _ => []).filterMap f = []
          rw [List.filterMap_cons_none (h.tried _)]
          split
          · rw [hsingle, h.became]
            rfl
          · rfl
      | write fd bytes => exact h.handing
      | flush =>
          dsimp only
          split
          · rfl
          · exact h.handing
      | _ => exact htold _

section Requests

theorem doing_bindings (h : p.program.request? = some .bindings) : doing launch s p = [.sought] := by
  unfold doing
  rw [h]

theorem doing_exec {path : Bytes} {arguments : List Bytes} {bindings : Variables}
    (h : p.program.request? = some (.exec path arguments bindings)) : doing launch s p =
      .tried arguments :: match s.become launch p path arguments bindings with
        | .ok _ => [.became]
        | .error _ => [] := by
  unfold doing
  rw [h]

theorem doing_write {fd : Fd} {bytes : Bytes} (h : p.program.request? = some (.write fd bytes)) :
    doing launch s p = handing s p fd bytes := by
  unfold doing
  rw [h]

theorem doing_close {fd : Fd} (h : p.program.request? = some (.close fd)) :
    doing launch s p = [] := by
  unfold doing
  rw [h]
  rfl

theorem doing_duplicate {source target : Fd}
    (h : p.program.request? = some (.duplicate source target)) : doing launch s p = [] := by
  unfold doing
  rw [h]
  rfl

theorem doing_exit {code : Int} (h : p.program.request? = some (.exit code)) :
    doing launch s p = [] := by
  unfold doing
  rw [h]
  rfl

end Requests

theorem doing_child? : (doing launch s p).filterMap Deed.child? =
    if p.program.request? = some .fork then [s.nextPid] else [] := by
  have hsocial : Social Deed.child? :=
    ⟨rfl, fun _ => rfl, rfl, fun _ _ => rfl, fun _ => rfl⟩
  rw [hsocial.doing]
  cases p.program.request?.bind (s.news? p.pid) <;> split <;> rfl

theorem doing_news? : (doing launch s p).filterMap Deed.news? =
    (p.program.request?.bind (s.news? p.pid)).toList := by
  have hsocial : Social Deed.news? := ⟨rfl, fun _ => rfl, rfl, fun _ _ => rfl, fun _ => rfl⟩
  rw [hsocial.doing]
  cases p.program.request?.bind (s.news? p.pid) <;> split <;> rfl

theorem doing_ending? : (doing launch s p).filterMap Deed.ending? = [] := by
  have hsocial : Social Deed.ending? := ⟨rfl, fun _ => rfl, rfl, fun _ _ => rfl, fun _ => rfl⟩
  rw [hsocial.doing]
  cases p.program.request?.bind (s.news? p.pid) <;> split <;> rfl

/-! ## Runs -/

/-- What is told to a process that waits for a child, though no child has ended. -/
inductive Disturbs : Except Errno (Pid × ChildNews) → Prop
  | interrupted : Disturbs (.error .interrupted)
  | stopped {pid : Pid} {signal : Signal} : Disturbs (.ok (pid, .stopped signal))
  | continued {pid : Pid} : Disturbs (.ok (pid, .continued))

/-- The states that are reached from a first one, and the records of the ways there. Time passes,
processes make steps in any order, whatever they ask, signals come from outside, and a process
that waits for a child is told something else than the end of one. -/
inductive Recorded (launch : Launcher) (start : System α) : List Event → System α → Prop
  | start : Recorded launch start [] start
  | tick {log : List Event} {s : System α} (time : Nat) : Recorded launch start log s →
      Recorded launch start log (s.setClock time)
  | step {log : List Event} {s s' : System α} (pid : Pid) : Recorded launch start log s →
      step launch s pid = some s' → Recorded launch start (log ++ noted launch s pid s') s'
  | signal {log : List Event} {s : System α} (target : Pid) (number : Signal) :
      Recorded launch start log s →
      Recorded launch start (log ++ lapsed s (s.signal target number).2) (s.signal target number).2
  | disturbed {log : List Event} {s : System α} {p : Process α} {child : Option Pid}
      {again : Except Errno (Pid × ChildNews) → Bool}
      {next : Except Errno (Pid × ChildNews) → Prog α} {reply : Except Errno (Pid × ChildNews)} :
      Recorded launch start log s → p ∈ s.processes → p.active = true →
      p.program = .ask (.wait child) again next → Disturbs reply →
      Recorded launch start log
        (s.setProcess { p with program := Process.proceed (.wait child) again next reply })

/-! ## Children on record -/

/-- How a child of a process stands: it is there with the ending that is on record, or is gone, and
its end has been told. -/
inductive Stands (parent : Pid) (log : List Event) (s : System α) (child : Pid) : Prop
  | there {q : Process α} : q ∈ s.processes → q.pid = child → q.parent = parent →
      endings log child = q.ending.toList → (∀ ending, (child, ending) ∉ told log parent) →
      Stands parent log s child
  | gone {ending : Ending} : (∀ q ∈ s.processes, q.pid ≠ child) → endings log child = [ending] →
      (child, ending) ∈ told log parent →
      (∀ other, (child, other) ∈ told log parent → other = ending) → Stands parent log s child

/-- The children that a process has started since the number `origin` was the next one are on
record, and each stands as the record says. -/
structure Tally (parent origin : Pid) (log : List Event) (s : System α) : Prop where
  distinct : s.Distinct
  numbered : ∀ q ∈ s.processes, q.pid < s.nextPid
  below : parent < s.nextPid
  began : origin ≤ s.nextPid
  noticed : ∀ event ∈ log, event.pid < s.nextPid
  heard : ∀ news ∈ told log parent, news.1 < s.nextPid
  fresh : ∀ child ∈ started log parent, origin ≤ child ∧ child < s.nextPid
  nodup : (started log parent).Nodup
  children : ∀ q ∈ s.processes, q.parent = parent → origin ≤ q.pid → q.pid ∈ started log parent
  stands : ∀ child ∈ started log parent, Stands parent log s child

section Tally

variable {parent origin mover : Pid} {forks : Bool} {news : Option (Pid × Ending)}

theorem endings_lapsed (hdistinct : s.Distinct) (hlater : s'.Distinct) (hp : p ∈ s.processes)
    (hq : q ∈ s'.processes) (hheir : Heir mover p q) :
    p.ending.toList ++ endings (lapsed s s') p.pid = q.ending.toList := by
  have hlapse : endings (lapsed s s') p.pid = (lapse? s' p).toList := by
    unfold endings
    rw [deeds_lapsed hdistinct hp]
    cases lapse? s' p <;> rfl
  rw [hlapse, lapse?_of_mem hlater hq hheir.pid]
  cases hending : p.ending with
  | none => rfl
  | some ending =>
      rw [hheir.ended ending hending]
      rfl

theorem endings_lapsed_of_not_mem (h : ∀ q ∈ s.processes, q.pid ≠ pid) :
    endings (lapsed s s') pid = [] := by
  unfold endings
  rw [deeds_lapsed_of_not_mem h, List.filterMap_nil]

theorem endings_lapsed_of_ended (hdistinct : s.Distinct) (hp : p ∈ s.processes)
    (hended : p.ending.isSome = true) : endings (lapsed s s') p.pid = [] := by
  unfold endings
  rw [deeds_lapsed hdistinct hp]
  unfold lapse?
  rw [if_pos hended]
  rfl

theorem told_gone (htold : told more parent = if mover = parent then news.toList else []) {ending : Ending} :
    (child, ending) ∈ told (log ++ more) parent → (child, ending) ∈ told log parent ∨
      mover = parent ∧ news = some (child, ending) := by
  rw [told_append, List.mem_append, htold]
  intro hmem
  refine hmem.imp_right fun hmem => ?_
  split at hmem
  · rename_i hsame
    exact ⟨hsame, by simpa using hmem⟩
  · cases hmem

/-- Whatever moves, the children stand as the record says. -/
theorem Stands.pass (h : Tally parent origin log s) (hpass : Passage mover forks news s s')
    (htold : told more parent = if mover = parent then news.toList else [])
    (hends : ∀ pid, endings more pid = endings (lapsed s s') pid)
    (hstands : Stands parent log s child) (hchild : child < s.nextPid) :
    Stands parent (log ++ more) s' child := by
  cases hstands with
  | @there q hq hpid hparent hendings hquiet =>
      -- it is still there, or its parent is told of its end and it is forgotten
      subst hpid
      rcases hpass.stays q hq with ⟨q', hq', hheir⟩ | ⟨ending, hnews⟩
      · refine .there hq' hheir.pid (hheir.parent.trans hparent) ?_ fun ending hmem => ?_
        · rw [endings_append, hends, hendings]
          exact endings_lapsed h.distinct hpass.distinct hq hq' hheir
        · rcases told_gone htold hmem with hmem | ⟨-, hnews⟩
          · exact hquiet ending hmem
          · exact (hpass.gone _ _ hnews).1 q' hq' hheir.pid
      · obtain ⟨hgone, old, hold, hsame, hmover, hending⟩ := hpass.gone _ _ hnews
        obtain rfl := h.distinct.eq_of_pid hq hold hsame
        have hmine : mover = parent := hmover.symm.trans hparent
        refine .gone hgone (show _ = [ending] from ?_) ?_ fun other hmem => ?_
        · rw [endings_append, hends, hendings, hending,
            endings_lapsed_of_ended h.distinct hq (by rw [hending]; rfl)]
          rfl
        · rw [told_append, htold, if_pos hmine, hnews]
          exact List.mem_append_right _ List.mem_cons_self
        · rcases told_gone htold hmem with hmem | ⟨-, hother⟩
          · exact absurd hmem (hquiet other)
          · cases hnews.symm.trans hother
            rfl
  | @gone ending hgone hendings hmem honly =>
      refine .gone (fun q hq hpid => ?_) (show _ = [ending] from ?_) ?_ fun other hother => ?_
      · rcases hpass.origins q hq with ⟨old, hold, hheir⟩ | ⟨-, hnew, -⟩
        · exact hgone old hold (hheir.pid.symm.trans hpid)
        · exact Nat.ne_of_lt hchild (hpid.symm.trans hnew)
      · rw [endings_append, hends, hendings, endings_lapsed_of_not_mem hgone, List.append_nil]
      · rw [told_append]
        exact List.mem_append_left _ hmem
      · rcases told_gone htold hother with hother | ⟨-, hnews⟩
        · exact honly other hother
        · obtain ⟨-, old, hold, hsame, -⟩ := hpass.gone _ _ hnews
          exact absurd hsame (hgone old hold)

/-- A new child stands as the record says, for it has not been heard of. -/
theorem Stands.born (h : Tally parent origin log s) (hpass : Passage mover forks news s s')
    (htold : told more parent = if mover = parent then news.toList else [])
    (hends : ∀ pid, endings more pid = endings (lapsed s s') pid) (hmine : mover = parent)
    (hforks : forks = true) : Stands parent (log ++ more) s' s.nextPid := by
  obtain ⟨q, hq, hpid, hparent, hending⟩ := hpass.born hforks
  have hnobody : ∀ q ∈ s.processes, q.pid ≠ s.nextPid :=
    fun q hq => Nat.ne_of_lt (h.numbered q hq)
  refine .there hq hpid (hparent.trans hmine) ?_ fun ending hnews => ?_
  · have hnone : endings log s.nextPid = [] := by
      unfold endings
      rw [deeds_eq_nil fun event hevent => Nat.ne_of_lt (h.noticed event hevent)]
      rfl
    rw [endings_append, hends, endings_lapsed_of_not_mem hnobody, hnone, hending]
    rfl
  · rcases told_gone htold hnews with hnews | ⟨-, hnews⟩
    · exact Nat.lt_irrefl _ (h.heard _ hnews)
    · obtain ⟨-, old, hold, hsame, -⟩ := hpass.gone _ _ hnews
      exact hnobody old hold hsame

/-- Whatever moves, the record is right about the children. -/
theorem Tally.pass (h : Tally parent origin log s) (hpass : Passage mover forks news s s')
    (hstarted : started more parent =
      if mover = parent ∧ forks = true then [s.nextPid] else [])
    (htold : told more parent = if mover = parent then news.toList else [])
    (hends : ∀ pid, endings more pid = endings (lapsed s s') pid)
    (hpids : ∀ event ∈ more, event.pid < s.nextPid) :
    Tally parent origin (log ++ more) s' := by
  have hnext := hpass.next
  -- a child is on record already, or has just been made
  have hmem : ∀ {child}, child ∈ started (log ++ more) parent → child ∈ started log parent ∨
      (mover = parent ∧ forks = true) ∧ child = s.nextPid := by
    intro child hchild
    rw [started_append, hstarted, List.mem_append] at hchild
    refine hchild.imp_right fun hchild => ?_
    split at hchild
    · rename_i hforks
      exact ⟨hforks, List.mem_singleton.mp hchild⟩
    · cases hchild
  have hborn : forks = true → s.nextPid < s'.nextPid := by
    intro hforks
    obtain ⟨q, hq, hpid, -⟩ := hpass.born hforks
    exact hpid ▸ hpass.numbered q hq
  refine ⟨hpass.distinct, hpass.numbered, Nat.lt_of_lt_of_le h.below hnext, Nat.le_trans h.began hnext,
    ?_, ?_, ?_, ?_, ?_, ?_⟩
  · intro event hevent
    refine Nat.lt_of_lt_of_le ?_ hnext
    exact (List.mem_append.mp hevent).elim (h.noticed event) (hpids event)
  · rintro ⟨child, ending⟩ hnews
    refine Nat.lt_of_lt_of_le ?_ hnext
    rcases told_gone htold hnews with hnews | ⟨-, hnews⟩
    · exact h.heard _ hnews
    · obtain ⟨-, old, hold, rfl, -⟩ := hpass.gone _ _ hnews
      exact h.numbered old hold
  · intro child hchild
    rcases hmem hchild with hchild | ⟨⟨-, hforks⟩, rfl⟩
    · exact ⟨(h.fresh child hchild).1, Nat.lt_of_lt_of_le (h.fresh child hchild).2 hnext⟩
    · exact ⟨h.began, hborn hforks⟩
  · rw [started_append, hstarted]
    split
    · refine List.nodup_append.mpr ⟨h.nodup, List.pairwise_singleton _ _, fun old hold new hnew => ?_⟩
      rw [List.mem_singleton.mp hnew]
      exact Nat.ne_of_lt (h.fresh old hold).2
    · rw [List.append_nil]
      exact h.nodup
  · intro q hq hparent horigin
    rw [started_append]
    rcases hpass.origins q hq with ⟨old, hold, hheir⟩ | ⟨hforks, hpid, hmover, -⟩
    · rw [hheir.pid] at horigin ⊢
      exact List.mem_append_left _ (h.children old hold (hheir.parent ▸ hparent) horigin)
    · rw [hstarted, if_pos ⟨hmover.symm.trans hparent, hforks⟩, hpid]
      exact List.mem_append_right _ List.mem_cons_self
  · intro child hchild
    rcases hmem hchild with hchild | ⟨⟨hmine, hforks⟩, rfl⟩
    · exact (h.stands child hchild).pass h hpass htold hends (h.fresh child hchild).2
    · exact Stands.born h hpass htold hends hmine hforks

/-- What a process is told of the end of its child is how the child has ended. -/
theorem Tally.ending_of_told (h : Tally parent origin log s) {ending : Ending}
    (hchild : child ∈ started log parent) (htold : (child, ending) ∈ told log parent) :
    endings log child = [ending] := by
  cases h.stands child hchild with
  | there _ _ _ _ hquiet => exact absurd htold (hquiet ending)
  | gone _ hendings _ honly => rw [hendings, honly ending htold]

theorem pid_of_mem_noted (hp : s.process? pid = some p) {event : Event}
    (h : event ∈ noted launch s pid s') : ∃ q ∈ s.processes, event.pid = q.pid := by
  obtain ⟨hmem, hpid⟩ := mem_of_process? hp
  unfold noted at h
  rw [hp] at h
  rcases List.mem_append.mp h with h | h
  · obtain ⟨q, hq, h⟩ := List.mem_flatMap.mp h
    obtain ⟨deed, -, rfl⟩ := List.mem_map.mp h
    exact ⟨p, hmem, hpid.symm⟩
  · exact pid_of_mem_lapsed h

theorem started_noted (hdistinct : s.Distinct) (hp : s.process? pid = some p) :
    started (noted launch s pid s') parent =
      if pid = parent ∧ (p.program.request? == some .fork) = true then [s.nextPid] else [] := by
  unfold started
  rw [deeds_noted hp, List.filterMap_append, lapsed_filterMap hdistinct fun _ => rfl,
    List.append_nil]
  by_cases hmine : pid = parent
  · rw [if_pos hmine, doing_child?]
    simp [hmine]
  · rw [if_neg hmine, if_neg fun hboth => hmine hboth.1]
    rfl

theorem told_noted (hdistinct : s.Distinct) (hp : s.process? pid = some p) :
    told (noted launch s pid s') parent =
      if pid = parent then (p.program.request?.bind (s.news? pid)).toList else [] := by
  unfold told
  rw [deeds_noted hp, List.filterMap_append, lapsed_filterMap hdistinct fun _ => rfl,
    List.append_nil]
  by_cases hmine : pid = parent
  · rw [if_pos hmine, if_pos hmine, doing_news?, (mem_of_process? hp).2]
  · rw [if_neg hmine, if_neg hmine]
    rfl

theorem endings_noted (hp : s.process? pid = some p) (other : Pid) :
    endings (noted launch s pid s') other = endings (lapsed s s') other := by
  unfold endings
  rw [deeds_noted hp, List.filterMap_append]
  split
  · rw [doing_ending?, List.nil_append]
  · rw [List.filterMap_nil, List.nil_append]

/-- A step is recorded as it is. -/
theorem Tally.step (h : Tally parent origin log s) (hp : s.process? pid = some p)
    (hactive : p.active = true) (hstep : System.step launch s pid = some s') :
    Tally parent origin (log ++ noted launch s pid s') s' := by
  refine h.pass (step_passage h.distinct h.numbered hp hactive hstep) (started_noted h.distinct hp)
    (told_noted h.distinct hp) (endings_noted hp) fun event hevent => ?_
  obtain ⟨q, hq, heq⟩ := pid_of_mem_noted hp hevent
  exact heq ▸ h.numbered q hq

/-- A signal from outside starts no process and tells nothing. -/
theorem Tally.signal (h : Tally parent origin log s) (target : Pid) (number : Signal) :
    Tally parent origin (log ++ lapsed s (s.signal target number).2) (s.signal target number).2 := by
  obtain ⟨hnext, hheirs⟩ := heirs_signal h.distinct s.nextPid target number
  refine h.pass (passage_of_heirs h.distinct h.numbered hheirs hnext) ?_ ?_ (fun _ => rfl) ?_
  · unfold started
    rw [lapsed_filterMap h.distinct fun _ => rfl, if_neg fun hboth => Bool.false_ne_true hboth.2]
  · unfold told
    rw [lapsed_filterMap h.distinct fun _ => rfl]
    split <;> rfl
  · intro event hevent
    obtain ⟨old, hold, heq⟩ := pid_of_mem_lapsed hevent
    exact heq ▸ h.numbered old hold

/-- What there is to know of a process in a family. -/
def kinship (p : Process α) : Pid × Pid × Option Ending := (p.pid, p.parent, p.ending)

/-- Where all is as it was in the family, nothing is to be recorded. -/
theorem Tally.alike (h : Tally parent origin log s)
    (hsame : s'.processes.map kinship = s.processes.map kinship) (hnext : s'.nextPid = s.nextPid) :
    Tally parent origin log s' := by
  have hpids : s'.processes.map Process.pid = s.processes.map Process.pid := by
    have hfst := congrArg (List.map Prod.fst) hsame
    rwa [List.map_map, List.map_map] at hfst
  -- each process has one of the same number, parent and ending on the other side
  have hback : ∀ q ∈ s'.processes, ∃ old ∈ s.processes, kinship old = kinship q := fun q hq =>
    List.mem_map.mp (hsame ▸ List.mem_map_of_mem hq)
  refine ⟨?_, fun q hq => ?_, hnext ▸ h.below, hnext ▸ h.began, hnext ▸ h.noticed, hnext ▸ h.heard,
    hnext ▸ h.fresh, h.nodup, fun q hq hparent horigin => ?_, fun child hchild => ?_⟩
  · unfold Distinct
    rw [hpids]
    exact h.distinct
  · obtain ⟨old, hold, hkin⟩ := hback q hq
    rw [hnext, ← (Prod.mk.inj hkin).1]
    exact h.numbered old hold
  · obtain ⟨old, hold, hkin⟩ := hback q hq
    obtain ⟨hpid, hkin⟩ := Prod.mk.inj hkin
    rw [← hpid] at horigin ⊢
    exact h.children old hold ((Prod.mk.inj hkin).1.trans hparent) horigin
  · cases h.stands child hchild with
    | @there q hq hpid hparent hendings hquiet =>
        obtain ⟨q', hq', hkin⟩ : ∃ q' ∈ s'.processes, kinship q' = kinship q :=
          List.mem_map.mp (hsame ▸ List.mem_map_of_mem hq)
        obtain ⟨hpid', hkin⟩ := Prod.mk.inj hkin
        obtain ⟨hparent', hending'⟩ := Prod.mk.inj hkin
        exact .there hq' (hpid'.trans hpid) (hparent'.trans hparent) (hending' ▸ hendings) hquiet
    | gone hgone hendings hmem honly =>
        refine .gone (fun q hq => ?_) hendings hmem honly
        obtain ⟨old, hold, hkin⟩ := hback q hq
        exact (Prod.mk.inj hkin).1 ▸ hgone old hold

theorem kinship_setProcess (hdistinct : s.Distinct) (hp : p ∈ s.processes)
    (hkin : kinship q = kinship p) :
    (s.setProcess q).processes.map kinship = s.processes.map kinship := by
  have hpid : q.pid = p.pid := (Prod.mk.inj hkin).1
  unfold setProcess
  rw [List.map_map]
  refine List.map_congr_left fun old hold => ?_
  show kinship (if old.pid == q.pid then q else old) = kinship old
  split
  · rename_i hsame
    rw [hkin, hdistinct.eq_of_pid hp hold ((beq_iff_eq.mp hsame).trans hpid)]
  · rfl

end Tally

end System

end LineShell
