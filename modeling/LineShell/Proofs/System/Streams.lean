import LineShell.Proofs.System.Effects
import LineShell.Proofs.System.Stores

/-!
# What flows through open files

What an open file still has to give, and what it takes.

* **`supply?`** — all that reading an open file to its end will give;
* **`readSome_draws`** — a read takes something off the front of it, or finds the end;
* **`Poured`** — what a write changes, which is what its open file leads to and nothing else
  (`writeSome_poured`);
* **`Takes`** — an open file that can be written, so that a write is not refused
  (`writeSome_of_takes`);
* **`Apart`** — what is written to one open file does not come back through another.
-/

namespace LineShell.System

variable {α : Type} {s after : System α} {table : Table} {fd : Fd} {descriptor : Descriptor}
  {count : Nat} {bytes rest : Bytes} {reply : Except Errno Bytes} {handle input output : Handle}
  {pipe : PipeId} {id : NodeId}

/-! ## Reading -/

/-- All that reading an open file will give until it comes to the end, if it comes there. -/
def supply? (s : System α) (handle : Handle) : Option Bytes :=
  match handle.endpoint with
  | .pipeReader pipe => some (s.queue pipe)
  | .pipeWriter _ => none
  | .terminal => some (s.typed.takeWhile fun piece => !piece.isEmpty).flatten
  | .node id =>
      match (s.files.node? id).map Node.content with
      | some (.regular bytes) => some (bytes.drop (s.position handle))
      | some (.device .null) => some []
      | _ => none

theorem supply?_of_pipeReader (h : handle.endpoint = .pipeReader pipe) :
    s.supply? handle = some (s.queue pipe) := by
  unfold supply?
  rw [h]

theorem queue_setQueue (h : pipe < s.pipes.length) {other : PipeId} :
    (s.setQueue pipe bytes).queue other = if other = pipe then bytes else s.queue other := by
  unfold queue setQueue
  dsimp only
  rw [List.getD_eq_getElem?_getD, List.getD_eq_getElem?_getD, List.getElem?_set]
  by_cases hother : pipe = other
  · subst hother
    rw [if_pos rfl, if_pos h, if_pos rfl]
    rfl
  · rw [if_neg hother, if_neg (Ne.symm hother)]

theorem lt_of_queue_ne_nil (h : s.queue pipe ≠ []) : pipe < s.pipes.length := by
  by_contra hge
  refine h ?_
  unfold queue
  rw [List.getD_eq_getElem?_getD, List.getElem?_eq_none (Nat.le_of_not_lt hge)]
  rfl

theorem position_setPosition {position : Nat} {other : Handle} :
    (s.setPosition handle position).position other =
      if other.cell = handle.cell ∧ handle.cell < s.cells.length then position
      else s.position other := by
  unfold System.position setPosition
  dsimp only
  rw [List.getD_eq_getElem?_getD, List.getD_eq_getElem?_getD, List.getElem?_set]
  by_cases hother : handle.cell = other.cell
  · rw [if_pos hother, ← hother]
    by_cases hlt : handle.cell < s.cells.length
    · rw [if_pos hlt, if_pos ⟨rfl, hlt⟩]
      rfl
    · rw [if_neg hlt, if_neg fun h => hlt h.2, List.getElem?_eq_none (Nat.le_of_not_lt hlt)]
  · rw [if_neg hother, if_neg fun h => hother h.1.symm]

theorem drop_length_take : bytes.drop (bytes.take count).length = bytes.drop count := by
  have hdrop := @List.drop_left _ (bytes.take count) (bytes.drop count)
  rwa [List.take_append_drop] at hdrop

/-- What a read changes: the source of its open file and nothing else. -/
structure Drawn (s after : System α) (handle : Handle) : Prop where
  quiet : Quiet s after
  files : after.files = s.files
  typed : handle.endpoint ≠ .terminal → after.typed = s.typed
  queue : ∀ pipe, handle.endpoint ≠ .pipeReader pipe → after.queue pipe = s.queue pipe
  position : ∀ other : Handle, (∀ id, handle.endpoint ≠ .node id) ∨ other.cell ≠ handle.cell →
    after.position other = s.position other

theorem Drawn.refl : Drawn s s handle :=
  ⟨.refl, rfl, fun _ => rfl, fun _ _ => rfl, fun _ _ => rfl⟩

theorem readSome_drawn (hget : table.get? fd = some descriptor)
    (h : s.readSome table fd count = some (reply, after)) : Drawn s after descriptor.handle := by
  have hquiet := quiet_readSome h
  cases readSome_cases h with
  | still => exact .refl
  | queued hfound hend hwaiting =>
      cases hget.symm.trans hfound
      refine ⟨hquiet, rfl, fun _ => rfl, fun other hother => ?_, fun _ _ => rfl⟩
      rw [queue_setQueue (lt_of_queue_ne_nil hwaiting), if_neg]
      rintro rfl
      exact hother hend
  | typed hfound hend =>
      cases hget.symm.trans hfound
      exact ⟨hquiet, rfl, fun hne => absurd hend hne, fun _ _ => rfl, fun _ _ => rfl⟩
  | @stored found id chunk position hfound hend =>
      cases hget.symm.trans hfound
      refine ⟨hquiet, rfl, fun _ => rfl, fun _ _ => rfl, fun other hother => ?_⟩
      rw [position_setPosition, if_neg]
      rintro ⟨hcell, -⟩
      rcases hother with hnode | hne
      · exact hnode id hend
      · exact hne hcell

/-- What a read makes of what an open file has to give. -/
inductive Draws (s after : System α) (handle : Handle) : Bytes → Except Errno Bytes → Prop
  /-- There is nothing left and, of a pipe, nobody holds the other end. -/
  | ended : (∀ pipe, handle.endpoint = .pipeReader pipe →
        s.held (.pipeWriter pipe) = false ∧ after = s) → Draws s after handle [] (.ok [])
  /-- Something is taken off the front. -/
  | front {chunk left : Bytes} : chunk ≠ [] → after.supply? handle = some left →
      Draws s after handle (chunk ++ left) (.ok chunk)

/-- A read takes no more than it has asked for. -/
theorem draws_take (more : Bytes) (hcount : 0 < count) (hne : bytes ≠ [])
    (hafter : after.supply? handle = some (bytes.drop count ++ more)) :
    Draws s after handle (bytes ++ more) (.ok (bytes.take count)) := by
  have hfront : bytes.take count ≠ [] := fun hnil =>
    (List.take_eq_nil_iff.mp hnil).elim (Nat.ne_of_gt hcount) hne
  have hdraws : Draws s after handle _ _ := .front hfront hafter
  rwa [← List.append_assoc, List.take_append_drop] at hdraws

/-- At the end of a file that is no pipe there is nothing else to be known. -/
theorem draws_ended (h : ∀ pipe, handle.endpoint ≠ .pipeReader pipe) :
    Draws s after handle [] (.ok []) :=
  .ended fun pipe hend => absurd hend (h pipe)

section Draws

variable (hget : table.get? fd = some descriptor) (hread : descriptor.handle.access.read = true)
  (hcount : 0 < count) (h : s.readSome table fd count = some (reply, after))

include hget hread hcount h

theorem draws_of_pipeReader (hend : descriptor.handle.endpoint = .pipeReader pipe) :
    Draws s after descriptor.handle (s.queue pipe) reply := by
  simp only [readSome, hget, hread, hend, Bool.not_true, Bool.false_eq_true, if_false] at h
  split_ifs at h with hwaiting hheld
  · cases h
    have hne : s.queue pipe ≠ [] := by simpa using hwaiting
    have hdraws : Draws s (s.setQueue pipe ((s.queue pipe).drop count)) descriptor.handle
        (s.queue pipe ++ []) (.ok ((s.queue pipe).take count)) := by
      refine draws_take [] hcount hne ?_
      rw [supply?_of_pipeReader hend, queue_setQueue (lt_of_queue_ne_nil hne), if_pos rfl,
        List.append_nil]
    rwa [List.append_nil] at hdraws
  · cases h
    rw [show s.queue pipe = [] by simpa using hwaiting]
    refine .ended fun other hother => ⟨?_, rfl⟩
    cases hend.symm.trans hother
    simpa using hheld

theorem draws_of_terminal (hend : descriptor.handle.endpoint = .terminal) :
    Draws s after descriptor.handle (s.typed.takeWhile fun piece => !piece.isEmpty).flatten
      reply := by
  have hnone : ∀ pipe, descriptor.handle.endpoint ≠ .pipeReader pipe := by simp [hend]
  simp only [readSome, hget, hread, hend, Bool.not_true, Bool.false_eq_true, if_false] at h
  -- what is typed ends with an empty piece, or with the last one
  rcases htyped : s.typed with _ | ⟨_ | ⟨byte, piece⟩, pieces⟩
  · rw [htyped] at h
    cases h
    exact draws_ended hnone
  · rw [htyped] at h
    simp only [List.take_nil] at h
    cases h
    exact draws_ended hnone
  · rw [htyped] at h
    cases h
    refine draws_take _ hcount (List.cons_ne_nil byte piece) ?_
    unfold supply?
    rw [hend]
    cases (byte :: piece).drop count <;> simp

theorem draws_of_regular (hend : descriptor.handle.endpoint = .node id)
    (hcell : descriptor.handle.cell < s.cells.length)
    (hcontent : (s.files.node? id).map Node.content = some (.regular bytes)) :
    Draws s after descriptor.handle (bytes.drop (s.position descriptor.handle)) reply := by
  have hnone : ∀ pipe, descriptor.handle.endpoint ≠ .pipeReader pipe := by simp [hend]
  simp only [readSome, hget, hread, hend, hcontent, Bool.not_true, Bool.false_eq_true,
    if_false] at h
  generalize hrest : bytes.drop (s.position descriptor.handle) = rest at h ⊢
  cases h
  by_cases hempty : rest = []
  · rw [hempty, List.take_nil]
    exact draws_ended hnone
  · -- the position moves behind what has been taken
    have hdraws : Draws s (s.setPosition descriptor.handle
        (s.position descriptor.handle + (rest.take count).length)) descriptor.handle
        (rest ++ []) (.ok (rest.take count)) := by
      refine draws_take [] hcount hempty ?_
      unfold supply?
      rw [hend]
      dsimp only
      rw [show ((s.setPosition _ _).files.node? id).map Node.content = _ from hcontent]
      dsimp only
      rw [position_setPosition, if_pos ⟨rfl, hcell⟩, ← List.drop_drop, hrest, drop_length_take,
        List.append_nil]
    rwa [List.append_nil] at hdraws

/-- A read takes something off the front of what the open file has to give, or it finds the end. -/
theorem readSome_draws (hcell : ∀ id, descriptor.handle.endpoint = .node id →
      descriptor.handle.cell < s.cells.length)
    (hsupply : s.supply? descriptor.handle = some rest) :
    Draws s after descriptor.handle rest reply := by
  unfold supply? at hsupply
  cases hend : descriptor.handle.endpoint with
  | pipeReader pipe =>
      rw [hend] at hsupply
      cases hsupply
      exact draws_of_pipeReader hget hread hcount h hend
  | pipeWriter pipe =>
      rw [hend] at hsupply
      cases hsupply
  | terminal =>
      rw [hend] at hsupply
      cases hsupply
      exact draws_of_terminal hget hread hcount h hend
  | node id =>
      rw [hend] at hsupply
      dsimp only at hsupply
      generalize hcontent : (s.files.node? id).map Node.content = content at hsupply
      rcases content with _ | bytes | _ | _ | kind | _
      case some.regular =>
        cases hsupply
        exact draws_of_regular hget hread hcount h hend (hcell id hend) hcontent
      case some.device =>
        cases kind with
        | null =>
            simp only [readSome, hget, hread, hend, hcontent, Bool.not_true, Bool.false_eq_true,
              if_false] at h
            cases hsupply
            cases h
            exact draws_ended (by simp [hend])
        | _ => cases hsupply
      all_goals cases hsupply

end Draws

/-! ## Writing -/

/-- What a write changes when it hands on some bytes: what its open file leads to, and nothing
else. -/
structure Poured (s after : System α) (handle : Handle) (bytes : Bytes) : Prop where
  quiet : Quiet s after
  typed : after.typed = s.typed
  queue : ∀ pipe, after.queue pipe =
    if handle.endpoint = .pipeWriter pipe then s.queue pipe ++ bytes else s.queue pipe
  alike : Files.Alike s.files after.files
  node? : ∀ id, handle.endpoint ≠ .node id → after.files.node? id = s.files.node? id
  position : ∀ other : Handle, (∀ id, handle.endpoint ≠ .node id) ∨ other.cell ≠ handle.cell →
    after.position other = s.position other
  written : ∀ id old, handle.endpoint = .node id → s.files.bytesOf? id = some old →
    after.files.bytesOf? id = some (if bytes = [] then old else Files.overwrite old
      (if handle.access.append then old.length else s.position handle) bytes) ∧
    (handle.access.append = false → handle.cell < s.cells.length →
      after.position handle = s.position handle + bytes.length)

theorem Poured.refl : Poured s s handle [] where
  quiet := .refl
  typed := rfl
  queue := fun pipe => by simp
  alike := .refl
  node? := fun _ _ => rfl
  position := fun _ _ => rfl
  written := fun id old _ hold => ⟨by rw [if_pos rfl, hold], fun _ _ => rfl⟩

/-- A write that changes nothing hands on everything to what is no pipe and no regular file. -/
theorem Poured.of_idle (hpipe : ∀ pipe, handle.endpoint ≠ .pipeWriter pipe)
    (hnode : ∀ id, handle.endpoint = .node id → s.files.bytesOf? id = none) :
    Poured s s handle bytes where
  quiet := .refl
  typed := rfl
  queue := fun pipe => by rw [if_neg (hpipe pipe)]
  alike := .refl
  node? := fun _ _ => rfl
  position := fun _ _ => rfl
  written := fun id old hend hold => absurd (hold.symm.trans (hnode id hend)) (by simp)

/-- Bytes that wait in a pipe behind what was there. -/
theorem Poured.of_queue (hend : handle.endpoint = .pipeWriter pipe) (hpipe : pipe < s.pipes.length) :
    Poured s (s.setQueue pipe (s.queue pipe ++ bytes)) handle bytes where
  quiet := quiet_setQueue
  typed := rfl
  queue := by
    intro other
    rw [queue_setQueue hpipe, hend]
    by_cases hother : other = pipe
    · rw [hother, if_pos rfl, if_pos rfl]
    · rw [if_neg hother, if_neg (by simpa using Ne.symm hother)]
  alike := .refl
  node? := fun _ _ => rfl
  position := fun _ _ => rfl
  written := fun id old hnode _ => absurd (hend.symm.trans hnode) (by simp)

/-- Bytes that are put into a regular file, and the open file stands behind them. -/
theorem Poured.of_store {id : NodeId} {old : Bytes} {position : Nat}
    (hend : handle.endpoint = .node id) (hbytes : bytes ≠ [])
    (hold : s.files.bytesOf? id = some old)
    (hposition : position = if handle.access.append then old.length else s.position handle) :
    Poured s (setPosition
        { s with files := s.files.setBytes id (Files.overwrite old position bytes) } handle
        (position + bytes.length)) handle bytes where
  quiet := ⟨rfl, rfl, rfl, List.length_set⟩
  typed := rfl
  queue := fun pipe => by
    rw [if_neg (by simp [hend])]
    rfl
  alike := Files.alike_setBytes
  node? := fun other hother => Files.node?_setBytes fun heq => hother (heq ▸ hend)
  position := by
    intro other hother
    rw [position_setPosition, if_neg]
    · rfl
    · rintro ⟨hcell, -⟩
      rcases hother with hnode | hne
      · exact hnode id hend
      · exact hne hcell
  written := by
    intro other kept hnode hkept
    obtain rfl : id = other := by simpa [hend] using hnode
    cases hold.symm.trans hkept
    refine ⟨?_, fun happend hcell => ?_⟩
    · show (s.files.setBytes id _).bytesOf? id = _
      rw [Files.bytesOf?_setBytes hold, if_pos rfl, if_neg hbytes, hposition]
    · rw [position_setPosition, if_pos ⟨rfl, hcell⟩, hposition, if_neg (by simp [happend])]

/-- A write is refused and changes nothing, or hands on a part of its bytes. -/
theorem writeSome_poured (hget : table.get? fd = some descriptor)
    (hpipe : ∀ pipe, descriptor.handle.endpoint = .pipeWriter pipe → pipe < s.pipes.length)
    (h : s.writeSome table fd bytes = some (reply, after)) :
    (∃ errno, reply = .error errno ∧ after = s) ∨
      ∃ chunk left, reply = .ok left ∧ bytes = chunk ++ left ∧
        Poured s after descriptor.handle chunk := by
  cases writeSome_outcome h with
  | refused => exact .inl ⟨_, rfl, rfl⟩
  | nothing hempty =>
      subst hempty
      exact .inr ⟨[], [], rfl, rfl, .refl⟩
  | swallowed hfound hother hcontent =>
      cases hget.symm.trans hfound
      refine .inr ⟨bytes, [], rfl, (List.append_nil _).symm, .of_idle hother fun id hend => ?_⟩
      cases hbytes : s.files.bytesOf? id with
      | none => rfl
      | some old => exact absurd (Files.bytesOf?_eq_some.mp hbytes) (hcontent id old hend)
  | queued hfound hend =>
      cases hget.symm.trans hfound
      exact .inr ⟨_, _, rfl, (List.take_append_drop _ _).symm, .of_queue hend (hpipe _ hend)⟩
  | stored hfound hend hbytes hcontent hposition =>
      cases hget.symm.trans hfound
      exact .inr ⟨bytes, [], rfl, (List.append_nil _).symm,
        .of_store hend hbytes (Files.bytesOf?_eq_some.mpr hcontent) hposition⟩

/-- A write changes nothing, or what its open file leads to. -/
theorem writeSome_cases {reply : Except Errno Bytes}
    (hpipe : ∀ descriptor, table.get? fd = some descriptor → ∀ pipe,
      descriptor.handle.endpoint = .pipeWriter pipe → pipe < s.pipes.length)
    (h : s.writeSome table fd bytes = some (reply, after)) :
    after = s ∨ ∃ descriptor chunk, table.get? fd = some descriptor ∧
      Poured s after descriptor.handle chunk := by
  cases hget : table.get? fd with
  | none =>
      unfold writeSome at h
      rw [hget] at h
      cases h
      exact .inl rfl
  | some descriptor =>
      rcases writeSome_poured hget (hpipe descriptor hget) h with
        ⟨errno, -, rfl⟩ | ⟨chunk, left, -, -, hpoured⟩
      · exact .inl rfl
      · exact .inr ⟨descriptor, chunk, rfl, hpoured⟩

/-- The open file can be written, as far as that does not depend on who holds the other end. -/
def Takes (s : System α) (handle : Handle) : Prop :=
  handle.access.write = true ∧ match handle.endpoint with
    | .pipeWriter _ | .terminal => True
    | .pipeReader _ => False
    | .node id => (∃ bytes, s.files.bytesOf? id = some bytes) ∨
        ∃ kind, kind ≠ .full ∧ (s.files.node? id).map Node.content = some (.device kind)

/-- A write to an open file that can be written is not refused, if somebody can read the pipe. -/
theorem writeSome_of_takes (hget : table.get? fd = some descriptor) (htakes : s.Takes descriptor.handle)
    (hheld : ∀ pipe, descriptor.handle.endpoint = .pipeWriter pipe →
      s.held (.pipeReader pipe) = true)
    (h : s.writeSome table fd bytes = some (reply, after)) : ∃ left, reply = .ok left := by
  obtain ⟨hwrite, htakes⟩ := htakes
  unfold writeSome at h
  rw [hget] at h
  dsimp only at h
  rw [hwrite] at h
  simp only [Bool.not_true, Bool.false_eq_true, if_false] at h
  cases hend : descriptor.handle.endpoint with
  | pipeWriter pipe =>
      rw [hend] at h
      dsimp only at h
      rw [hheld pipe hend] at h
      simp only [Bool.not_true, Bool.false_eq_true, if_false] at h
      split_ifs at h <;> exact ⟨_, ((Prod.mk.inj (Option.some.inj h)).1).symm⟩
  | pipeReader pipe =>
      rw [hend] at htakes
      exact htakes.elim
  | terminal =>
      rw [hend] at h
      cases h
      exact ⟨_, rfl⟩
  | node id =>
      rw [hend] at h htakes
      dsimp only at h htakes
      rcases htakes with ⟨old, hold⟩ | ⟨kind, hkind, hcontent⟩
      · rw [Files.bytesOf?_eq_some.mp hold] at h
        dsimp only at h
        split_ifs at h <;> exact ⟨_, ((Prod.mk.inj (Option.some.inj h)).1).symm⟩
      · rw [hcontent] at h
        cases kind with
        | full => exact absurd rfl hkind
        | _ => exact ⟨_, ((Prod.mk.inj (Option.some.inj h)).1).symm⟩

theorem Takes.alike (h : Takes s handle) (halike : Files.Alike s.files after.files) :
    Takes after handle := by
  obtain ⟨hwrite, htakes⟩ := h
  refine ⟨hwrite, ?_⟩
  cases hend : handle.endpoint with
  | node id =>
      rw [hend] at htakes
      rcases htakes with ⟨bytes, hbytes⟩ | ⟨kind, hkind, hcontent⟩
      · exact .inl (halike.bytesOf? hbytes)
      · rcases halike.content id with heq | ⟨old, new, -, hold⟩
        · exact .inr ⟨kind, hkind, heq.trans hcontent⟩
        · exact absurd (hcontent.symm.trans hold) (by simp)
  | pipeReader pipe =>
      rw [hend] at htakes
      exact htakes
  | _ => trivial

/-! ## Streams that do not meet -/

/-- What is written to the one open file does not come back through the other. -/
def Apart (s : System α) (input output : Handle) : Prop :=
  match input.endpoint with
  | .pipeReader pipe => output.endpoint ≠ .pipeWriter pipe
  | .node id => s.files.bytesOf? id ≠ none →
      output.endpoint ≠ .node id ∧ ((∃ other, output.endpoint = .node other) →
        output.cell ≠ input.cell)
  | _ => True

/-- Of a store, it matters whether the one open file leads to a regular file. -/
theorem Apart.congr (h : Apart s input output) (hregular : ∀ id, input.endpoint = .node id →
      after.files.bytesOf? id ≠ none → s.files.bytesOf? id ≠ none) :
    Apart after input output := by
  unfold Apart at h ⊢
  cases hend : input.endpoint with
  | node id =>
      rw [hend] at h
      exact fun hbytes => h (hregular id hend hbytes)
  | pipeReader pipe =>
      rw [hend] at h
      exact h
  | _ => trivial

theorem Apart.alike (h : Apart s input output) (halike : Files.Alike s.files after.files) :
    Apart after input output := by
  refine h.congr fun id _ hregular => ?_
  obtain ⟨bytes, hbytes⟩ := Option.ne_none_iff_exists'.mp hregular
  rcases halike.content id with heq | ⟨old, new, -, hold⟩
  · rw [Files.bytesOf?_eq_some.mpr (heq.symm.trans (Files.bytesOf?_eq_some.mp hbytes))]
    exact Option.some_ne_none _
  · rw [Files.bytesOf?_eq_some.mpr hold]
    exact Option.some_ne_none _

/-- The files, the pipes, the terminal and the positions are as they were. -/
structure Still (s after : System α) : Prop where
  alike : Files.Alike s.files after.files
  node? : ∀ id, after.files.node? id = s.files.node? id
  typed : after.typed = s.typed
  queue : ∀ pipe, after.queue pipe = s.queue pipe
  position : ∀ handle, after.position handle = s.position handle
  cells : s.cells.length ≤ after.cells.length

theorem Still.refl : Still s s :=
  ⟨.refl, fun _ => rfl, rfl, fun _ => rfl, fun _ => rfl, Nat.le_refl _⟩

theorem still_setProcess {p : Process α} : Still s (s.setProcess p) :=
  ⟨.refl, fun _ => rfl, rfl, fun _ => rfl, fun _ => rfl, Nat.le_refl _⟩

theorem still_setClock {time : Nat} : Still s (s.setClock time) :=
  ⟨Files.alike_setTime, fun _ => rfl, rfl, fun _ => rfl, fun _ => rfl, Nat.le_refl _⟩

theorem still_forget {gone : Pid} : Still s (s.forget gone) :=
  ⟨.refl, fun _ => rfl, rfl, fun _ => rfl, fun _ => rfl, Nat.le_refl _⟩

theorem Still.trans {last : System α} (h : Still s after) (hlast : Still after last) :
    Still s last where
  alike := h.alike.trans hlast.alike
  node? := fun id => (hlast.node? id).trans (h.node? id)
  typed := hlast.typed.trans h.typed
  queue := fun pipe => (hlast.queue pipe).trans (h.queue pipe)
  position := fun handle => (hlast.position handle).trans (h.position handle)
  cells := Nat.le_trans h.cells hlast.cells

/-- A new position is that of the start. -/
theorem position_append {cells : List Nat} (h : after.cells = s.cells ++ cells)
    (hzero : ∀ cell ∈ cells, cell = 0) : after.position handle = s.position handle := by
  unfold System.position
  rw [h, List.getD_eq_getElem?_getD, List.getD_eq_getElem?_getD]
  by_cases hlt : handle.cell < s.cells.length
  · rw [List.getElem?_append_left hlt]
  · rw [List.getElem?_append_right (Nat.le_of_not_lt hlt),
      List.getElem?_eq_none (Nat.le_of_not_lt hlt)]
    cases hcell : cells[handle.cell - s.cells.length]? with
    | none => rfl
    | some cell => exact hzero cell (List.mem_of_getElem? hcell)

/-- A new pipe is empty, so nothing flows when it is made. -/
theorem still_openPipe {p answered : Process α} {ends : Fd × Fd}
    (h : s.openPipe p = (.ok ends, answered, after)) : Still s after := by
  obtain ⟨-, -, rfl⟩ := openPipe_ok h
  refine ⟨.refl, fun _ => rfl, rfl, fun pipe => ?_, fun handle => ?_, ?_⟩
  · show (s.pipes ++ [[]]).getD pipe [] = s.pipes.getD pipe []
    rw [List.getD_eq_getElem?_getD, List.getD_eq_getElem?_getD]
    by_cases hlt : pipe < s.pipes.length
    · rw [List.getElem?_append_left hlt]
    · rw [List.getElem?_append_right (Nat.le_of_not_lt hlt),
        List.getElem?_eq_none (Nat.le_of_not_lt hlt)]
      cases pipe - s.pipes.length <;> rfl
  · exact position_append (List.append_assoc s.cells [0] [0]) (by simp)
  · show s.cells.length ≤ (s.cells ++ [0] ++ [0]).length
    simp

/-- Of a store, only the node that an open file leads to matters to it. -/
theorem supply?_congr (hnode : ∀ id, handle.endpoint = .node id →
      (after.files.node? id).map Node.content = (s.files.node? id).map Node.content)
    (htyped : handle.endpoint = .terminal → after.typed = s.typed)
    (hqueue : ∀ pipe, handle.endpoint = .pipeReader pipe → after.queue pipe = s.queue pipe)
    (hposition : ∀ id, handle.endpoint = .node id → s.files.bytesOf? id ≠ none →
      after.position handle = s.position handle) :
    after.supply? handle = s.supply? handle := by
  unfold supply?
  cases hend : handle.endpoint with
  | pipeReader pipe =>
      dsimp only
      rw [hqueue pipe hend]
  | pipeWriter pipe => rfl
  | terminal =>
      dsimp only
      rw [htyped hend]
  | node id =>
      dsimp only
      rw [hnode id hend]
      cases hcontent : (s.files.node? id).map Node.content with
      | none => rfl
      | some content =>
          cases content with
          | regular bytes =>
              dsimp only
              rw [hposition id hend]
              rw [Files.bytesOf?_eq_some.mpr hcontent]
              exact Option.some_ne_none bytes
          | device kind => cases kind <;> rfl
          | _ => rfl

theorem Still.supply? (h : Still s after) : after.supply? handle = s.supply? handle :=
  supply?_congr (fun id _ => by rw [h.node?]) (fun _ => h.typed) (fun pipe _ => h.queue pipe)
    fun _ _ _ => h.position handle

/-- What is read from a pipe leaves what other open files have to give. -/
theorem Drawn.supply? (h : Drawn s after handle) (hend : handle.endpoint = .pipeReader pipe)
    (hother : input.endpoint ≠ .pipeReader pipe) : after.supply? input = s.supply? input := by
  refine supply?_congr (fun id _ => by rw [h.files]) (fun _ => h.typed (by simp [hend])) ?_
    fun id _ _ => h.position input (.inl (by simp [hend]))
  rintro other hinput
  refine h.queue other fun heq => hother ?_
  rw [hinput, ← heq, hend]

/-- What is written elsewhere leaves what an open file has to give. -/
theorem Poured.supply? (h : Poured s after output bytes) (hapart : Apart s input output) :
    after.supply? input = s.supply? input := by
  unfold Apart at hapart
  refine supply?_congr (fun id hend => ?_) (fun _ => h.typed) (fun pipe hend => ?_)
    fun id hend hregular => ?_
  · rw [hend] at hapart
    cases hbytes : s.files.bytesOf? id with
    | none =>
        -- Of what is no regular file, writing changes nothing.
        rcases h.alike.content id with heq | ⟨old, new, -, hold⟩
        · exact heq
        · exact absurd (hbytes.symm.trans (Files.bytesOf?_eq_some.mpr hold)) (by simp)
    | some old =>
        rw [h.node? id (hapart (by simp [hbytes])).1]
  · rw [hend] at hapart
    rw [h.queue, if_neg hapart]
  · rw [hend] at hapart
    obtain ⟨hne, hcell⟩ := hapart hregular
    refine h.position input ?_
    by_cases hnode : ∃ other, output.endpoint = .node other
    · exact .inr (Ne.symm (hcell hnode))
    · exact .inl fun other hother => hnode ⟨other, hother⟩

end LineShell.System
