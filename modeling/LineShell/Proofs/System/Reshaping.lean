import LineShell.Proofs.System.Children
import LineShell.Proofs.System.Upkeep

/-!
# What the steps of a machine leave of the file tree

* **`Call.Spares`** — the nodes whose names a request cannot take away;
* **`upkeep_step`** — a step of any process keeps the store tidy, and those names;
* **`answer_directory`** — a process stays in its directory unless it asks to move.
-/

namespace LineShell

/-- The request takes names away, also those of directories. -/
def Call.relocates : Call → Bool
  | .rename .. | .removeDirectory _ => true
  | _ => false

/-- The request takes names away. -/
def Call.unnames : Call → Bool
  | .rename .. | .removeDirectory _ | .unlink _ => true
  | _ => false

/-- The request does not take the names of the node away. -/
def Call.Spares (call : Call) (files : Files) (id : NodeId) : Prop :=
  call.unnames = true → call.relocates = false ∧ files.IsFolder id

namespace System

open Files

variable {α : Type} {launch : Launcher} {s s' after : System α} {pid : Pid}
  {p answered : Process α} {call : Call} {listed : NodeId → Prop}

/-! ## Reading and writing -/

theorem files_readSome {table : Table} {fd : Fd} {count : Nat} {reply : Except Errno Bytes}
    (h : s.readSome table fd count = some (reply, after)) : after.files = s.files := by
  cases readSome_cases h <;> rfl

theorem level_writeSome {table : Table} {fd : Fd} {bytes : Bytes} {reply : Except Errno Bytes}
    (h : s.writeSome table fd bytes = some (reply, after)) : Level s.files after.files := by
  cases writeSome_outcome h with
  | refused | nothing | swallowed | queued => exact ⟨rfl, fun _ => rfl⟩
  | stored => exact level_setBytes

theorem files_waitFor {parent : Pid} {child : Option Pid} {reply : Except Errno (Pid × ChildNews)}
    (h : s.waitFor parent child = some (reply, after)) : after.files = s.files := by
  rcases waitFor_cases h with ⟨errno, -, rfl⟩ | ⟨gone, -, ending, -, -, -, -, rfl⟩
  · rfl
  · rfl

theorem files_signal (target : Pid) (number : Signal) :
    (s.signal target number).2.files = s.files := by
  rcases signal_cases s target number with heq | ⟨p, changed, -, -, -, heq⟩
  · rw [heq]
  · rw [heq]
    rfl

/-! ## Answers -/

section Answers

variable (htidy : Tidy s.files)

include htidy

theorem upkeep_refl : Upkeep s.files s.files listed :=
  Level.upkeep htidy ⟨rfl, fun _ => rfl⟩

theorem upkeep_of_files (h : after.files = s.files) : Upkeep s.files after.files listed := by
  rw [h]
  exact upkeep_refl htidy

theorem upkeep_reopen {endpoint opened : Endpoint} {access : Access} {files : Files}
    (h : reopen s.files endpoint access = .ok (opened, files)) :
    Upkeep s.files files listed := by
  unfold reopen at h
  split at h
  · cases h
    exact upkeep_refl htidy
  · cases h
    exact upkeep_refl htidy
  · cases h
    exact upkeep_refl htidy
  · split at h
    · cases h
    split at h
    · cases h
    split at h
    · cases h
    cases h
    split
    · exact level_setBytes.upkeep htidy
    · exact upkeep_refl htidy

theorem upkeep_endpointAt {path : Bytes} {access : Access} {endpoint : Endpoint} {files : Files}
    (h : s.endpointAt p path access = .ok (endpoint, files)) :
    Upkeep s.files files fun _ => True := by
  cases hown : ownFile? path with
  | none =>
      obtain ⟨id, hopen, -⟩ := endpointAt_of_ownFile? hown h
      exact upkeep_openPath htidy hopen
  | some fd =>
      unfold endpointAt at h
      rw [hown] at h
      dsimp only at h
      split at h
      · cases h
      · exact upkeep_reopen htidy h

/-- What a request for other names, modes or times does to the file tree. -/
theorem upkeep_rearranged {files : Files} (h : rearranged? s p call = some (.ok files)) :
    Upkeep s.files files (call.Spares s.files) := by
  -- only for three requests does it matter which nodes they spare
  have hall : Upkeep s.files files (fun _ => True) → Upkeep s.files files (call.Spares s.files) :=
    fun hup => hup.mono fun _ _ => trivial
  cases call with
  | makeDirectory path mode => exact hall (upkeep_makeDirectory htidy (Option.some.inj h))
  | hardLink source path => exact hall (upkeep_hardLink htidy (Option.some.inj h))
  | makeLink target path => exact hall (upkeep_makeLink htidy (Option.some.inj h))
  | setMode path mode => exact hall (upkeep_setMode htidy (Option.some.inj h))
  | setTime path follow time => exact hall (upkeep_setTime htidy (Option.some.inj h))
  | unlink path =>
      exact (upkeep_unlink htidy (Option.some.inj h)).mono fun id hspares => (hspares rfl).2
  | removeDirectory path =>
      exact (upkeep_removeDirectory htidy (Option.some.inj h)).mono fun id hspares =>
        Bool.noConfusion (hspares rfl).1
  | rename source path =>
      exact (upkeep_rename htidy (Option.some.inj h)).mono fun id hspares =>
        Bool.noConfusion (hspares rfl).1
  | _ => cases h

/-- What an answer does to the file tree. -/
theorem upkeep_answer {reply : call.Result} (h : s.answer p call = some (reply, answered, after)) :
    Upkeep s.files after.files (call.Spares s.files) := by
  cases answer_cases h with
  | still | closed | shared | waiting | placed | moved | adjusted => exact upkeep_refl htidy
  | opened hopened =>
      cases hopened with
      | refused => exact upkeep_refl htidy
      | opened _ hendpoint => exact (upkeep_endpointAt htidy hendpoint).mono fun _ _ => trivial
  | piped hmade =>
      obtain ⟨-, -, rfl⟩ := openPipe_ok hmade
      exact upkeep_refl htidy
  | told _ hwait => exact upkeep_of_files htidy (files_waitFor hwait)
  | read hread => exact upkeep_of_files htidy (files_readSome hread)
  | resized => exact level_setBytes.upkeep htidy
  | rearranged _ hfiles => exact upkeep_rearranged htidy hfiles

end Answers

/-- A process keeps its variables, and stays in its directory unless it asks to move. -/
theorem answer_directory {reply : call.Result}
    (h : s.answer p call = some (reply, answered, after)) :
    answered.bindings = p.bindings ∧
      ((∀ path, call ≠ .changeDirectory path) → answered.directory = p.directory) := by
  cases answer_cases h with
  | opened hopened => cases hopened <;> exact ⟨rfl, fun _ => rfl⟩
  | piped hmade =>
      obtain ⟨-, rfl, -⟩ := openPipe_ok hmade
      exact ⟨rfl, fun _ => rfl⟩
  | @moved path => exact ⟨rfl, fun hother => absurd rfl (hother path)⟩
  | _ => exact ⟨rfl, fun _ => rfl⟩

/-! ## Steps -/

/-- The nodes whose names a step of the process cannot take away. -/
def Spared (s : System α) (p : Process α) (id : NodeId) : Prop :=
  ∀ call, p.program.request? = some call → call.Spares s.files id

/-- What a step does to the file tree, whoever makes it. -/
theorem upkeep_step (htidy : Tidy s.files) (hp : s.process? pid = some p)
    (hstep : step launch s pid = some s') : Upkeep s.files s'.files (Spared s p) := by
  obtain ⟨found, hfound, hactive⟩ := process?_of_step hstep
  cases hp.symm.trans hfound
  cases step_cases hp hactive hstep with
  | unrolled | forked | became | refused | exited | idle => exact upkeep_refl htidy
  | @answered call _ _ _ _ _ hprogram _ hanswer =>
      refine (upkeep_answer htidy hanswer).mono fun id hspared => hspared call ?_
      rw [hprogram]
      rfl
  | read _ hread =>
      have hfiles := files_readSome hread
      exact upkeep_of_files htidy hfiles
  | wrote _ hwrite | dropped _ _ hwrite | flushed _ _ hwrite =>
      exact (level_writeSome hwrite).upkeep htidy
  | signalled =>
      have hfiles := files_signal (s := s)
      exact upkeep_of_files htidy (hfiles _ _)

end System

end LineShell
