import LineShell.Proofs.System.Ways
import Mathlib.Data.List.Basic

/-!
# What comes out on standard output

A process writes through a writer that may hold back what was written last until it is told to write
all of it. A process that is made in the meantime has a copy of what is held back, and may write it
too.

* **`Outflow`** — what has been written, what is held back, what has come out and where it came from;
* **`Outflow.world`** — the world in which a process goes on from there: the writer and the children
  may let something out at any time;
* **`MayAsk`** — nothing is held back when a child is made, nothing is written while one is under
  way, and nothing is written past the writer;
* **`Tidy`** — what has come out is in order; whatever may be asked keeps it so (`Tidy.step`).
-/

namespace LineShell

/-- A piece of what has come out, and where it came from. Children are counted in the order in which
they were made. -/
inductive Piece where
  /-- The process itself has written it. -/
  | own (bytes : Bytes)
  /-- A child that is under way has written it. -/
  | stage (birth : Nat) (bytes : Bytes)
  /-- Somebody has written it who was left behind by a child, under way or not. -/
  | straggler (birth : Nat) (bytes : Bytes)
  /-- A child has written it of its copy of what was held back. -/
  | copied (birth : Nat) (bytes : Bytes)
  deriving DecidableEq

/-- What there is to know of the time when a child was made. -/
structure Birth where
  /-- What the process had written by then. -/
  said : Bytes
  /-- What was held back of it, of which the child has a copy. -/
  copy : Bytes
  deriving DecidableEq

/-- What a process has written to standard output, and what has come out there. -/
structure Outflow where
  /-- What is held back. -/
  held : Bytes
  /-- All that the process has written, whether it has come out or not. -/
  said : Bytes
  /-- What has come out. -/
  pieces : List Piece
  /-- The children that have been made. -/
  births : List Birth
  /-- The children that are under way, each with its place among all of them. -/
  living : List (Pid × Nat)
  /-- Whenever the writer was told to write everything, it did. -/
  sound : Bool
  deriving DecidableEq

namespace Outflow

/-- Nothing has been written. -/
def fresh : Outflow := ⟨[], [], [], [], [], true⟩

/-- Something comes out. -/
def push (s : Outflow) (piece : Piece) : Outflow := { s with pieces := s.pieces ++ [piece] }

/-- What comes out without being asked for: some of what is held back, what a child writes, and what
it writes of its copy. -/
inductive Flows (s : Outflow) : Outflow → Prop
  | still : Flows s s
  | release {m : Outflow} {given kept : Bytes} : Flows s m → m.held = given ++ kept →
      Flows s (push { m with held := kept } (.own given))
  | stage {m : Outflow} {child : Pid} {birth : Nat} {bytes : Bytes} : Flows s m →
      (child, birth) ∈ m.living → Flows s (m.push (.stage birth bytes))
  | straggler {m : Outflow} {birth : Nat} {bytes : Bytes} : Flows s m → birth < m.births.length →
      Flows s (m.push (.straggler birth bytes))
  | copied {m : Outflow} {birth : Nat} {mother : Birth} {bytes : Bytes} : Flows s m →
      m.births[birth]? = some mother → bytes ≠ [] → bytes <:+: mother.copy →
      Flows s (m.push (.copied birth bytes))

/-- The request and its answer have nothing to do with standard output. -/
def Aside : (call : Call) → call.Result → Prop
  | .put _, _ | .flush, _ | .fork, _ => False
  | .write fd _, _ => fd ≠ Fd.stdout
  | .wait _, .ok (_, .ended _) => False
  | _, _ => True

/-- What an answer to a request leaves. What is written past the writer comes out before anything that
is held back. -/
inductive Answers (s : Outflow) : (call : Call) → call.Result → Outflow → Prop
  | put {bytes : Bytes} :
      Answers s (.put bytes) () { s with held := s.held ++ bytes, said := s.said ++ bytes }
  | flushed : Answers s .flush (.ok ()) (push { s with held := [] } (.own s.held))
  | stuck {errno : Errno} : Answers s .flush (.error errno) { s with sound := false }
  | past {bytes given : Bytes} {answer : Except Errno Unit} : given <+: bytes →
      Answers s (.write Fd.stdout bytes) answer
        (push { s with said := s.said ++ given } (.own given))
  | born {child : Pid} : (∀ entry ∈ s.living, entry.1 ≠ child) →
      Answers s .fork (.ok (.parent child)) { s with
        births := s.births ++ [⟨s.said, s.held⟩]
        living := s.living ++ [(child, s.births.length)] }
  | unborn {errno : Errno} : Answers s .fork (.error errno) s
  | gone {wanted : Option Pid} {child : Pid} {ending : Ending} :
      (∀ other, wanted = some other → child = other) →
      Answers s (.wait wanted) (.ok (child, .ended ending)) { s with
        living := s.living.filter fun entry => entry.1 != child }
  | aside {call : Call} {answer : call.Result} : Aside call answer → Answers s call answer s

/-- A process goes on: before each answer anything may come out. -/
def world : World Outflow := fun s call answer s' => ∃ m, Flows s m ∧ Answers m call answer s'

/-! ## What stays as it is -/

variable {s s' m : Outflow} {call : Call} {answer : call.Result}

/-- What comes out without being asked for changes nothing else. -/
structure Same (s m : Outflow) : Prop where
  said : m.said = s.said
  births : m.births = s.births
  living : m.living = s.living
  sound : m.sound = s.sound
  held : s.held = [] → m.held = []

theorem Flows.same (h : Flows s m) : Same s m := by
  induction h with
  | still => exact ⟨rfl, rfl, rfl, rfl, id⟩
  | @release m given kept _ hsplit ih =>
      refine ⟨ih.said, ih.births, ih.living, ih.sound, fun hnone => ?_⟩
      rw [ih.held hnone] at hsplit
      exact (List.append_eq_nil_iff.mp hsplit.symm).2
  | stage _ _ ih | straggler _ _ ih | copied _ _ _ _ ih =>
      exact ⟨ih.said, ih.births, ih.living, ih.sound, ih.held⟩

/-- A writer that has failed once has failed for good. -/
theorem sound_of_world (h : world s call answer s') (hsound : s'.sound = true) : s.sound = true := by
  obtain ⟨m, hflows, hanswers⟩ := h
  rw [← hflows.same.sound]
  cases hanswers with
  | stuck => cases hsound
  | put | flushed | past | born | unborn | gone | aside => exact hsound

/-- Only a child that is made is under way all at once. -/
theorem living_of_world (h : world s call answer s') (hfork : call ≠ .fork) :
    ∀ entry ∈ s'.living, entry ∈ s.living := by
  obtain ⟨m, hflows, hanswers⟩ := h
  rw [← hflows.same.living]
  cases hanswers with
  | born => exact absurd rfl hfork
  | gone => exact fun entry hentry => (List.mem_filter.mp hentry).1
  | put | flushed | stuck | past | unborn | aside => exact fun entry => id

/-- Nothing is held back all at once but what is written. -/
theorem held_of_world (h : world s call answer s') (hput : ∀ bytes, call ≠ .put bytes)
    (hheld : s.held = []) : s'.held = [] := by
  obtain ⟨m, hflows, hanswers⟩ := h
  have hnone := hflows.same.held hheld
  cases hanswers with
  | put => exact absurd rfl (hput _)
  | flushed => rfl
  | stuck | past | born | unborn | gone | aside => exact hnone

/-! ## What may be asked -/

/-- Nothing is held back, if the writer has never failed. -/
def Clear (s : Outflow) : Prop := s.sound = true → s.held = []

/-- No other child is under way, if the writer has never failed. -/
def Only (children : List Pid) (s : Outflow) : Prop :=
  s.sound = true → ∀ entry ∈ s.living, entry.1 ∈ children

/-- Nothing is held back when a child is made or the process asks for its number, no child is under
way when something is written, and nothing is written past the writer. -/
def MayAsk (s : Outflow) : Call → Prop
  | .put _ => Only [] s
  | .write fd _ => fd ≠ Fd.stdout
  | .fork | .processId => Clear s
  | _ => True

theorem Only.kept {children : List Pid} (h : Only children s) (hw : world s call answer s')
    (hfork : call ≠ .fork) : Only children s' :=
  fun hsound entry hentry => h (sound_of_world hw hsound) entry (living_of_world hw hfork entry hentry)

theorem Clear.kept (h : Clear s) (hw : world s call answer s') (hput : ∀ bytes, call ≠ .put bytes) :
    Clear s' :=
  fun hsound => held_of_world hw hput (h (sound_of_world hw hsound))

/-- A child that has been made is one of those that are under way. -/
theorem Only.born {children : List Pid} {child : Pid} (h : Only children s)
    (hw : world s .fork (.ok (.parent child)) s') : Only (children ++ [child]) s' := by
  obtain ⟨m, hflows, hanswers⟩ := hw
  have hsame := hflows.same
  intro hsound entry hentry
  cases hanswers with
  | born =>
      rcases List.mem_append.mp hentry with hold | hnew
      · exact List.mem_append_left _ (h (hsame.sound ▸ hsound) entry (hsame.living ▸ hold))
      · rw [List.mem_singleton.mp hnew]
        exact List.mem_append_right _ List.mem_cons_self
  | aside haside => exact haside.elim

/-- A child that has ended is under way no more. -/
theorem Only.gone {left : List Pid} {child pid : Pid} {ending : Ending} (h : Only (child :: left) s)
    (hw : world s (.wait (some child)) (.ok (pid, .ended ending)) s') : Only left s' := by
  obtain ⟨m, hflows, hanswers⟩ := hw
  have hsame := hflows.same
  intro hsound entry hentry
  cases hanswers with
  | gone hwanted =>
      obtain ⟨hold, hne⟩ := List.mem_filter.mp hentry
      have hin := h (hsame.sound ▸ hsound) entry (hsame.living ▸ hold)
      rw [hwanted child rfl] at hne
      exact (List.mem_cons.mp hin).resolve_left (by simpa using hne)
  | aside haside => exact haside.elim

/-- What the process itself has written of what has come out. -/
def written (pieces : List Piece) : Bytes :=
  pieces.flatMap fun
    | .own bytes => bytes
    | _ => []

/-- A piece is where it belongs behind what the process itself had written. What a child writes
while it is under way comes right behind all that was written before the child was made, and what
anybody writes whom it leaves behind comes somewhere behind that. Nobody writes a copy. -/
def Fits (births : List Birth) (before : Bytes) : Piece → Prop
  | .own _ => True
  | .stage birth _ => ∃ mother, births[birth]? = some mother ∧ before = mother.said
  | .straggler birth _ => ∃ mother, births[birth]? = some mother ∧ mother.said <+: before
  | .copied .. => False

/-- What has come out is in order: with what is held back, the process's own pieces make up what it
has written, and every piece is where it belongs. -/
structure InOrder (s : Outflow) : Prop where
  whole : written s.pieces ++ s.held = s.said
  fits : ∀ place piece, s.pieces[place]? = some piece →
    Fits s.births (written (s.pieces.take place)) piece

/-- What has come out is in order and will stay so: no child has a copy of anything, all that was
written before a child was made has come out, and nothing has been written while one was under
way. -/
structure Tidy (s : Outflow) : Prop extends InOrder s where
  clean : ∀ mother ∈ s.births, mother.copy = []
  early : ∀ mother ∈ s.births, mother.said <+: written s.pieces
  present : ∀ entry ∈ s.living, s.held = [] ∧
    ∃ mother, s.births[entry.2]? = some mother ∧ mother.said = s.said

theorem written_append (pieces : List Piece) (piece : Piece) :
    written (pieces ++ [piece]) = written pieces ++ written [piece] := List.flatMap_append

theorem written_own (bytes : Bytes) : written [.own bytes] = bytes := List.append_nil _

theorem Fits.append {births more : List Birth} {before : Bytes} {piece : Piece}
    (h : Fits births before piece) : Fits (births ++ more) before piece := by
  have hkeep : ∀ {birth : Nat} {mother : Birth}, births[birth]? = some mother →
      (births ++ more)[birth]? = some mother := fun hget =>
    (List.getElem?_append_left (List.getElem?_eq_some_iff.mp hget).1).trans hget
  cases piece with
  | own => trivial
  | stage birth bytes | straggler birth bytes =>
      obtain ⟨mother, hget, hbefore⟩ := h
      exact ⟨mother, hkeep hget, hbefore⟩
  | copied => exact h

/-- One more piece that is where it belongs. -/
theorem fits_push {births : List Birth} {pieces : List Piece} {piece : Piece}
    (h : ∀ place piece, pieces[place]? = some piece →
      Fits births (written (pieces.take place)) piece)
    (hpiece : Fits births (written pieces) piece) (place : Nat) (other : Piece)
    (hget : (pieces ++ [piece])[place]? = some other) :
    Fits births (written ((pieces ++ [piece]).take place)) other := by
  rw [List.getElem?_append] at hget
  split at hget
  · rename_i hlt
    rw [List.take_append_of_le_length (Nat.le_of_lt hlt)]
    exact h place other hget
  · rename_i hnot
    rw [List.getElem?_singleton] at hget
    split at hget
    · rename_i hzero
      cases hget
      obtain rfl : place = pieces.length := by omega
      rw [List.take_left]
      exact hpiece
    · cases hget

/-- A piece that somebody else writes. -/
theorem Tidy.push (h : Tidy s) {piece : Piece} (hpiece : Fits s.births (written s.pieces) piece)
    (hother : written [piece] = []) : Tidy (s.push piece) := by
  have hsame : written (s.push piece).pieces = written s.pieces := by
    show written (s.pieces ++ [piece]) = _
    rw [written_append, hother, List.append_nil]
  exact ⟨⟨hsame ▸ h.whole, fits_push h.fits hpiece⟩, h.clean, fun mother hmem =>
    hsame ▸ h.early mother hmem, h.present⟩

/-- Some of what is held back comes out. -/
theorem Tidy.release (h : Tidy s) {given kept : Bytes} (hsplit : s.held = given ++ kept) :
    Tidy (Outflow.push { s with held := kept } (.own given)) := by
  have hmore : written (s.pieces ++ [.own given]) = written s.pieces ++ given := by
    rw [written_append, written_own]
  refine ⟨⟨?_, fits_push h.fits trivial⟩, h.clean, fun mother hmem => ?_, fun entry hentry => ?_⟩
  · show written (s.pieces ++ [.own given]) ++ kept = s.said
    rw [hmore, List.append_assoc, ← hsplit]
    exact h.whole
  · show mother.said <+: written (s.pieces ++ [.own given])
    rw [hmore]
    exact (h.early mother hmem).trans (List.prefix_append _ _)
  · obtain ⟨hnone, hmother⟩ := h.present entry hentry
    rw [hnone] at hsplit
    exact ⟨(List.append_eq_nil_iff.mp hsplit.symm).2, hmother⟩

/-- Whatever comes out without being asked for, it is in order. -/
theorem Tidy.flows (h : Tidy s) (hflows : Flows s m) : Tidy m := by
  induction hflows with
  | still => exact h
  | release _ hsplit ih => exact ih.release hsplit
  | stage _ hliving ih =>
      obtain ⟨hnone, mother, hget, hsaid⟩ := ih.present _ hliving
      have hwhole := ih.whole
      rw [hnone, List.append_nil] at hwhole
      exact ih.push ⟨mother, hget, hwhole.trans hsaid.symm⟩ rfl
  | straggler _ hlt ih =>
      exact ih.push ⟨_, List.getElem?_eq_getElem hlt, ih.early _ (List.getElem_mem hlt)⟩ rfl
  | copied _ hget hsome hinfix ih =>
      -- there is nothing in the copy
      rw [ih.clean _ (List.mem_of_getElem? hget)] at hinfix
      exact absurd (List.infix_nil.mp hinfix) hsome

/-- Whatever may be asked keeps everything in order. -/
theorem Tidy.answers (h : Tidy s) (hsound : s'.sound = true) (hput : ∀ bytes, call = .put bytes →
      s.living = []) (hwrite : ∀ bytes, call ≠ .write Fd.stdout bytes)
    (hfork : call = .fork → s.held = []) (hanswers : Answers s call answer s') : Tidy s' := by
  cases hanswers with
  | @put bytes =>
      refine ⟨⟨?_, h.fits⟩, h.clean, h.early, fun entry hentry => ?_⟩
      · show written s.pieces ++ (s.held ++ bytes) = s.said ++ bytes
        rw [← h.whole, List.append_assoc]
      · rw [show s.living = [] from hput bytes rfl] at hentry
        cases hentry
  | flushed => exact h.release (List.append_nil _).symm
  | stuck => cases hsound
  | past => exact absurd rfl (hwrite _)
  | born =>
      -- nothing is held back, so all that has been said has come out before the child can speak
      have hnone : s.held = [] := hfork rfl
      have hwhole := h.whole
      rw [hnone, List.append_nil] at hwhole
      refine ⟨⟨h.whole, fun place piece hget => (h.fits place piece hget).append⟩,
        fun mother hmem => ?_, fun mother hmem => ?_, fun entry hentry => ⟨hnone, ?_⟩⟩
      · rcases List.mem_append.mp hmem with hmem | hmem
        · exact h.clean mother hmem
        · rw [List.mem_singleton.mp hmem]
          exact hnone
      · rcases List.mem_append.mp hmem with hmem | hmem
        · exact h.early mother hmem
        · rw [List.mem_singleton.mp hmem]
          exact hwhole ▸ List.prefix_refl _
      · rcases List.mem_append.mp hentry with hentry | hentry
        · obtain ⟨-, mother, hget, hsaid⟩ := h.present entry hentry
          exact ⟨mother, (List.getElem?_append_left (List.getElem?_eq_some_iff.mp hget).1).trans hget,
            hsaid⟩
        · rw [List.mem_singleton.mp hentry]
          refine ⟨⟨s.said, s.held⟩, ?_, rfl⟩
          show (s.births ++ [⟨s.said, s.held⟩])[s.births.length]? = _
          rw [List.getElem?_append_right (Nat.le_refl _), Nat.sub_self]
          rfl
  | unborn | aside => exact h
  | gone =>
      exact ⟨⟨h.whole, h.fits⟩, h.clean, h.early, fun entry hentry =>
        h.present entry (List.mem_filter.mp hentry).1⟩

theorem nobody_of_only (h : Only [] s) (hsound : s.sound = true) : s.living = [] :=
  List.eq_nil_iff_forall_not_mem.mpr fun entry hentry => by cases h hsound entry hentry

/-- Whatever may be asked keeps everything in order, unless the writer fails. -/
theorem Tidy.step (h : s.sound = true → Tidy s) (hmay : MayAsk s call)
    (hw : world s call answer s') : s'.sound = true → Tidy s' := by
  intro hsound
  have hbefore := sound_of_world hw hsound
  obtain ⟨m, hflows, hanswers⟩ := hw
  have hsame := hflows.same
  refine ((h hbefore).flows hflows).answers hsound ?_ ?_ ?_ hanswers
  · rintro bytes rfl
    exact hsame.living.trans (nobody_of_only hmay hbefore)
  · rintro bytes rfl
    exact hmay rfl
  · rintro rfl
    exact hsame.held (hmay hbefore)

end Outflow

end LineShell
