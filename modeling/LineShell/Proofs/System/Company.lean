import LineShell.Proofs.System.Ledgers

/-!
# A process and the processes that it makes

One process is watched while all others move, those that it has made among them.

* **`Company`** — what holds of the watched process and of its ledger, and what holds of each
  process that it has made until that becomes a program;
* **`company_of_course`** — it holds all the way if each step of the watched process keeps it and
  gives the new process what is to hold of it, and each step of such a process keeps that.
-/

namespace LineShell.System

variable {α : Type} {launch : Launcher} {s s' start : System α} {watched pid : Pid}
  {ledger : Ledger} {became : List Pid} {p q first : Process α}

/-- What holds of the watched process while it lives, what holds of its ledger whatever becomes of
it, and what holds of the process it has made at a place until that becomes a program. -/
structure Company (holds : Ledger → Process α → Prop) (settled : Ledger → Prop)
    (stands : Nat → Process α → Prop) (watched : Pid) (ledger : Ledger) (became : List Pid)
    (s : System α) : Prop where
  onWatched : ∀ {q}, s.process? watched = some q → q.ending = none → holds ledger q
  onLedger : settled ledger
  known : ∀ child ∈ ledger.children, child ≠ watched ∧ child < s.nextPid
  onChild : ∀ {place child q}, ledger.children[place]? = some child → child ∉ became →
    s.process? child = some q → q.ending = none → stands place q

section Keeping

variable {holds : Ledger → Process α → Prop} {settled : Ledger → Prop}
  {stands : Nat → Process α → Prop}

/-- What is left undisturbed holds on. -/
theorem Company.of_undisturbed (h : Company holds settled stands watched ledger became s)
    (hleft : ∀ {ledger p q}, holds ledger p → Undisturbed p q → q.ending = none → holds ledger q)
    {old : Process α} (hold : s.process? watched = some old) (hundisturbed : Undisturbed old q)
    (halive : q.ending = none) : holds ledger q :=
  hleft (h.onWatched hold (hundisturbed.underway halive).1) hundisturbed halive

theorem Company.child_of_undisturbed (h : Company holds settled stands watched ledger became s)
    (hspared : ∀ {place p q}, stands place p → Undisturbed p q → q.ending = none → stands place q)
    {place : Nat} {child : Pid} (hget : ledger.children[place]? = some child)
    (hnot : child ∉ became) {old : Process α} (hold : s.process? child = some old)
    (hundisturbed : Undisturbed old q) (halive : q.ending = none) : stands place q :=
  hspared (h.onChild hget hnot hold (hundisturbed.underway halive).1) hundisturbed halive

/-- A step of another process keeps the company. -/
theorem Company.other (h : Company holds settled stands watched ledger became s)
    (horderly : s.Orderly) (hbelow : watched < s.nextPid)
    (hleft : ∀ {ledger p q}, holds ledger p → Undisturbed p q → q.ending = none → holds ledger q)
    (hspared : ∀ {place p q}, stands place p → Undisturbed p q → q.ending = none → stands place q)
    (hchild : ∀ {p place}, s.process? pid = some p → p.active = true → stands place p →
      (successor? launch s pid).isSome = true ∨
        ∀ q ∈ s'.processes, q.pid = pid → q.ending = none → stands place q)
    (hne : pid ≠ watched) (hstep : step launch s pid = some s') :
    Company holds settled stands watched ledger
      (if (successor? launch s pid).isSome then pid :: became else became) s' := by
  have hnext := (step_keeps horderly.distinct horderly.numbered hstep).next
  refine ⟨fun hq halive => ?_, h.onLedger, fun child hin => ?_,
    fun {place child q} hget hgrown hq halive => ?_⟩
  · obtain ⟨old, hold, hundisturbed⟩ := horderly.undisturbed_step hstep hne.symm hbelow hq
    exact h.of_undisturbed hleft hold hundisturbed halive
  · exact ⟨(h.known child hin).1, Nat.lt_of_lt_of_le (h.known child hin).2 hnext⟩
  · have hnot : child ∉ became := fun hin => hgrown (by
      split
      · exact List.mem_cons_of_mem _ hin
      · exact hin)
    by_cases hself : child = pid
    · -- the process moves itself, and does not become a program
      obtain ⟨p, hp, hactive⟩ := process?_of_step hstep
      obtain ⟨hmem, hpid⟩ := mem_of_process? hq
      subst hself
      have hstands := h.onChild hget hnot hp (ending_of_active hactive)
      rcases hchild hp hactive hstands with hbecomes | hgoes
      · rw [if_pos hbecomes] at hgrown
        exact absurd List.mem_cons_self hgrown
      · exact hgoes q hmem hpid halive
    · have hlt := (h.known child (List.mem_of_getElem? hget)).2
      obtain ⟨old, hold, hundisturbed⟩ := horderly.undisturbed_step hstep hself hlt hq
      exact h.child_of_undisturbed hspared hget hnot hold hundisturbed halive

/-- A process is added to those that have been made, and something holds of it, or none is. -/
def Brings (stands : Nat → Process α → Prop) (ledger later : Ledger) (s s' : System α) : Prop :=
  later.children = ledger.children ∨
    later.children = ledger.children ++ [s.nextPid] ∧ s'.nextPid = s.nextPid + 1 ∧
      ∀ r ∈ s'.processes, r.pid = s.nextPid → stands ledger.children.length r

/-- A step of the watched process keeps the company. -/
theorem Company.own (h : Company holds settled stands watched ledger became s)
    (horderly : s.Orderly) (hbelow : watched < s.nextPid)
    (hspared : ∀ {place p q}, stands place p → Undisturbed p q → q.ending = none → stands place q)
    (hstep : step launch s watched = some s') (hq : s'.process? watched = some q) {later : Ledger}
    (hholds : holds later q) (hsettled : settled later) (hbrings : Brings stands ledger later s s') :
    Company holds settled stands watched later became s' := by
  have hnext := (step_keeps horderly.distinct horderly.numbered hstep).next
  have hknown : ∀ child ∈ ledger.children, child ≠ watched ∧ child < s'.nextPid := fun child hin =>
    ⟨(h.known child hin).1, Nat.lt_of_lt_of_le (h.known child hin).2 hnext⟩
  -- those that are there do not notice
  have hold : ∀ {place child r}, ledger.children[place]? = some child → child ∉ became →
      s'.process? child = some r → r.ending = none → stands place r := by
    intro place child r hget hnot hr halive
    obtain ⟨hne, hlt⟩ := h.known child (List.mem_of_getElem? hget)
    obtain ⟨old, hin, hundisturbed⟩ := horderly.undisturbed_step hstep hne hlt hr
    exact h.child_of_undisturbed hspared hget hnot hin hundisturbed halive
  refine ⟨fun hr _ => ?_, hsettled, ?_, ?_⟩
  · cases hq.symm.trans hr
    exact hholds
  · rcases hbrings with hsame | ⟨hmade, hgrown, -⟩
    · rw [hsame]
      exact hknown
    · intro child hin
      rw [hmade] at hin
      rcases List.mem_append.mp hin with hin | hin
      · exact hknown child hin
      · obtain rfl := List.mem_singleton.mp hin
        exact ⟨Nat.ne_of_gt hbelow, hgrown ▸ Nat.lt_succ_self _⟩
  · intro place child r hget hnot hr halive
    rcases hbrings with hsame | ⟨hmade, -, hnew⟩
    · rw [hsame] at hget
      exact hold hget hnot hr halive
    · rw [hmade] at hget
      rcases getElem?_concat_cases hget with hget | ⟨rfl, rfl⟩
      · exact hold hget hnot hr halive
      · -- the new process has the last place
        obtain ⟨hmem, hpid⟩ := mem_of_process? hr
        exact hnew r hmem hpid

/-- **What holds of a process and of those that it makes, holds all the way.** -/
theorem company_of_course (hstart : start.Orderly) (hfirst : start.process? watched = some first)
    (hbegins : holds {} first) (hsettled : settled {})
    (hleft : ∀ {ledger p q}, holds ledger p → Undisturbed p q → q.ending = none → holds ledger q)
    (hspared : ∀ {place p q}, stands place p → Undisturbed p q → q.ending = none → stands place q)
    (hown : ∀ {ledger became s s' p q}, Course launch watched start ledger became s →
      s.process? watched = some p → p.active = true → holds ledger p → settled ledger →
      step launch s watched = some s' → s'.process? watched = some q →
      holds (ledger.note s s' p q) q ∧ settled (ledger.note s s' p q) ∧
        Brings stands ledger (ledger.note s s' p q) s s')
    (hchild : ∀ {s s' pid p place}, s.process? pid = some p → p.active = true → stands place p →
      step launch s pid = some s' → (successor? launch s pid).isSome = true ∨
        ∀ q ∈ s'.processes, q.pid = pid → q.ending = none → stands place q)
    (hcourse : Course launch watched start ledger became s) :
    Company holds settled stands watched ledger became s := by
  obtain ⟨hmember, hpid⟩ := mem_of_process? hfirst
  have hbelow : watched < start.nextPid := hpid ▸ hstart.numbered first hmember
  induction hcourse with
  | start =>
      refine ⟨fun hq _ => ?_, hsettled, fun child hin => absurd hin List.not_mem_nil,
        fun hget => absurd hget (by simp)⟩
      cases hfirst.symm.trans hq
      exact hbegins
  | tick time _ ih => exact ⟨ih.onWatched, ih.onLedger, ih.known, ih.onChild⟩
  | signal target number hcourse ih =>
      have horderly := hcourse.orderly hstart
      obtain ⟨hnext, -, -, -⟩ := signal_effect _ target number
      refine ⟨fun hq halive => ?_, ih.onLedger,
        fun child hin => ⟨(ih.known child hin).1, hnext.symm ▸ (ih.known child hin).2⟩,
        fun hget hnot hq halive => ?_⟩
      · obtain ⟨old, hold, hundisturbed⟩ := horderly.undisturbed_signal hq
        exact ih.of_undisturbed hleft hold hundisturbed halive
      · obtain ⟨old, hold, hundisturbed⟩ := horderly.undisturbed_signal hq
        exact ih.child_of_undisturbed hspared hget hnot hold hundisturbed halive
  | other hcourse hne hstep ih =>
      exact ih.other (hcourse.orderly hstart)
        (Nat.lt_of_lt_of_le hbelow (hcourse.grows hstart).1) hleft hspared
        (fun hp hactive hstands => hchild hp hactive hstands hstep) hne hstep
  | own hcourse hp hstep hq ih =>
      obtain ⟨p, hfound, hactive⟩ := process?_of_step hstep
      cases hp.symm.trans hfound
      obtain ⟨hholds, hsettled, hbrings⟩ := hown hcourse hp hactive
        (ih.onWatched hp (ending_of_active hactive)) ih.onLedger hstep hq
      exact ih.own (hcourse.orderly hstart) (Nat.lt_of_lt_of_le hbelow (hcourse.grows hstart).1)
        hspared hstep hq hholds hsettled hbrings

end Keeping

end LineShell.System
