import LineShell.Proofs.Line.Decoding
import LineShell.Proofs.Shell.Errands
import LineShell.Proofs.System.Worlds
import LineShell.Shell.Builtin
import Mathlib.Data.List.Perm.Basic
import Mathlib.Data.Prod.Lex
import Mathlib.Data.String.Basic

/-!
# What a listing shows

`sls` shows every visible entry of the directory once, in an order that does not depend on the order
in which the system names the entries, or it shows nothing.

* **`View`** — what a directory shows of itself, and **`Shows`** — the world in which it does;
* **`Gives`** — a program comes to one value and holds some bytes back, and cannot do otherwise;
* **`steps_of_gives`** — what a program gives in the view that a machine offers, it gives there;
* **`Listing`** — the entries of a directory as they are listed: there is one listing at most
  (`Listing.unique`), and it is found by sorting (`listing_mergeSort`);
* **`sls_listing`** — if every visible entry has a size, all of them are listed, and else nothing is;
  neither depends on the order of the names or on what is hidden.
-/

namespace LineShell.Listings

open Prog Builtin

/-- What a directory shows of itself: its names as they come, and what a path leads to behind its
links. -/
structure View where
  /-- The names in a directory. -/
  names : Bytes → Except Errno (List Bytes)
  /-- What a path leads to. -/
  status : Bytes → Except Errno Status

/-- The answer to a request, and what is to be held back for standard output. -/
def View.answer? (view : View) : (call : Call) → Option (call.Result × Bytes)
  | .names path => some (view.names path, [])
  | .status path true => some (view.status path, [])
  | .put bytes => some ((), bytes)
  | _ => none

/-- The world in which a view is seen. Its state is what is held back. -/
def Shows (view : View) : World Bytes := fun out call answer out' =>
  ∃ bytes, view.answer? call = some (answer, bytes) ∧ out' = out ++ bytes

variable {view other : View} {α β : Type} {program : Prog α} {value : α} {bytes more : Bytes}
  {directory name : Bytes} {names later : List Bytes} {entries found : List (String × Nat)}

/-! ## Programs -/

/-- In a view, a program comes to a value and holds some bytes back, and to nothing else. -/
def Gives (view : View) (program : Prog α) (value : α) (bytes : Bytes) : Prop :=
  ∀ out reply out',
    Ends (Shows view) program out reply out' ↔ reply = value ∧ out' = out ++ bytes

theorem gives_pure (view : View) (value : α) : Gives view (.pure value) value [] := by
  intro out reply out'
  rw [List.append_nil]
  exact ends_pure_iff

theorem Gives.bind {rest : α → Prog β} {last : β} (h : Gives view program value bytes)
    (hrest : Gives view (rest value) last more) :
    Gives view (program.bind rest) last (bytes ++ more) := by
  intro out reply out'
  rw [ends_bind_iff]
  constructor
  · rintro ⟨a, middle, hfirst, hsecond⟩
    obtain ⟨rfl, rfl⟩ := (h ..).mp hfirst
    rw [← List.append_assoc]
    exact (hrest ..).mp hsecond
  · rintro ⟨rfl, rfl⟩
    refine ⟨value, out ++ bytes, (h ..).mpr ⟨rfl, rfl⟩, (hrest ..).mpr ⟨rfl, ?_⟩⟩
    rw [List.append_assoc]

/-- A look at the directory holds nothing back. -/
theorem Gives.bind_nil {rest : α → Prog β} {last : β} (h : Gives view program value [])
    (hrest : Gives view (rest value) last more) : Gives view (program.bind rest) last more :=
  h.bind hrest

theorem gives_call {request : Call} {answer : request.Result}
    (h : view.answer? request = some (answer, bytes)) :
    Gives view (call request) answer bytes := by
  intro out reply out'
  rw [ends_call_iff]
  constructor
  · rintro ⟨held, hanswer, rfl⟩
    cases h.symm.trans hanswer
    exact ⟨rfl, rfl⟩
  · rintro ⟨rfl, rfl⟩
    exact ⟨bytes, h, rfl⟩

theorem answer?_names {path : Bytes} {answer : Except Errno (List Bytes)}
    (h : view.names path = answer) : view.answer? (.names path) = some (answer, []) := by
  rw [View.answer?, h]

theorem answer?_status {path : Bytes} {answer : Except Errno Status}
    (h : view.status path = answer) : view.answer? (.status path true) = some (answer, []) := by
  rw [View.answer?, h]

/-- Lines are held back one behind the other. -/
theorem gives_sayAll (view : View) (lines : List String) :
    Gives view (sayAll lines) () (lines.flatMap fun line => Text.bytesOf (line ++ "\n")) := by
  induction lines with
  | nil => exact gives_pure view ()
  | cons line rest ih => exact (gives_call rfl).bind ih

/-! ## On a machine -/

section Machine

open LineShell.System LineShell.Errands

variable {launch : Launcher} {start : System α} {p : Process α} {reply : α}
  {out out' : Bytes}

/-- What a directory shows to a process of a machine. -/
def View.of (start : System α) (p : Process α) : View where
  names path := start.namesAt p path
  status path := start.statusAt p path true

/-- The machine when a process has come to a program and holds some bytes back. -/
def running (start : System α) (p : Process α) (program : Prog α) (out : Bytes) : System α :=
  start.setProcess { p with program := program, pending := out }

theorem process?_running (hprocess : p ∈ start.processes) (program : Prog α) (out : Bytes) :
    (running start p program out).process? p.pid =
      some { p with program := program, pending := out } := by
  have hset (q : Process α) (hpid : p.pid = q.pid) :
      (start.setProcess q).process? q.pid = some q := process?_of_setProcess hprocess hpid rfl
  exact hset { p with program := program, pending := out } rfl

/-- Of two states of a process, the later one counts. -/
theorem setProcess_running {changed : Process α} (hpid : changed.pid = p.pid) :
    (running start p program out).setProcess changed = start.setProcess changed := by
  unfold running setProcess
  congr 1
  rw [List.map_map]
  refine List.map_congr_left fun process _ => ?_
  by_cases hprocess : process.pid = p.pid <;> simp [hprocess, hpid]

/-- What is seen in a view is what a machine answers. -/
theorem step_of_shows {call : Call} {again : call.Result → Bool} {next : call.Result → Prog α}
    {answer : call.Result} (hprocess : p ∈ start.processes) (hactive : p.active = true)
    (h : Shows (View.of start p) out call answer out') :
    step launch (running start p (.ask call again next) out) p.pid =
      some (running start p (Process.proceed call again next answer) out') := by
  have hp := process?_running hprocess (.ask call again next) out
  obtain ⟨bytes, hanswer, rfl⟩ := h
  obtain ⟨hcall, hanswered⟩ : call.isSpecial = false ∧
      (running start p (.ask call again next) out).answer
        { p with program := .ask call again next, pending := out } call =
          some (answer, { p with program := .ask call again next, pending := out ++ bytes },
            running start p (.ask call again next) out) := by
    unfold View.answer? at hanswer
    split at hanswer <;> cases hanswer
    · exact ⟨rfl, by rw [List.append_nil]; rfl⟩
    · exact ⟨rfl, by rw [List.append_nil]; rfl⟩
    · exact ⟨rfl, rfl⟩
  rw [step_answered hp hactive hcall rfl, hanswered]
  exact congrArg some (setProcess_running rfl)

/-- A program that ends in a view runs to that end on a machine, where nothing else changes. -/
theorem steps_of_ends (hprocess : p ∈ start.processes) (hactive : p.active = true)
    (hview : View.of start p = view) (h : Ends (Shows view) program out reply out') :
    Steps launch p.pid (running start p program out) (running start p (.pure reply) out') := by
  induction h with
  | pure => exact .refl
  | @repeated α call again next answer s s' value s'' hshows hagain _ ih =>
      subst hview
      have hproceed : Process.proceed call again next answer = .ask call again next := if_pos hagain
      refine .head (step_of_shows hprocess hactive hshows) ?_
      rw [hproceed]
      exact ih hprocess hactive rfl
  | @answered α call again next answer s s' value s'' hshows hagain _ ih =>
      subst hview
      have hproceed : Process.proceed call again next answer = next answer :=
        if_neg (by simp [hagain])
      refine .head (step_of_shows hprocess hactive hshows) ?_
      rw [hproceed]
      exact ih hprocess hactive rfl
  | @unrolled τ β α body state next s value s' _ ih =>
      have hp := process?_running hprocess (.loop body state next) s
      refine .head ?_ (ih hprocess hactive hview)
      exact (step_loop hp hactive rfl).trans (congrArg some (setProcess_running rfl))

/-- **What a program gives in the view that a machine offers, it gives on the machine.** -/
theorem steps_of_gives (hprocess : p ∈ start.processes) (hactive : p.active = true)
    (h : Gives (View.of start p) program value bytes) (out : Bytes) :
    Steps launch p.pid (running start p program out)
      (running start p (.pure value) (out ++ bytes)) :=
  steps_of_ends hprocess hactive rfl ((h ..).mpr ⟨rfl, rfl⟩)

end Machine

/-! ## Visible entries -/

/-- The name begins with no dot. -/
def visible (name : Bytes) : Bool := name.head? != some 0x2E

/-- A name is read as a text that begins with a dot exactly if it begins with one itself. -/
theorem hidden_iff (name : Bytes) :
    ((Text.decode name).head? == some '.') = !visible name := by
  have hiff : (Text.decode name).head? = some '.' ↔ name.head? = some 0x2E := by
    constructor
    · -- what is read as a dot is spelled as one, and a replacement is no dot
      intro h
      obtain ⟨extra, hreads⟩ := Text.exists_reads name
      generalize Text.decode name = text at h hreads
      cases hreads with
      | nil => cases h
      | spelled c _ =>
          obtain rfl : c = '.' := Option.some.inj h
          rfl
      | replaced => exact absurd (Option.some.inj h) (by decide)
    · intro h
      obtain ⟨rest, rfl⟩ := List.head?_eq_some_iff.mp h
      rw [Text.decode_cons]
      rfl
  unfold visible
  rw [bne, Bool.not_not, Bool.eq_iff_iff, beq_iff_eq, beq_iff_eq]
  exact hiff

/-- The size that is shown for an entry. -/
def View.size? (view : View) (directory name : Bytes) : Option Nat :=
  match view.status (Path.join directory name) with
  | .ok status => some status.node.size
  | .error _ => none

/-- What is listed of an entry. -/
def View.entry? (view : View) (directory name : Bytes) : Option (String × Nat) :=
  (view.size? directory name).map fun size => (Text.textOf name, size)

/-- What there is to be listed. Where an entry has no size, something is missing. -/
def View.shown (view : View) (directory : Bytes) (names : List Bytes) :
    List (Option (String × Nat)) :=
  (names.filter visible).map (view.entry? directory)

theorem shown_hidden (h : visible name = false) :
    view.shown directory (name :: names) = view.shown directory names := by
  unfold View.shown
  rw [List.filter_cons_of_neg (by simp [h])]

theorem shown_visible (h : visible name = true) :
    view.shown directory (name :: names) =
      view.entry? directory name :: view.shown directory names := by
  unfold View.shown
  rw [List.filter_cons_of_pos h, List.map_cons]

/-- A hidden entry is passed over, and nothing is asked about it. -/
theorem sizes_hidden (h : visible name = false) :
    sizes directory (name :: names) = sizes directory names := by
  rw [sizes, hidden_iff, h]
  rfl

/-- **The sizes of all the visible entries are found, or there is a failure.** -/
theorem gives_sizes (view : View) (directory : Bytes) (names : List Bytes) :
    (∀ entries, view.shown directory names = entries.map some →
      Gives view (sizes directory names) (.ok entries) []) ∧
    (none ∈ view.shown directory names →
      Gives view (sizes directory names) (.error "cannot get file information") []) := by
  induction names with
  | nil =>
      refine ⟨fun entries h => ?_, fun h => absurd h (by simp [View.shown])⟩
      obtain rfl := List.map_eq_nil_iff.mp h.symm
      exact gives_pure view _
  | cons name names ih =>
      cases hvisible : visible name with
      | false =>
          rw [sizes_hidden hvisible, shown_hidden hvisible]
          exact ih
      | true =>
          rw [sizes, hidden_iff, hvisible, shown_visible hvisible]
          unfold View.entry? View.size?
          cases hstatus : view.status (Path.join directory name) with
          | error errno =>
              have hcall := gives_call (answer?_status hstatus)
              refine ⟨fun entries h => ?_, fun _ => hcall.bind_nil (gives_pure view _)⟩
              cases entries <;> cases h
          | ok status =>
              have hcall := gives_call (answer?_status hstatus)
              refine ⟨fun entries h => ?_, fun h => ?_⟩
              · -- the first entry has its size, and so have the later ones
                obtain ⟨entry, later, rfl, hentry, hlater⟩ := List.map_eq_cons_iff.mp h.symm
                cases hentry
                exact hcall.bind_nil ((ih.1 later hlater.symm).bind_nil (gives_pure view _))
              · -- the first entry has its size, so that another one has none
                have hlater : none ∈ view.shown directory names := by simpa using h
                exact hcall.bind_nil ((ih.2 hlater).bind_nil (gives_pure view _))

/-! ## The order -/

theorem listedLe_iff (a b : String × Nat) :
    listedLe a b = true ↔ a.1 < b.1 ∨ a.1 = b.1 ∧ a.2 ≤ b.2 := by
  simp [listedLe]

/-- The order of a listing is that of its names, and among equal ones that of the sizes. -/
theorem listedLe_iff_lex (a b : String × Nat) : listedLe a b = true ↔ toLex a ≤ toLex b := by
  rw [listedLe_iff, Prod.Lex.toLex_le_toLex]

theorem pairwise_mergeSort (entries : List (String × Nat)) :
    (entries.mergeSort listedLe).Pairwise fun a b => toLex a ≤ toLex b := by
  have hsorted : (entries.mergeSort listedLe).Pairwise fun a b => listedLe a b = true := by
    refine List.pairwise_mergeSort (fun a b c => ?_) (fun a b => ?_) entries
    · simp only [listedLe_iff_lex]
      exact le_trans
    · rw [Bool.or_eq_true, listedLe_iff_lex, listedLe_iff_lex]
      exact le_total _ _
  exact hsorted.imp fun {a b} h => (listedLe_iff_lex a b).mp h

/-- The entries that a directory shows, as they are listed. -/
structure Listing (view : View) (directory : Bytes) (names : List Bytes)
    (entries : List (String × Nat)) : Prop where
  /-- Each visible name stands for one entry, which has its size. -/
  complete : (entries.map some).Perm (view.shown directory names)
  /-- The entries are ordered by their names, and then by their sizes. -/
  ordered : entries.Pairwise fun a b => a.1 < b.1 ∨ a.1 = b.1 ∧ a.2 ≤ b.2

/-- **There is one listing at most** of entries, in whatever order they are named. -/
theorem Listing.unique (h : Listing view directory names entries)
    (hother : Listing other directory later found)
    (hshown : (view.shown directory names).Perm (other.shown directory later)) :
    entries = found := by
  have hperm : entries.Perm found := by
    rw [← List.map_perm_map_iff (Option.some_injective _)]
    exact h.complete.trans (hshown.trans hother.complete.symm)
  refine List.Perm.eq_of_pairwise ?_ h.ordered hother.ordered hperm
  intro a b _ _ hab hba
  rw [← Prod.Lex.toLex_le_toLex] at hab hba
  exact toLex_inj.mp (le_antisymm hab hba)

/-- The entries that have been found are listed in the order that they are sorted in. -/
theorem listing_mergeSort (h : view.shown directory names = entries.map some) :
    Listing view directory names (entries.mergeSort listedLe) where
  complete := by
    rw [h]
    exact (List.mergeSort_perm entries listedLe).map some
  ordered := (pairwise_mergeSort entries).imp Prod.Lex.toLex_le_toLex.mp

/-! ## The command -/

variable {environment : Environment}

/-- The line that an entry is listed on. -/
def line (entry : String × Nat) : Bytes :=
  Text.bytesOf (entry.1 ++ " (" ++ toString entry.2 ++ " bytes)" ++ "\n")

theorem gives_line (view : View) (entries : List (String × Nat)) :
    Gives view (sayAll (entries.map listingLine)) () (entries.flatMap line) := by
  have hsaid := gives_sayAll view (entries.map listingLine)
  rwa [List.flatMap_map] at hsaid

theorem gives_sls_of_closed {errno : Errno}
    (hnames : view.names environment.directory = .error errno) :
    Gives view (sls environment) (.error "cannot open directory", environment) [] :=
  (gives_call (answer?_names hnames)).bind_nil (gives_pure view _)

theorem gives_sls_of_missing (hnames : view.names environment.directory = .ok names)
    (hmissing : none ∈ view.shown environment.directory names) :
    Gives view (sls environment) (.error "cannot get file information", environment) [] := by
  have hsizes := (gives_sizes view environment.directory names).2 hmissing
  exact (gives_call (answer?_names hnames)).bind_nil (hsizes.bind_nil (gives_pure view _))

theorem gives_sls_of_shown (hnames : view.names environment.directory = .ok names)
    (hshown : view.shown environment.directory names = found.map some) :
    Gives view (sls environment) (.ok 0, environment)
      ((found.mergeSort listedLe).flatMap line) := by
  have hsizes := (gives_sizes view environment.directory names).1 found hshown
  refine (gives_call (answer?_names hnames)).bind_nil (hsizes.bind_nil ?_)
  rw [← List.append_nil (List.flatMap line _)]
  exact (gives_line view _).bind (gives_pure view _)

theorem none_mem_shown_iff : none ∈ view.shown directory names ↔
    ∃ name ∈ names, visible name = true ∧ view.size? directory name = none := by
  simp [View.shown, View.entry?, and_assoc]

/-- If nothing is missing, there is something to be listed of each visible entry. -/
theorem exists_found (h : none ∉ view.shown directory names) :
    ∃ found : List (String × Nat), view.shown directory names = found.map some := by
  have hsome : ∀ entry ∈ view.shown directory names, entry.isSome = true :=
    fun entry hentry => Option.isSome_iff_ne_none.mpr (ne_of_mem_of_not_mem hentry h)
  refine ⟨(view.shown directory names).filterMap id, ?_⟩
  rw [List.map_filterMap_some_eq_filter_map_isSome, List.map_id, List.filter_eq_self.mpr hsome]

/-- What `sls` owes, in a directory that shows itself in a view. -/
structure ListingLaw (view : View) (environment : Environment) : Prop where
  /-- Nothing is listed of a directory that cannot be read. -/
  closed : ∀ errno, view.names environment.directory = .error errno →
    Gives view (sls environment) (.error "cannot open directory", environment) []
  /-- Nothing is listed if one of the visible entries cannot be looked at, wherever it comes. -/
  missing : ∀ names, view.names environment.directory = .ok names →
    (∃ name ∈ names, visible name = true ∧ view.size? environment.directory name = none) →
    Gives view (sls environment) (.error "cannot get file information", environment) []
  /-- Otherwise each visible entry is listed, whatever the hidden ones are. -/
  listed : ∀ names, view.names environment.directory = .ok names →
    (∀ name ∈ names, visible name = true →
      ∃ size, view.size? environment.directory name = some size) →
    ∃ entries, Listing view environment.directory names entries ∧
      Gives view (sls environment) (.ok 0, environment) (entries.flatMap line)
  /-- Where the same visible entries are named in another order, with any hidden ones, the same is
  listed, or there is the same failure. -/
  unordered : ∀ (other : View) names later, view.names environment.directory = .ok names →
    other.names environment.directory = .ok later →
    (names.filter visible).Perm (later.filter visible) →
    (∀ name ∈ names, visible name = true →
      view.size? environment.directory name = other.size? environment.directory name) →
    ∃ value bytes, Gives view (sls environment) value bytes ∧
      Gives other (sls environment) value bytes

/-- The same visible entries show the same. -/
theorem shown_perm (hperm : (names.filter visible).Perm (later.filter visible))
    (hsize : ∀ name ∈ names, visible name = true →
      view.size? directory name = other.size? directory name) :
    (view.shown directory names).Perm (other.shown directory later) := by
  have heq : view.shown directory names = (names.filter visible).map (other.entry? directory) := by
    refine List.map_congr_left fun name hname => ?_
    obtain ⟨hmem, hvisible⟩ := List.mem_filter.mp hname
    unfold View.entry?
    rw [hsize name hmem hvisible]
  rw [heq]
  exact hperm.map _

/-- **A directory is listed as a whole or not at all**, whatever order its names come in. -/
theorem sls_listing (view : View) (environment : Environment) : ListingLaw view environment where
  closed _ hnames := gives_sls_of_closed hnames
  missing _ hnames hmissing := gives_sls_of_missing hnames (none_mem_shown_iff.mpr hmissing)
  listed names hnames hsizes := by
    have hnone : none ∉ view.shown environment.directory names := by
      rw [none_mem_shown_iff]
      rintro ⟨name, hname, hvisible, hmissing⟩
      obtain ⟨size, hsize⟩ := hsizes name hname hvisible
      exact absurd (hmissing.symm.trans hsize) (by simp)
    obtain ⟨found, hfound⟩ := exists_found hnone
    exact ⟨_, listing_mergeSort hfound, gives_sls_of_shown hnames hfound⟩
  unordered other names later hnames hlater hperm hsize := by
    have hshown := shown_perm hperm hsize
    by_cases hnone : none ∈ view.shown environment.directory names
    · exact ⟨_, _, gives_sls_of_missing hnames hnone,
        gives_sls_of_missing hlater (hshown.mem_iff.mp hnone)⟩
    · obtain ⟨found, hfound⟩ := exists_found hnone
      obtain ⟨others, hothers⟩ := exists_found (mt hshown.mem_iff.mpr hnone)
      -- both are sorted, and there is one listing only
      have heq := (listing_mergeSort hfound).unique (listing_mergeSort hothers) hshown
      refine ⟨_, _, gives_sls_of_shown hnames hfound, ?_⟩
      rw [heq]
      exact gives_sls_of_shown hlater hothers

end LineShell.Listings
