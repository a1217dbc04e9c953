import LineShell.Proofs.Pipeline.Promise
import LineShell.Proofs.System.Chronicles
import LineShell.Proofs.System.Ways
import LineShell.Shell.Builtin
import LineShell.Shell.Interpreter

/-!
# What the parts of a shell ask for

Every part of a shell is followed once, request by request. That it has to do with no other process,
that it says nothing or that it leaves the files alone is read off the set of its requests.

* **`IsHandling`** — what is asked to inspect a line and to prepare the open files of a pipeline;
* **`IsWaiting`** — what is asked of the children;
* **`IsDomestic`** — what is asked by the shell's own commands (`asks_builtin`).
-/

namespace LineShell.Repertoire

open Prog

variable {α : Type} {allowed : Call → Prop} {program : Prog α}

/-! ## Sets of requests -/

theorem avoids_of_asks {kind : Call → Prop} (h : Asks allowed program)
    (hkind : ∀ call, allowed call → ¬kind call) : Avoids kind program := by
  induction h with
  | pure => exact avoids_pure _
  | ask hcall _ ih => exact avoids_ask (hkind _ hcall) ih

theorem asks_call {call : Call} (h : allowed call) : Asks allowed (Prog.call call) :=
  .ask h fun _ => .pure

theorem asks_callUntil {call : Call} (h : allowed call) (again : call.Result → Bool) :
    Asks allowed (callUntil call again) :=
  .ask h fun _ => .pure

/-! ## Before a process is started -/

/-- The request opens a file, makes a pipe or gives a number up. -/
def IsHandling : Call → Prop
  | .openPath .. | .pipe | .close _ => True
  | _ => False

theorem asks_openFile (target : Target) : Asks IsHandling target.openFile := by
  unfold Target.openFile
  cases cleanBytes target.path with
  | error word => exact .pure
  | ok path =>
      refine (asks_callUntil trivial _).bind fun opened => ?_
      cases opened <;> exact .pure

theorem asks_inspect (tokens : List Token) : Asks IsHandling (inspect tokens) := by
  unfold inspect
  cases Structure.check tokens with
  | error fault => exact .pure
  | ok _ =>
      cases Structure.target? tokens with
      | none => exact .pure
      | some target =>
          refine (asks_openFile target).bind fun opened => ?_
          cases opened with
          | error failure => exact .pure
          | ok fd => exact (asks_call trivial).bind fun _ => .pure

theorem asks_readLine (config : Config) (tokens : List Token) :
    Asks IsHandling (Shell.readLine config tokens) := by
  refine (asks_inspect tokens).bind fun inspected => ?_
  cases inspected <;> exact .pure

theorem asks_openTarget (target : Option Target) : Asks IsHandling (openTarget target) := by
  cases target with
  | none => exact .pure
  | some target =>
      refine (asks_openFile target).bind fun opened => ?_
      cases opened <;> exact .pure

theorem asks_lay (count : Nat) (plumbing : Plumbing) :
    Asks IsHandling (Plumbing.lay count plumbing) := by
  induction count generalizing plumbing with
  | zero => exact .pure
  | succ count ih =>
      refine (asks_call trivial).bind fun laid => ?_
      cases laid with
      | error errno => exact (Course.asks_closeAll (fun _ => trivial) _).bind fun _ => .pure
      | ok ends => exact ih _

/-! ## Children -/

/-- The request is for the end of a child. -/
def IsWaiting : Call → Prop
  | .wait _ => True
  | _ => False

theorem asks_awaitCode (child : Pid) : Asks IsWaiting (awaitCode child) := by
  refine (asks_callUntil trivial _).bind fun news => ?_
  rcases news with errno | ⟨pid, ending | signal | _⟩ <;> exact .pure

theorem asks_awaitAll (children : List Pid) : Asks IsWaiting (awaitAll children) := by
  induction children with
  | nil => exact .pure
  | cons child rest ih =>
      refine (asks_awaitCode child).bind fun code => ?_
      cases code with
      | error errno => exact .pure
      | ok code =>
          refine ih.bind fun codes => ?_
          cases codes <;> exact .pure

theorem asks_reap (children : List Pid) : Asks IsWaiting (reap children) := by
  induction children with
  | nil => exact .pure
  | cons child rest ih => exact (asks_awaitCode child).bind fun _ => ih

/-! ## The shell's own commands -/

/-- The request is one that the shell's own commands make: for names, sizes and variables, for
another directory, and for what they say. -/
def IsDomestic : Call → Prop
  | .write fd _ => fd = Fd.stderr
  | .put _ | .names _ | .status .. | .canonical _ | .changeDirectory _ | .bindings => True
  | _ => False

theorem asks_complaining (text : Bytes) : Asks IsDomestic (Prog.complain text) :=
  .ask rfl fun _ => .pure

theorem asks_say (line : String) : Asks IsDomestic (Command.say line) := asks_call trivial

theorem asks_complain (line : String) : Asks IsDomestic (Command.complain line) :=
  asks_complaining _

theorem asks_recognise {grammar : Usage.Grammar} {run : Usage.Parsed → Command} {stage : Stage}
    {command : Command} (hrun : ∀ parsed environment, Asks IsDomestic (run parsed environment))
    (h : Builtin.recognise grammar run stage = some command) (environment : Environment) :
    Asks IsDomestic (command environment) := by
  unfold Builtin.recognise at h
  split at h
  · cases h
  · cases h
    cases grammar.parse stage.operands with
    | understood parsed => exact hrun parsed environment
    | help => exact (asks_say _).bind fun _ => .pure
    | refused fault => exact (asks_complain _).bind fun _ => .pure

theorem asks_destination (operand : Option String) :
    Asks IsDomestic (Builtin.destination operand) := by
  have hvalue : Asks IsDomestic (valueOf Builtin.homeVariable) := .ask trivial fun _ => .pure
  cases operand with
  | none => exact hvalue
  | some text =>
      unfold Builtin.destination
      dsimp only
      split
      · exact hvalue
      · exact .pure

theorem asks_move (environment : Environment) (path : Bytes) :
    Asks IsDomestic (Builtin.move environment path) := by
  unfold Builtin.move
  dsimp only
  split
  · exact .pure
  · refine (asks_call trivial).bind fun found => ?_
    cases found with
    | error errno => exact .pure
    | ok canonical =>
        refine (asks_call trivial).bind fun moved => ?_
        cases moved <;> exact .pure

theorem asks_cd (operand : Option String) (environment : Environment) :
    Asks IsDomestic (Builtin.cd operand environment) := by
  refine (asks_destination operand).bind fun path => ?_
  cases path with
  | none => exact (asks_complain _).bind fun _ => .pure
  | some path =>
      refine (asks_move environment path).bind fun moved => ?_
      cases moved with
      | error errno => exact (asks_complain _).bind fun _ => .pure
      | ok later => exact .pure

theorem asks_sizes (h : ∀ path follow, allowed (.status path follow)) (directory : Bytes)
    (names : List Bytes) : Asks allowed (Builtin.sizes directory names) := by
  induction names with
  | nil => exact .pure
  | cons name rest ih =>
      unfold Builtin.sizes
      split
      · exact ih
      · refine (asks_call (h _ _)).bind fun status => ?_
        cases status with
        | error errno => exact .pure
        | ok status =>
            refine ih.bind fun more => ?_
            cases more <;> exact .pure

theorem asks_sayAll (h : ∀ text, allowed (.put text)) (lines : List String) :
    Asks allowed (Builtin.sayAll lines) := by
  induction lines with
  | nil => exact .pure
  | cons line rest ih => exact (asks_call (h _)).bind fun _ => ih

theorem asks_sls (environment : Environment) : Asks IsDomestic (Builtin.sls environment) := by
  refine (asks_call trivial).bind fun names => ?_
  cases names with
  | error errno => exact .pure
  | ok names =>
      refine (asks_sizes (fun _ _ => trivial) _ names).bind fun sized => ?_
      cases sized with
      | error text => exact .pure
      | ok entries => exact (asks_sayAll (fun _ => trivial) _).bind fun _ => .pure

/-- None of the shell's own commands asks for anything else, whatever its operands are. -/
theorem asks_builtin {recognise : Stage → Option Command} (hmem : recognise ∈ Builtin.all)
    {stage : Stage} {command : Command} (h : recognise stage = some command)
    (environment : Environment) : Asks IsDomestic (command environment) := by
  simp only [Builtin.all, List.mem_cons, List.not_mem_nil, or_false] at hmem
  rcases hmem with rfl | rfl | rfl | rfl
  · exact asks_recognise (fun _ _ => (asks_say _).bind fun _ => .pure) h environment
  · exact asks_recognise (fun _ _ => asks_cd _ _) h environment
  · exact asks_recognise (fun _ _ => (asks_complain _).bind fun _ => .pure) h environment
  · exact asks_recognise (fun _ _ => asks_sls _) h environment

theorem asks_found {stage : Stage} {command : Command}
    (h : CommandTable.find? Builtin.all stage = some command) (environment : Environment) :
    Asks IsDomestic (command environment) := by
  obtain ⟨recognise, hmem, hfound⟩ := List.exists_of_findSome?_eq_some h
  exact asks_builtin hmem hfound environment

end LineShell.Repertoire
