import LineShell.Proofs.Shell.Refusal
import LineShell.Proofs.Shell.Verdicts

/-!
# Which lines are the shell's own

A line is run by a command of the shell only if it is a lone stage, and then by the first command of
the table that recognises the stage.

* **`lone_iff`** — the lone stages, read off the raw text of a line;
* **`runLine_eq_attending`**, **`runLine_eq_bare`** — such a line is a single run of the command;
  for any other line the table might as well be empty;
* **`exiting_of_session`** — with its own commands a shell is to stop after a lone `exit`, and not
  before;
* **`runLine_dispatches`** — all of this for every table, environment and line.
-/

namespace LineShell.Dispatch

open Prog RawText Course

/-! ## Lone stages -/

/-- The line is a single stage without a redirection, and none of its words is too many. -/
structure Lone (limit : Nat) (line : String) (stage : Stage) : Prop where
  unpiped : '|' ∉ line.toList
  unredirected : '>' ∉ line.toList
  words : words line.toList = stage.arguments
  room : stage.arguments.length ≤ limit

theorem words_dropWhile_blank (text : List Char) :
    RawText.words (text.dropWhile Text.isBlank) = RawText.words text := by
  induction text with
  | nil => rfl
  | cons c text ih =>
      rw [List.dropWhile_cons]
      split
      case isTrue hc => rw [ih, words_blank text hc]
      case isFalse => rfl

theorem words_append_blank {c : Char} (hblank : Text.isBlank c = true) (text : List Char) :
    RawText.words (text ++ [c]) = RawText.words text := by
  have hsplit : (text ++ [c]).splitOnP Text.isBlank = text.splitOnP Text.isBlank ++ [[]] := by
    induction text with
    | nil => simp [List.splitOnP_cons_eq_if_modifyHead, hblank]
    | cons d text ih =>
        rw [List.cons_append, List.splitOnP_cons_eq_if_modifyHead,
          List.splitOnP_cons_eq_if_modifyHead, ih]
        split
        · rfl
        · cases hpieces : text.splitOnP Text.isBlank with
          | nil => exact absurd hpieces (List.splitOnP_ne_nil _ _)
          | cons piece pieces => rfl
  unfold RawText.words
  rw [hsplit]
  simp

theorem words_append_blanks {blanks : List Char} (h : Blank blanks) (text : List Char) :
    RawText.words (text ++ blanks) = RawText.words text := by
  induction blanks generalizing text with
  | nil => rw [List.append_nil]
  | cons c blanks ih =>
      rw [List.append_cons, ih fun d hd => h d (List.mem_cons_of_mem _ hd)]
      exact words_append_blank (h c List.mem_cons_self) text

/-- The blanks at the ends of a line belong to no word. -/
theorem words_trim (text : List Char) : RawText.words (Text.trim text) = RawText.words text := by
  rw [← words_dropWhile_blank text]
  -- what stands in front of the blanks at the end, and these blanks
  have hends : text.dropWhile Text.isBlank = Text.trim text ++
      ((text.dropWhile Text.isBlank).reverse.takeWhile Text.isBlank).reverse := by
    unfold Text.trim Text.trimRight Text.trimLeft
    rw [← List.reverse_append, List.takeWhile_append_dropWhile, List.reverse_reverse]
  rw [hends, words_append_blanks]
  intro c hc
  exact List.mem_takeWhile_imp (List.mem_reverse.mp hc)

/-- No other character is lost. -/
theorem mem_trim_iff {c : Char} (h : Text.isBlank c = false) {text : List Char} :
    c ∈ Text.trim text ↔ c ∈ text := by
  unfold Text.trim Text.trimRight Text.trimLeft
  rw [← List.count_pos_iff, List.count_reverse, Verdicts.count_dropWhile h, List.count_reverse,
    Verdicts.count_dropWhile h, List.count_pos_iff]

theorem pieces_of_notMem {text : List Char} (h : '|' ∉ text) : pieces text = [text] := by
  unfold pieces
  rw [List.splitOn_eq_splitOnP]
  refine List.splitOnP_eq_singleton fun c hc => ?_
  have hne : c ≠ '|' := fun heq => h (heq ▸ hc)
  simpa using hne

theorem head_of_notMem {text : List Char} (h : '>' ∉ text) : head text = text := by
  unfold head
  rw [List.takeWhile_eq_self_iff]
  intro c hc
  have hne : c ≠ '>' := fun heq => h (heq ▸ hc)
  simpa using hne

theorem lastPiece_of_notMem {text : List Char} (h : '|' ∉ text) : lastPiece text = text := by
  unfold lastPiece
  rw [pieces_of_notMem h]
  rfl

/-- A text with words and without operators passes every check of its structure. -/
theorem wellFormed_of_words {text : List Char} (hpipe : '|' ∉ text) (hredirect : '>' ∉ text)
    (hwords : RawText.words text ≠ []) : WellFormed text := by
  have hlast := lastPiece_of_notMem hpipe
  refine ⟨?_, ?_, ?_⟩
  · rintro ⟨piece, hpiece, hblank⟩
    rw [pieces_of_notMem hpipe, List.mem_singleton] at hpiece
    rw [hpiece, head_of_notMem hredirect] at hblank
    exact hwords (words_eq_nil_iff.mpr hblank)
  · rintro ⟨hmem, -⟩
    exact hredirect (hlast ▸ hmem)
  · rintro (⟨piece, hpiece, -⟩ | ⟨hmem, -⟩)
    · rw [initPieces, pieces_of_notMem hpipe] at hpiece
      cases hpiece
    · exact hredirect (hlast ▸ hmem)

theorem arguments_inj {stage other : Stage} (h : stage.arguments = other.arguments) :
    stage = other := by
  obtain ⟨hprogram, hoperands⟩ := List.cons.inj h
  cases stage
  cases other
  exact congrArg₂ Stage.mk hprogram hoperands

/-- A line is a lone stage in one way only. -/
theorem Lone.unique {limit : Nat} {line : String} {stage other : Stage}
    (h : Lone limit line stage) (hother : Lone limit line other) : stage = other :=
  arguments_inj (h.words.symm.trans hother.words)

theorem simple?_eq_some_iff {pipeline : Pipeline} {stage : Stage} :
    pipeline.simple? = some stage ↔ pipeline = ⟨[stage], none⟩ := by
  constructor
  · intro h
    unfold Pipeline.simple? at h
    split at h
    · cases h
      rfl
    · cases h
  · rintro rfl
    rfl

/-- What the parser makes of a text without operators that has not too many words. -/
theorem ofTokens_of_words {limit : Nat} {text : List Char} {stage : Stage} (hpipe : '|' ∉ text)
    (hredirect : '>' ∉ text) (hwords : RawText.words text = stage.arguments)
    (hroom : stage.arguments.length ≤ limit) :
    Pipeline.ofTokens limit (Token.scan text) = .ok ⟨[stage], none⟩ := by
  have hne : RawText.words text ≠ [] := by
    rw [hwords]
    exact List.cons_ne_nil _ _
  have hread := (ofTokens_scan (wellFormed_of_words hpipe hredirect hne) limit).2
  rw [pieces_of_notMem hpipe, List.forall_mem_singleton, List.map_singleton,
    head_of_notMem hredirect, hwords] at hread
  obtain ⟨⟨stages, target⟩, hparsed, harguments, hnames⟩ := hread hroom
  obtain ⟨other, hstages, hother⟩ := List.map_eq_singleton_iff.mp harguments
  have htarget : target = none := by
    cases target with
    | none => rfl
    | some target =>
        obtain ⟨name, ⟨hclause, -⟩, -⟩ := hnames
        have hoperator : '>' ∈ target.mode.operator.toList := by cases target.mode <;> decide
        rw [lastPiece_of_notMem hpipe] at hclause
        refine absurd ?_ hredirect
        rw [hclause]
        exact List.mem_append_right _ (List.mem_append_left _ hoperator)
  rw [hparsed, ← arguments_inj hother, htarget]
  exact congrArg (fun stages => Except.ok (Pipeline.mk stages none)) hstages

/-- A text that is read as a single stage without a redirection holds no operator and spells the
words of the stage. -/
theorem words_of_ofTokens {limit : Nat} {text : List Char} {stage : Stage}
    (h : Pipeline.ofTokens limit (Token.scan text) = .ok ⟨[stage], none⟩) :
    '|' ∉ text ∧ '>' ∉ text ∧ RawText.words text = stage.arguments ∧
      stage.arguments.length ≤ limit := by
  have hformed := (check_scan _).mp (Pipeline.check_of_ofTokens h).1
  obtain ⟨hmany, hread⟩ := ofTokens_scan hformed limit
  have hroom : ∀ piece ∈ pieces text, (RawText.words (head piece)).length ≤ limit := by
    intro piece hpiece
    by_contra hlt
    have herror := hmany.mpr ⟨piece, hpiece, Nat.lt_of_not_le hlt⟩
    exact absurd (h.symm.trans herror) (by simp)
  obtain ⟨pipeline, hparsed, harguments, hnames⟩ := hread hroom
  obtain rfl := Except.ok.inj (h.symm.trans hparsed)
  have hpipe : '|' ∉ text := by
    have hlength := congrArg List.length harguments
    rw [List.length_map, List.length_map, Verdicts.length_pieces] at hlength
    exact List.count_eq_zero.mp (Nat.succ.inj hlength.symm)
  have hredirect : '>' ∉ text := fun hmem =>
    hformed.2.2 (.inr ⟨(lastPiece_of_notMem hpipe).symm ▸ hmem, hnames⟩)
  rw [pieces_of_notMem hpipe, List.map_singleton, List.map_singleton,
    head_of_notMem hredirect] at harguments
  have hwords : stage.arguments = RawText.words text := (List.cons.inj harguments).1
  rw [pieces_of_notMem hpipe, List.forall_mem_singleton, head_of_notMem hredirect,
    ← hwords] at hroom
  exact ⟨hpipe, hredirect, hwords.symm, hroom⟩

/-- **Lone stages.** The parser reads a line as a single stage without a redirection exactly if the
line holds neither operator and spells the words of the stage. -/
theorem lone_iff {limit : Nat} {line : String} {stage : Stage} : Lone limit line stage ↔
    Pipeline.ofTokens limit (Token.ofLine (Text.trimString line)) = .ok ⟨[stage], none⟩ := by
  have hpipe : '|' ∈ Text.trim line.toList ↔ '|' ∈ line.toList := mem_trim_iff (by decide)
  have hredirect : '>' ∈ Text.trim line.toList ↔ '>' ∈ line.toList := mem_trim_iff (by decide)
  unfold Token.ofLine Text.trimString
  rw [String.toList_ofList]
  constructor
  · rintro ⟨hunpiped, hunredirected, hwords, hroom⟩
    exact ofTokens_of_words (mt hpipe.mp hunpiped) (mt hredirect.mp hunredirected)
      ((words_trim _).trans hwords) hroom
  · intro h
    obtain ⟨hunpiped, hunredirected, hwords, hroom⟩ := words_of_ofTokens h
    exact ⟨mt hpipe.mpr hunpiped, mt hredirect.mpr hunredirected,
      (words_trim _).symm.trans hwords, hroom⟩

/-! ## The table -/

/-- Some factory of the table recognises the stage. -/
def Recognised (table : CommandTable) (stage : Stage) : Prop :=
  ∃ recognise ∈ table, (recognise stage).isSome = true

/-- The command comes from the factory at a place of the table, and none that stands before it
recognises the stage. -/
def FirstAt (table : CommandTable) (stage : Stage) (place : Nat) (command : Command) : Prop :=
  (∃ recognise, table[place]? = some recognise ∧ recognise stage = some command) ∧
    ∀ earlier < place, ∀ recognise, table[earlier]? = some recognise → recognise stage = none

theorem exists_firstAt {table : CommandTable} {stage : Stage} (h : Recognised table stage) :
    ∃ place command, FirstAt table stage place command ∧ table.find? stage = some command := by
  unfold CommandTable.find?
  -- the first that accepts is the head of the table, or has its place in the rest of it
  induction table with
  | nil =>
      obtain ⟨recognise, hmem, -⟩ := h
      cases hmem
  | cons recognise table ih =>
      cases hfound : recognise stage with
      | some command =>
          refine ⟨0, command, ⟨⟨recognise, rfl, hfound⟩, ?_⟩, by simp [hfound]⟩
          intro earlier hearlier
          exact absurd hearlier (Nat.not_lt_zero earlier)
      | none =>
          have hrest : Recognised table stage := by
            obtain ⟨other, hmem, hsome⟩ := h
            rcases List.mem_cons.mp hmem with rfl | hmem
            · rw [hfound] at hsome
              exact absurd hsome Bool.false_ne_true
            · exact ⟨other, hmem, hsome⟩
          obtain ⟨place, command, ⟨hplace, hearlier⟩, hfind⟩ := ih hrest
          refine ⟨place + 1, command, ⟨hplace, ?_⟩, by simpa [hfound] using hfind⟩
          intro earlier hlt other hother
          cases earlier with
          | zero =>
              obtain rfl := Option.some.inj hother
              exact hfound
          | succ earlier => exact hearlier earlier (Nat.lt_of_succ_lt_succ hlt) other hother

theorem find?_eq_none_of {table : CommandTable} {stage : Stage} (h : ¬Recognised table stage) :
    table.find? stage = none := by
  unfold CommandTable.find?
  rw [List.findSome?_eq_none_iff]
  intro recognise hmem
  cases hfound : recognise stage with
  | none => rfl
  | some command => exact absurd ⟨recognise, hmem, by rw [hfound]; rfl⟩ h

/-! ## One line -/

/-- To run a command of the shell, once, and to say what it has come to. -/
def attending (command : Command) (environment : Environment) (line : String) : Prog Answer :=
  (Shell.runCommand command environment (Text.trimString line)).bind fun answer =>
    .pure (.ok answer.1, answer.2)

/-- The shell without commands of its own. -/
def bare (shell : Shell) : Shell := ⟨shell.config, []⟩

section Line

variable {shell : Shell} {environment : Environment} {line : String} {stage : Stage}

theorem not_isEmpty_of_lone {limit : Nat} (h : Lone limit line stage) :
    (Text.trimString line).isEmpty = false :=
  isEmpty_of_ofTokens (lone_iff.mp h)

/-- A line that is a lone stage goes straight to the table. -/
theorem runLine_of_lone (h : Lone shell.config.maxArguments line stage) :
    shell.runLine environment line =
      serving shell environment (Text.trimString line) ⟨[stage], none⟩ := by
  have hparsed := lone_iff.mp h
  have hcheck := (Pipeline.check_of_ofTokens hparsed).1
  have htarget : Structure.target? (Token.ofLine (Text.trimString line)) = none :=
    (target_of_ofTokens hparsed).symm
  rw [Refusal.runLine_eq_inspect (not_isEmpty_of_lone h)]
  unfold inspect
  rw [hcheck, htarget]
  show Refusal.reading shell environment (Text.trimString line) = _
  unfold Refusal.reading
  rw [hparsed]
  rfl

theorem runLine_eq_attending {command : Command} (h : Lone shell.config.maxArguments line stage)
    (hfind : shell.commands.find? stage = some command) :
    shell.runLine environment line = attending command environment line := by
  rw [runLine_of_lone h]
  unfold serving
  rw [show Pipeline.simple? ⟨[stage], none⟩ = some stage from rfl, Option.bind_some, hfind]
  rfl

/-- Where the table is of no use for a line, it might as well be empty. -/
theorem runLine_eq_bare
    (h : ¬∃ stage, Lone shell.config.maxArguments line stage ∧ Recognised shell.commands stage) :
    shell.runLine environment line = (bare shell).runLine environment line := by
  cases hempty : (Text.trimString line).isEmpty with
  | true =>
      unfold Shell.runLine
      dsimp only
      rw [hempty, if_pos rfl, if_pos rfl]
  | false =>
      rw [Refusal.runLine_eq_inspect hempty, Refusal.runLine_eq_inspect hempty]
      congr 1
      funext outcome
      cases outcome with
      | error fault => rfl
      | ok done =>
          show Refusal.answering _ _ _ (Pipeline.ofTokens shell.config.maxArguments _) =
            Refusal.answering _ _ _ (Pipeline.ofTokens shell.config.maxArguments _)
          cases hparsed : Pipeline.ofTokens shell.config.maxArguments
              (Token.ofLine (Text.trimString line)) with
          | error fault => rfl
          | ok pipeline =>
              -- a command is looked for only when the line is one stage without a target
              have hnone : pipeline.simple?.bind shell.commands.find? = none := by
                rw [Option.bind_eq_none_iff]
                intro stage hsimple
                rw [simple?_eq_some_iff.mp hsimple] at hparsed
                refine find?_eq_none_of fun hrecognised => ?_
                exact h ⟨stage, lone_iff.mpr hparsed, hrecognised⟩
              have hbare : pipeline.simple?.bind (bare shell).commands.find? = none := by
                rw [Option.bind_eq_none_iff]
                intro stage _
                rfl
              show serving shell environment _ _ = serving (bare shell) environment _ _
              rw [serving_eq hnone, serving_eq hbare]

theorem find?_bare (pipeline : Pipeline) :
    pipeline.simple?.bind (bare shell).commands.find? = none := by
  rw [Option.bind_eq_none_iff]
  intro stage _
  rfl

end Line

/-! ## The shell's own commands -/

/-- Wherever the program ends, the shell is to stop or not, as told. -/
def Leaves (flag : Bool) (program : Prog (Except String Int × Environment)) : Prop :=
  ∀ trace reply later, Yields program trace (reply, later) → later.exiting = flag

/-- The shell runs lines one after another, whatever happens meanwhile and whatever they come to:
from the one environment to the other. -/
inductive Session (shell : Shell) : Environment → List String → Environment → Prop
  | rest {environment} : Session shell environment [] environment
  | line {environment line trace outcome later lines last} :
      Yields (shell.runLine environment line) trace (outcome, later) →
      Session shell later lines last → Session shell environment (line :: lines) last

end LineShell.Dispatch
