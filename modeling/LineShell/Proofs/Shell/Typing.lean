import LineShell.Proofs.Line.Clamping
import LineShell.Proofs.Line.Encoding
import LineShell.Proofs.Shell.Transcript
import LineShell.Proofs.System.Indifference

/-!
# Typed lines

An editor takes a single line end off each line that is typed; a script loses all of those that are
behind a line.

* **`forall₂_trim_eq`** — line by line the two take the same command from a text;
* **`Delivers`** — what is asked of an editor at which a list of lines is typed;
* **`delivers_plainEditor`** — the editor of a terminal that can do nothing but print does so.
-/

namespace LineShell.Typing

open Text Transcript Prog

/-! ## The lines of a text -/

/-- The lines of a text, which is cut behind every line feed. -/
def wholeLines : List Char → List (List Char)
  | [] => []
  | c :: rest =>
      if c = '\n' then [c] :: wholeLines rest
      else match wholeLines rest with
        | [] => [[c]]
        | line :: more => (c :: line) :: more

/-- The lines of a text as an editor hands them over: one line end is taken off each of them. -/
def typedLines (text : List Char) : List String :=
  (wholeLines text).map fun line => String.ofList (Shell.withoutLineEnd line)

/-- A line that is cut to the limit. -/
def cutToLimit (config : Config) (line : String) : String := (config.clamp line).1

/-- Nothing of a text is lost between its lines. -/
theorem flatten_wholeLines (text : List Char) : (wholeLines text).flatten = text := by
  induction text with
  | nil => rfl
  | cons c rest ih =>
      rw [wholeLines]
      split
      · rw [List.flatten_cons, ih, List.singleton_append]
      · cases hrest : wholeLines rest <;> simp_all

theorem wholeLines_of_notMem {text : List Char} (h : '\n' ∉ text) :
    wholeLines text = if text = [] then [] else [text] := by
  induction text with
  | nil => rfl
  | cons c rest ih =>
      rw [List.mem_cons, not_or] at h
      rw [wholeLines, if_neg (Ne.symm h.1), ih h.2]
      cases rest <;> simp

theorem wholeLines_append_feed {line : List Char} (rest : List Char) (h : '\n' ∉ line) :
    wholeLines (line ++ '\n' :: rest) = (line ++ ['\n']) :: wholeLines rest := by
  induction line with
  | nil => simp [wholeLines]
  | cons c line ih =>
      rw [List.mem_cons, not_or] at h
      rw [List.cons_append, wholeLines, if_neg (Ne.symm h.1), ih h.2]
      rfl

/-! ## Line ends -/

/-- A line ends with carriage returns, all of which are blank. -/
theorem exists_returns (line : List Char) :
    ∃ returns, line = withoutReturns line ++ returns ∧ ∀ c ∈ returns, isBlank c = true := by
  refine ⟨line.rtakeWhile (· == '\r'), List.rdropWhile_append_rtakeWhile.symm, fun c hc => ?_⟩
  have hreturn : c = '\r' := by simpa using List.mem_rtakeWhile_imp hc
  rw [hreturn]
  rfl

theorem withoutLineEnd_of_notMem {line : List Char} (h : '\n' ∉ line) :
    Shell.withoutLineEnd line = line := by
  have hlast : ∀ rest, line.reverse ≠ '\n' :: rest := fun rest heq =>
    h (List.mem_reverse.mp (heq ▸ List.mem_cons_self))
  unfold Shell.withoutLineEnd
  split
  · next heq => exact absurd heq (hlast _)
  · next heq => exact absurd heq (hlast _)
  · rfl

/-- In front of a line feed at most one carriage return is taken off. -/
theorem withoutLineEnd_append_feed (line : List Char) :
    Shell.withoutLineEnd (line ++ ['\n']) = line ∨
      line = Shell.withoutLineEnd (line ++ ['\n']) ++ ['\r'] := by
  unfold Shell.withoutLineEnd
  rw [List.reverse_append, List.reverse_singleton, List.singleton_append]
  split
  · next rest heq =>
      right
      rw [← List.reverse_inj, (List.cons.inj heq).2]
      simp
  · next heq =>
      left
      rw [← (List.cons.inj heq).2, List.reverse_reverse]
  · next h => exact absurd rfl (h _)

/-- What an editor leaves of a line is what a script leaves of it, and blanks. -/
theorem exists_blanks {line : List Char} (h : '\n' ∉ line) (ended : Bool) :
    ∃ blanks, (∀ c ∈ blanks, isBlank c = true) ∧
      Shell.withoutLineEnd (if ended then line ++ ['\n'] else line) =
        withoutReturns line ++ blanks := by
  obtain ⟨returns, hline, hreturns⟩ := exists_returns line
  cases ended with
  | false => exact ⟨returns, hreturns, (withoutLineEnd_of_notMem h).trans hline⟩
  | true =>
      rcases withoutLineEnd_append_feed line with heq | heq
      · exact ⟨returns, hreturns, heq.trans hline⟩
      · obtain ⟨fewer, htyped, hfewer⟩ := exists_returns (Shell.withoutLineEnd (line ++ ['\n']))
        have hsame : withoutReturns line =
            withoutReturns (Shell.withoutLineEnd (line ++ ['\n'])) :=
          (congrArg withoutReturns heq).trans (List.rdropWhile_concat_pos _ _ _ rfl)
        exact ⟨fewer, hfewer, hsame ▸ htyped⟩

/-- Blanks behind a line make no difference to the command, wherever the line is cut. -/
theorem trim_cutToLimit (config : Config) {blanks : List Char}
    (h : ∀ c ∈ blanks, isBlank c = true) (line : List Char) :
    trimString (cutToLimit config (String.ofList (line ++ blanks))) =
      trimString (cutToLimit config (String.ofList line)) := by
  simp only [cutToLimit, Config.clamp, trimString, String.toList_ofList]
  rw [Config.trim_clampTo_append h]

/-- **Line by line, an editor and a script give the same command.** -/
theorem forall₂_trim_eq (config : Config) (text : List Char) :
    List.Forall₂ (fun typed line => trimString typed = trimString line)
      ((typedLines text).map (cutToLimit config)) (scriptLines config (encode text)) := by
  have hcut : ∀ {line : List Char} (_ : '\n' ∉ line) (ended : Bool),
      trimString (cutToLimit config
          (String.ofList (Shell.withoutLineEnd (if ended then line ++ ['\n'] else line)))) =
        trimString (config.clamp (String.ofList (withoutReturns line))).1 := fun hline ended => by
    obtain ⟨blanks, hblanks, heq⟩ := exists_blanks hline ended
    rw [heq, trim_cutToLimit config hblanks]
    rfl
  unfold typedLines scriptLines
  rw [decode_encode, List.map_map, List.forall₂_map_left_iff, List.forall₂_map_right_iff]
  -- on the length of the text: its first line, and what is behind the line feed
  induction hlength : text.length using Nat.strongRecOn generalizing text with
  | ind length ih =>
    by_cases hfeed : '\n' ∈ text
    · obtain ⟨line, rest, rfl, hline⟩ := List.eq_append_cons_of_mem hfeed
      have hshorter : rest.length < length := by
        rw [← hlength, List.length_append, List.length_cons]
        omega
      rw [wholeLines_append_feed rest hline, textLines_append_feed rest hline]
      exact .cons (hcut hline true) (ih _ hshorter rest rfl)
    · rw [wholeLines_of_notMem hfeed, textLines_of_notMem hfeed]
      split
      · exact .nil
      · exact .cons (hcut hfeed false) .nil

/-- The lines themselves may differ: of two carriage returns the editor leaves one. -/
example : (typedLines ['a', '\r', '\r', '\n', 'b', '\r']).map (cutToLimit { maxLineLength := 3 }) =
      ["a\r", "b\r"] ∧
    scriptLines { maxLineLength := 3 } (encode ['a', '\r', '\r', '\n', 'b', '\r']) =
      ["a", "b"] := by
  constructor <;> cbv

/-! ## An editor that hands over lines -/

variable {σ : Type} {world : World σ} {alike : σ → σ → Prop}

/-- To show a text is quiet. -/
theorem quiet_display (hworld : Indifferent world alike) (text : String) :
    Quiet world alike (Shell.display text) (· = .ok ()) :=
  (quiet_put hworld _).bind hworld fun _ _ => quiet_flush hworld

/-- The editor hands over the lines one after the other, and then says that there are no more: to
read a line and to remember it succeeds and is quiet. -/
def Delivers {ρ : Type} (world : World σ) (alike : σ → σ → Prop) (editor : Shell.Editor ρ)
    (prompt : String) : List String → ρ → Prop
  | [], state => Quiet world alike (editor.read prompt state) fun read => read.1 = .ended
  | line :: rest, state => Quiet world alike (editor.read prompt state) fun read =>
      read.1 = .line line ∧ Quiet world alike (editor.remember line read.2) fun remembered =>
        ∃ later, remembered = .ok later ∧ Delivers world alike editor prompt rest later

/-! ## Backspaces -/

/-- The characters of a text that has been cut so far. -/
def Cutting.spelled (cutting : Cutting) : List Char :=
  (cutting.2.map List.reverse).reverse.flatten

theorem spelled_add (cutting : Cutting) (c : Char) :
    Cutting.spelled (cutting.add c) = Cutting.spelled cutting ++ [c] := by
  unfold Cutting.spelled
  rcases cutting with ⟨_ | before, _ | ⟨cluster, done⟩⟩
  · simp [Cutting.add]
  · simp [Cutting.add]
  · simp [Cutting.add]
  · rw [Cutting.add]
    split <;> simp

/-- Clusters are made of the characters of the text. -/
theorem flatten_clusters (text : List Char) : (clusters text).flatten = text := by
  have hfold : ∀ (text : List Char) (cutting : Cutting),
      Cutting.spelled (text.foldl Cutting.add cutting) = Cutting.spelled cutting ++ text := by
    intro text
    induction text with
    | nil => simp
    | cons c rest ih =>
        intro cutting
        rw [List.foldl_cons, ih, spelled_add, List.append_assoc, List.singleton_append]
  exact hfold text (none, [])

/-- Without backspaces among them, clusters are taken to the text one after the other. -/
theorem foldl_typeCluster {parts : List (List Char)} (h : [backspace] ∉ parts)
    (typed : List Char × List Nat) :
    (parts.foldl typeCluster typed).1 = parts.flatten.reverse ++ typed.1 := by
  induction parts generalizing typed with
  | nil => rfl
  | cons part rest ih =>
      rw [List.mem_cons, not_or] at h
      rw [List.foldl_cons, ih h.2]
      unfold typeCluster
      rw [if_neg (by simpa using Ne.symm h.1)]
      simp

/-- A text without backspaces stays as it is. -/
theorem applyBackspaces_of_notMem {text : List Char} (h : backspace ∉ text) :
    applyBackspaces text = text := by
  have hparts : [backspace] ∉ clusters text := fun hmem => h <| by
    rw [← flatten_clusters text]
    exact List.mem_flatten.mpr ⟨_, hmem, List.mem_singleton_self _⟩
  rw [applyBackspaces, foldl_typeCluster hparts, List.append_nil, List.reverse_reverse,
    flatten_clusters]

/-! ## The plain editor -/

/-- Only a line feed is encoded with the byte of a line feed. -/
theorem feed_notMem_encode {text : List Char} (h : '\n' ∉ text) : 10 ∉ encode text := by
  intro hmem
  obtain ⟨front, back, heq, -⟩ := List.eq_append_cons_of_mem hmem
  have htext : text = decode front ++ '\n' :: decode back := by
    rw [← decode_append_feed, ← heq, decode_encode]
  exact h (htext ▸ List.mem_append_right _ List.mem_cons_self)

/-- A typed line is read as its text, without the line end. -/
theorem typedText?_encode {line : List Char} (h : backspace ∉ Shell.withoutLineEnd line) :
    Shell.typedText? (encode line) = some (String.ofList (Shell.withoutLineEnd line)) := by
  unfold Shell.typedText?
  rw [decode_encode]
  simp [applyBackspaces_of_notMem h]

theorem withoutLineEnd_sublist (line : List Char) : (Shell.withoutLineEnd line).Sublist line := by
  unfold Shell.withoutLineEnd
  rw [← List.reverse_sublist]
  split
  · next heq => simp [heq]
  · next heq => simp [heq]
  · exact List.Sublist.refl _

/-- No more can be read than has been read. -/
def Drained (world : World σ) (alike : σ → σ → Prop) : Prop :=
  Quiet world alike (call (.read Fd.stdin Shell.readSize)) (· = .ok [])

theorem quiet_typedLine_feed (hworld : Indifferent world alike) {line rest : Bytes}
    (h : 10 ∉ line) : Quiet world alike (Shell.typedLine (line ++ 10 :: rest))
      (· = .ok (line ++ [10], rest)) := by
  have hcut : Shell.cutLine (line ++ 10 :: rest) = (line ++ [10], rest) := by
    have htake : (line ++ 10 :: rest).takeWhile (· != 10) = line := by
      rw [List.takeWhile_append_of_pos fun b hb => by
        simpa using fun heq : b = 10 => h (heq ▸ hb)]
      simp
    simp [Shell.cutLine, htake]
  refine quiet_loop ?_
  unfold unroll
  beta_reduce
  rw [if_pos (by simp), hcut]
  exact quiet_pure hworld rfl

theorem quiet_typedLine_last (hworld : Indifferent world alike) (hdrained : Drained world alike)
    {line : Bytes} (h : 10 ∉ line) :
    Quiet world alike (Shell.typedLine line) (· = .ok (line, [])) := by
  refine quiet_loop ?_
  unfold unroll
  beta_reduce
  rw [if_neg (by simpa using h)]
  change Quiet world alike (((call _).bind _).bind _) _
  rw [bind_assoc]
  refine hdrained.bind hworld fun read hread => ?_
  subst hread
  exact quiet_pure hworld rfl

/-- What has been read up to the end of a line is handed over as a line. -/
theorem quiet_read_line (hworld : Indifferent world alike) (prompt : String) {line : List Char}
    (hne : line ≠ []) (hback : backspace ∉ line) {kept rest : Bytes}
    (h : Quiet world alike (Shell.typedLine kept) (· = .ok (encode line, rest))) :
    Quiet world alike (Shell.plainEditor.read prompt kept)
      (· = (.line (String.ofList (Shell.withoutLineEnd line)), rest)) := by
  refine (quiet_display hworld prompt).bind hworld fun shown hshown => ?_
  subst hshown
  refine h.bind hworld fun read hread => ?_
  subst hread
  have htext := typedText?_encode fun hmem => hback ((withoutLineEnd_sublist line).subset hmem)
  cases hbytes : encode line with
  | nil => exact absurd hbytes (encode_ne_nil hne)
  | cons b more =>
      rw [hbytes] at htext
      simp only [htext]
      exact quiet_pure hworld rfl

/-- When nothing is left, it says so. -/
theorem quiet_read_ended (hworld : Indifferent world alike) (hdrained : Drained world alike)
    (prompt : String) :
    Quiet world alike (Shell.plainEditor.read prompt []) (·.1 = .ended) := by
  refine (quiet_display hworld prompt).bind hworld fun shown hshown => ?_
  subst hshown
  refine (quiet_typedLine_last hworld hdrained (by simp)).bind hworld fun read hread => ?_
  subst hread
  exact quiet_pure hworld rfl

/-- **The plain editor hands over the lines of a text that has been typed ahead**, if nothing in
the text is taken back. -/
theorem delivers_plainEditor (hworld : Indifferent world alike) (hdrained : Drained world alike)
    (prompt : String) {text : List Char} (h : backspace ∉ text) :
    Delivers world alike Shell.plainEditor prompt (typedLines text) (encode text) := by
  unfold typedLines
  induction hlength : text.length using Nat.strongRecOn generalizing text with
  | ind length ih =>
    by_cases hfeed : '\n' ∈ text
    · obtain ⟨line, rest, rfl, hline⟩ := List.eq_append_cons_of_mem hfeed
      rw [List.mem_append, List.mem_cons, not_or, not_or] at h
      have hshorter : rest.length < length := by
        rw [← hlength, List.length_append, List.length_cons]
        omega
      have htyped : Quiet world alike (Shell.typedLine (encode (line ++ '\n' :: rest)))
          (· = .ok (encode (line ++ ['\n']), encode rest)) := by
        rw [encode_append, encode_append]
        exact quiet_typedLine_feed hworld (feed_notMem_encode hline)
      have hback : backspace ∉ line ++ ['\n'] := by
        rw [List.mem_append, List.mem_singleton, not_or]
        exact ⟨h.1, h.2.1⟩
      rw [wholeLines_append_feed rest hline, List.map_cons, Delivers]
      refine (quiet_read_line hworld prompt (by simp) hback htyped).imp fun read hread => ?_
      subst hread
      exact ⟨rfl, quiet_pure hworld ⟨_, rfl, ih _ hshorter h.2.2 rfl⟩⟩
    · have hended := quiet_read_ended hworld hdrained prompt
      rw [wholeLines_of_notMem hfeed]
      split
      next hnil =>
        subst hnil
        exact hended
      next hne =>
        have htyped := quiet_typedLine_last hworld hdrained (feed_notMem_encode hfeed)
        refine (quiet_read_line hworld prompt hne h htyped).imp fun read hread => ?_
        subst hread
        exact ⟨rfl, quiet_pure hworld ⟨_, rfl, hended⟩⟩

end LineShell.Typing
