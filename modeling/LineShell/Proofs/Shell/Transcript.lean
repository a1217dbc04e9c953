import LineShell.Proofs.Line.Decoding
import LineShell.Shell.Interpreter
import Mathlib

/-!
# A script as text

A script arrives as bytes, and the shell decodes it line by line. What it does is what a shell
would do that decoded the whole script first and cut the text into lines afterwards.

* **`decode_append_feed`** — decoding and a cut at a line feed commute, also where a character
  stops short before the line feed;
* **`scriptLine_lines`** — the lines that the shell makes of the bytes are the lines of the text;
* **`runScript_eq`** — running a script is a conversation over the lines of its text.
-/

namespace LineShell.Transcript

open Text

/-! ## Lines of a text -/

/-- The pieces between the line feeds of a text, without the last one if it is empty. -/
def textLines (text : List Char) : List (List Char) :=
  let pieces := text.splitOn '\n'
  if pieces.getLast? = some [] then pieces.dropLast else pieces

/-- A line without the carriage returns at its end. -/
def withoutReturns (line : List Char) : List Char := line.rdropWhile (· == '\r')

/-- The lines of a script: those of its text, without carriage returns at their ends, cut to the
limit. -/
def scriptLines (config : Config) (script : Bytes) : List String :=
  (textLines (decode script)).map fun line =>
    (config.clamp (String.ofList (withoutReturns line))).1

theorem textLines_of_notMem {text : List Char} (h : '\n' ∉ text) :
    textLines text = if text = [] then [] else [text] := by
  unfold textLines
  rw [List.splitOn_eq_singleton h]
  by_cases htext : text = [] <;> simp [htext]

theorem textLines_append_feed {line : List Char} (rest : List Char) (h : '\n' ∉ line) :
    textLines (line ++ '\n' :: rest) = line :: textLines rest := by
  have hne : rest.splitOn '\n' ≠ [] := List.splitOn_ne_nil '\n' rest
  unfold textLines
  rw [List.splitOn_append_cons_self, List.splitOn_eq_singleton h, List.singleton_append]
  simp only [List.getLast?_cons_of_ne_nil hne]
  split
  · exact List.dropLast_cons_of_ne_nil hne
  · rfl

/-! ## Lines of bytes -/

theorem lines_of_notMem {bytes : Bytes} (h : 10 ∉ bytes) :
    lines bytes = if bytes = [] then [] else [bytes] := by
  induction bytes with
  | nil => rfl
  | cons b rest ih =>
      have hb : b ≠ 10 := fun heq => h (heq ▸ List.mem_cons_self)
      rw [lines_cons, if_neg hb, ih fun hrest => h (List.mem_cons_of_mem b hrest)]
      cases rest <;> simp

theorem lines_append_feed {line : Bytes} (rest : Bytes) (h : 10 ∉ line) :
    lines (line ++ 10 :: rest) = (line ++ [10]) :: lines rest := by
  induction line with
  | nil => simp [lines_cons]
  | cons b line ih =>
      have hb : b ≠ 10 := fun heq => h (heq ▸ List.mem_cons_self)
      rw [List.cons_append, lines_cons, if_neg hb,
        ih fun hline => h (List.mem_cons_of_mem b hline)]
      rfl

/-! ## Line feeds -/

/-- **Decoding and a cut at a line feed commute.** -/
theorem decode_append_feed (line rest : Bytes) :
    decode (line ++ 10 :: rest) = decode line ++ '\n' :: decode rest :=
  decode_append_ascii (by decide) line rest

/-- No line feed is read out of nothing. -/
theorem feed_notMem_decode {bytes : Bytes} (h : 10 ∉ bytes) : '\n' ∉ decode bytes := by
  intro hmem
  obtain ⟨_, hreads⟩ := exists_reads bytes
  have hbytes := hreads.encodeChar_subset hmem (by decide)
  exact h (hbytes (by decide))

/-! ## The lines of a script -/

theorem stripEnds_append_feed (line : List Char) :
    Shell.stripEnds (line ++ ['\n']) = Shell.stripEnds line := by
  simp [Shell.stripEnds, Shell.isLineEnd]

/-- A text without line feeds can only lose carriage returns at its end. -/
theorem stripEnds_of_notMem {line : List Char} (h : '\n' ∉ line) :
    Shell.stripEnds line = withoutReturns line := by
  unfold Shell.stripEnds withoutReturns
  induction line using List.reverseRecOn with
  | nil => rfl
  | append_singleton line c ih =>
      rw [List.mem_append, not_or] at h
      have hc : c ≠ '\n' := fun heq => h.2 (heq ▸ List.mem_singleton_self c)
      have hend : Shell.isLineEnd c = (c == '\r') := by simp [Shell.isLineEnd, hc]
      rw [List.rdropWhile_concat, List.reverse_append, List.reverse_singleton,
        List.singleton_append, List.dropWhile_cons, hend]
      split
      · exact ih h.1
      · simp

/-- Induction over the lines of a byte string: it holds no line feed, or it is a line, a line feed
and a byte string for which the property is known. -/
theorem induction_lines {motive : Bytes → Prop} (last : ∀ bytes, 10 ∉ bytes → motive bytes)
    (step : ∀ line rest, 10 ∉ line → motive rest → motive (line ++ 10 :: rest))
    (script : Bytes) : motive script := by
  induction hlength : script.length using Nat.strongRecOn generalizing script with
  | ind length ih =>
    by_cases hfeed : 10 ∈ script
    · obtain ⟨line, rest, rfl, hline⟩ := List.eq_append_cons_of_mem hfeed
      have hshorter : rest.length < length := by
        rw [← hlength, List.length_append, List.length_cons]
        omega
      exact step line rest hline (ih _ hshorter rest rfl)
    · exact last script hfeed

/-- A line that ends with a line feed is cut like the text in front of it. -/
theorem scriptLine_feed (config : Config) {line : Bytes} (h : 10 ∉ line) :
    Shell.scriptLine config (line ++ [10]) =
      (config.clamp (String.ofList (withoutReturns (decode line)))).1 := by
  unfold Shell.scriptLine
  rw [decode_append_feed, decode_nil, stripEnds_append_feed,
    stripEnds_of_notMem (feed_notMem_decode h)]

/-- **The lines that are made of the bytes of a script are the lines of its text.** -/
theorem scriptLine_lines (config : Config) (script : Bytes) :
    (lines script).map (Shell.scriptLine config) = scriptLines config script := by
  unfold scriptLines
  induction script using induction_lines with
  | last bytes h =>
      rw [lines_of_notMem h, textLines_of_notMem (feed_notMem_decode h)]
      cases bytes with
      | nil => simp
      | cons b rest =>
          unfold Shell.scriptLine
          rw [if_neg (by simp), if_neg (by simp [decode_cons]), List.map_singleton,
            List.map_singleton, stripEnds_of_notMem (feed_notMem_decode h)]
  | step line rest h ih =>
      rw [lines_append_feed rest h, decode_append_feed,
        textLines_append_feed _ (feed_notMem_decode h), List.map_cons, List.map_cons, ih,
        scriptLine_feed config h]

/-- What the lines are decoded into makes up the text of the whole script. -/
theorem flatMap_decode_lines (script : Bytes) :
    (lines script).flatMap decode = decode script := by
  induction script using induction_lines with
  | last bytes h =>
      rw [lines_of_notMem h]
      split
      · next heq => simp [heq]
      · simp
  | step line rest h ih =>
      rw [lines_append_feed rest h, List.flatMap_cons, ih, decode_append_feed,
        decode_append_feed, decode_nil]
      simp

/-! ## The session -/

/-- Writes a line back, unless the settings forbid it. -/
def writeBack (config : Config) (line : String) : Prog (Except Errno Unit) :=
  if config.echo = .never then pure (.ok ()) else Shell.display (line ++ "\n")

/-- A conversation over lines of text: unless the shell has been told to stop, it writes the
prompt, ends well if no line is left, and otherwise takes the next one, writes it back and runs
it. Only what cannot be written and a failure of `runLine` end it before its time. -/
def session (shell : Shell) :
    Environment → List String → Prog (Except Breakdown Unit × Environment)
  | environment, remaining => do
      if environment.exiting then return (.ok (), environment)
      match ← Shell.display shell.config.prompt with
      | .error errno => return (.error (.stream errno), environment)
      | .ok () =>
          match remaining with
          | [] => return (.ok (), environment)
          | line :: rest =>
              match ← writeBack shell.config line with
              | .error errno => return (.error (.stream errno), environment)
              | .ok () =>
                  match ← shell.runLine environment line with
                  | (.error failure, environment) => return (.error (.exec failure), environment)
                  | (.ok _, environment) => session shell environment rest

/-- Lines that do not come from a terminal are written back. -/
theorem echo_eq_writeBack (config : Config) (line : String) :
    Shell.echo config false line = writeBack config line := by
  unfold Shell.echo writeBack
  cases config.echo <;> rfl

theorem runLines_eq_session (shell : Shell) (environment : Environment) (rest : List Bytes) :
    shell.runLines environment rest =
      session shell environment (rest.map (Shell.scriptLine shell.config)) := by
  induction rest generalizing environment with
  | nil =>
      rw [Shell.runLines, List.map_nil, session]
      rfl
  | cons bytes rest ih =>
      rw [Shell.runLines, List.map_cons, session]
      unfold Shell.prompted Shell.echoAndRun
      simp only [ih, echo_eq_writeBack]
      split
      · rfl
      · congr 1
        funext shown
        cases shown with
        | error errno => rfl
        | ok _ =>
            -- both sides write the line back and run it; they only group the steps differently
            refine (Prog.bind_assoc _ _ _).trans (congrArg (Prog.bind _) (funext fun written => ?_))
            cases written with
            | error errno => rfl
            | ok _ =>
                refine (Prog.bind_assoc _ _ _).trans (congrArg (Prog.bind _) (funext fun ran => ?_))
                obtain ⟨outcome, later⟩ := ran
                cases outcome <;> rfl

/-- **Running a script is a conversation over the lines of its text**, and no cut between lines
spoils a character: decoded line by line, the script is the text it is as a whole. -/
theorem runScript_eq (shell : Shell) (environment : Environment) (script : Bytes) :
    shell.runScript environment script =
        session shell environment (scriptLines shell.config script) ∧
      (lines script).flatMap decode = decode script := by
  refine ⟨?_, flatMap_decode_lines script⟩
  unfold Shell.runScript
  rw [runLines_eq_session, scriptLine_lines]

end LineShell.Transcript
