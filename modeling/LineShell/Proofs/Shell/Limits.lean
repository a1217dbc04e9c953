import LineShell.Proofs.Line.Boundaries
import LineShell.Proofs.Line.Decoding
import LineShell.Proofs.Shell.Transcript

/-!
# What the limit of a line counts

A script arrives as bytes, and each of its lines is decoded before it is cut to the limit. So the
limit counts the bytes of the text, and not those of the script: they are the same unless the line
holds bytes that encode nothing.

* **`rawLines`** — the lines of a script as bytes, without what ends them;
* **`stripEnds_decode`** — what ends a line may be dropped before or after the line is decoded;
* **`runScript_measured`** — a line is run as a whole exactly if its bytes fit and leave room for
  what replacements take beyond them.
-/

namespace LineShell.Limits

open Text Transcript

/-! ## Lines without their ends -/

/-- A line feed or a carriage return. -/
def isEnd (b : UInt8) : Bool := b == 10 || b == 13

/-- The lines of a script as bytes, without the line feeds and carriage returns at their ends. -/
def rawLines (script : Bytes) : List Bytes := (lines script).map (·.rdropWhile isEnd)

/-- What is left of a line under the limit. -/
def handedOn (config : Config) (raw : Bytes) : String := (config.clamp (textOf raw)).1

/-- The bytes of a line end are that line end. -/
theorem encodeChar_of_isLineEnd {c : Char} (h : Shell.isLineEnd c = true) :
    ∃ b, String.utf8EncodeChar c = [b] ∧ isEnd b = true := by
  unfold Shell.isLineEnd at h
  rw [Bool.or_eq_true, beq_iff_eq, beq_iff_eq] at h
  rcases h with rfl | rfl
  · exact ⟨10, by decide, rfl⟩
  · exact ⟨13, by decide, rfl⟩

theorem decode_concat_end {b : UInt8} (h : isEnd b = true) (line : Bytes) :
    ∃ c, decode (line ++ [b]) = decode line ++ [c] ∧ Shell.isLineEnd c = true := by
  unfold isEnd at h
  rw [Bool.or_eq_true, beq_iff_eq, beq_iff_eq] at h
  rcases h with rfl | rfl
  · refine ⟨'\n', ?_, rfl⟩
    rw [decode_append_ascii (by decide), decode_nil]
    rfl
  · refine ⟨'\r', ?_, rfl⟩
    rw [decode_append_ascii (by decide), decode_nil]
    rfl

/-- No line end is read out of another byte. -/
theorem isEnd_of_decode_concat {line : Bytes} {b : UInt8} {text : List Char} {c : Char}
    (h : decode (line ++ [b]) = text ++ [c]) (hc : Shell.isLineEnd c = true) : isEnd b = true := by
  obtain ⟨extra, hreads⟩ := exists_reads (line ++ [b])
  rw [h] at hreads
  have hne : c ≠ replacement := by
    rintro rfl
    exact absurd hc (by decide)
  obtain ⟨front, hfront⟩ := hreads.exists_last hne
  obtain ⟨d, hencode, hend⟩ := encodeChar_of_isLineEnd hc
  rw [hencode] at hfront
  have hlast := (List.append_inj' hfront rfl).2
  rw [List.singleton_inj.mp hlast]
  exact hend

/-- **What ends a line may be dropped before or after the line is decoded.** -/
theorem stripEnds_decode (line : Bytes) :
    Shell.stripEnds (decode line) = decode (line.rdropWhile isEnd) := by
  show (decode line).rdropWhile Shell.isLineEnd = decode (line.rdropWhile isEnd)
  induction line using List.reverseRecOn with
  | nil => rw [decode_nil, List.rdropWhile_nil, List.rdropWhile_nil, decode_nil]
  | append_singleton line b ih =>
      by_cases hb : isEnd b = true
      · -- a line end is one byte and one character, and both are dropped
        obtain ⟨c, hdecode, hc⟩ := decode_concat_end hb line
        rw [hdecode, List.rdropWhile_concat_pos _ _ _ hc, ih, List.rdropWhile_concat_pos _ _ _ hb]
      · -- any other byte stays, and so does what is read of it
        rw [List.rdropWhile_concat_neg _ _ _ hb, List.rdropWhile_eq_self_iff]
        intro hne hend
        exact hb (isEnd_of_decode_concat (List.dropLast_append_getLast hne).symm hend)

theorem scriptLine_eq (config : Config) (line : Bytes) :
    Shell.scriptLine config line = handedOn config (line.rdropWhile isEnd) := by
  unfold Shell.scriptLine handedOn textOf
  rw [stripEnds_decode]

/-! ## The limit -/

/-- How a limit measures the bytes of a line of which something is left: what their text takes beyond
them is counted too. -/
structure Measured (limit : Nat) (raw : Bytes) (left : String) (extra : Nat) : Prop where
  reads : Reads raw (decode raw) extra
  whole : left = textOf raw ↔ raw.length + extra ≤ limit
  longest : Config.Longest limit (textOf raw) left
  utf8 : ∀ written, raw = bytesOf written → extra = 0
  bound : extra ≤ 2 * raw.length

theorem exists_measured (config : Config) (raw : Bytes) :
    ∃ extra, Measured (config.maxLineLength - 1) raw (handedOn config raw) extra := by
  obtain ⟨extra, hreads⟩ := exists_reads raw
  have hhanded : handedOn config raw =
      String.ofList (Config.takeBytes (textOf raw).toList (config.maxLineLength - 1)) := by
    unfold handedOn
    rw [Config.clamp_eq]
  have hlength : Config.byteLength (textOf raw).toList = raw.length + extra := by
    unfold textOf
    rw [String.toList_ofList, hreads.byteLength_eq]
  refine ⟨extra, hreads, ?_, ?_, ?_, hreads.extra_le⟩
  · rw [hhanded, Config.ofList_takeBytes_eq_iff, hlength]
  · rw [hhanded]
    exact Config.longest_takeBytes _ _
  · rintro written rfl
    exact hreads.extra_eq_zero

/-- **The limit counts the bytes of the decoded line.** For every script and all settings, to run the
script is a conversation over what the limit leaves of its lines. A line is left as a whole exactly if
its bytes, without what ends it, and what replacements take beyond the bytes that they stand for fit
together; else its text is cut behind the last character that fits. Nothing is taken beyond the bytes
of a line that is UTF-8. -/
theorem runScript_measured (shell : Shell) (environment : Environment) (script : Bytes) :
    shell.runScript environment script =
        session shell environment ((rawLines script).map (handedOn shell.config)) ∧
      ∀ raw ∈ rawLines script, ∃ extra,
        Measured (shell.config.maxLineLength - 1) raw (handedOn shell.config raw) extra := by
  constructor
  · have hlines : (lines script).map (Shell.scriptLine shell.config) =
        (rawLines script).map (handedOn shell.config) := by
      unfold rawLines
      rw [List.map_map]
      exact List.map_congr_left fun line _ => scriptLine_eq shell.config line
    unfold Shell.runScript
    rw [runLines_eq_session, hlines]
  · intro raw _
    exact exists_measured shell.config raw

/-- A command, an argument that is no character, and one behind it: nine bytes within a limit of nine.
The text takes eleven, so that the last argument is neither written back nor run. -/
theorem cut_within_limit :
    let shell : Shell := { config := { maxLineLength := 10 }, commands := [] }
    let environment : Environment := { directory := [47], exiting := false }
    let raw : Bytes := [101, 99, 104, 111, 32, 0xFF, 32, 111, 107]
    rawLines (raw ++ [10]) = [raw] ∧ raw.length ≤ shell.config.maxLineLength - 1 ∧
      textOf raw = "echo \uFFFD ok" ∧
      shell.runScript environment (raw ++ [10]) = session shell environment ["echo \uFFFD "] := by
  intro shell environment raw
  have hlines : (lines (raw ++ [10])).map (Shell.scriptLine shell.config) = ["echo \uFFFD "] := by
    cbv
  refine ⟨by cbv, by decide, by cbv, ?_⟩
  unfold Shell.runScript
  rw [runLines_eq_session, hlines]

end LineShell.Limits
