import LineShell.Proofs.Line.Encoding
import LineShell.Shell.Report
import Mathlib.Data.List.DropRight

/-!
# Completion lines are read back

The text of a command stands in a completion line as it is, between two apostrophes, and may hold
anything, also what looks like the end of such a line. The codes behind it hold no apostrophe, so that
the last one ends the command.

* **`Report.read?`** — reads a report off its text;
* **`codes?_brackets`** — codes in brackets are read back, and none of their signs is an apostrophe;
* **`render_unambiguous`** — every report is read back, and no two reports look alike.
-/

namespace LineShell.Report

open Text

/-! ## The reader -/

/-- The sign on both sides of a command. -/
def apostrophe : Char := '\x27'

/-- What a report begins with. -/
def opening : List Char := "+ completed '".toList

/-- A number without a sign, from its decimal digits. -/
def natural? (digits : List Char) : Option Nat :=
  if digits ≠ [] ∧ digits.all Char.isDigit = true then some (Nat.ofDigitChars 10 digits 0) else none

/-- A code, from its decimal digits and the minus sign before them, if there is one. -/
def code? : List Char → Option Int
  | '-' :: digits => (natural? digits).map fun value : Nat => -Int.ofNat value
  | digits => (natural? digits).map Int.ofNat

/-- A code behind the bracket that opens. -/
def bracketed? : List Char → Option Int
  | '[' :: digits => code? digits
  | _ => none

/-- Codes, each of them in brackets. -/
def codes? (text : List Char) : Option (List Int) :=
  let pieces := text.splitOn ']'
  if pieces.getLast? = some [] then pieces.dropLast.mapM bracketed? else none

/-- The report that a text stands for: what is behind its last apostrophe and a space are the codes,
and what is between its beginning and that apostrophe is the command. -/
def read? (text : List Char) : Option Report :=
  match opening.isPrefixOf? text with
  | none => none
  | some rest =>
      let command := rest.rdropWhile (· != apostrophe)
      match rest.rtakeWhile (· != apostrophe) with
      | ' ' :: codes =>
          if command = [] then none
          else (codes? codes).map fun codes => ⟨String.ofList command.dropLast, codes⟩
      | _ => none

/-- The report that the bytes of a line stand for. -/
def heard? (bytes : Bytes) : Option Report :=
  let text := decode bytes
  if text.getLast? = some '\n' then read? text.dropLast else none

/-! ## Codes -/

theorem natural?_toDigits (value : Nat) : natural? (Nat.toDigits 10 value) = some value := by
  unfold natural?
  have hdigits : (Nat.toDigits 10 value).all Char.isDigit = true := by
    rw [List.all_eq_true]
    intro digit hdigit
    exact Nat.isDigit_of_mem_toDigits (by decide) (by decide) hdigit
  rw [if_pos ⟨Nat.toDigits_ne_nil, hdigits⟩, Nat.ofDigitChars_ten_toDigits]

/-- The spelling of a code: its digits, behind a minus sign if it is negative. -/
theorem toList_toString (code : Int) : (toString code).toList =
    if 0 ≤ code then Nat.toDigits 10 code.toNat else '-' :: Nat.toDigits 10 (-code).toNat := by
  show code.repr.toList = _
  rw [Int.repr_eq_if]
  split
  · rw [Nat.repr_eq_ofList_toDigits, String.toList_ofList]
  · rw [Nat.repr_eq_ofList_toDigits, String.toList_append]
    simp

/-- A code is spelled with digits and a minus sign. -/
theorem mem_toString {code : Int} {c : Char} (h : c ∈ (toString code).toList) :
    c.isDigit = true ∨ c = '-' := by
  have hdigit : ∀ {value : Nat}, c ∈ Nat.toDigits 10 value → c.isDigit = true :=
    Nat.isDigit_of_mem_toDigits (by decide) (by decide)
  rw [toList_toString] at h
  split at h
  · exact .inl (hdigit h)
  · rcases List.mem_cons.mp h with rfl | hmem
    · exact .inr rfl
    · exact .inl (hdigit hmem)

theorem code?_toString (code : Int) : code? (toString code).toList = some code := by
  rw [toList_toString]
  split
  · next hpositive =>
    have hread : natural? (Nat.toDigits 10 code.toNat) = some code.toNat := natural?_toDigits _
    have hvalue : Int.ofNat code.toNat = code := Int.toNat_of_nonneg hpositive
    unfold code?
    split
    · -- no digit is a minus sign
      next digits heq =>
      have hdigit := Nat.isDigit_of_mem_toDigits (b := 10) (n := code.toNat) (by decide) (by decide)
        (heq ▸ List.mem_cons_self : '-' ∈ Nat.toDigits 10 code.toNat)
      exact absurd hdigit (by decide)
    · rw [hread, Option.map_some, hvalue]
  · next hnegative =>
    have hvalue : -Int.ofNat (-code).toNat = code := by
      rw [Int.ofNat_eq_natCast]
      omega
    rw [code?, natural?_toDigits, Option.map_some, hvalue]

/-- One code in brackets comes before those of the rest. -/
theorem toList_brackets_cons (code : Int) (codes : List Int) :
    (brackets (code :: codes)).toList =
      ('[' :: (toString code).toList) ++ ']' :: (brackets codes).toList := by
  unfold brackets
  rw [List.map_cons, String.join_cons, String.toList_append, String.toList_append,
    String.toList_append]
  simp

/-- Codes in brackets are digits, minus signs and brackets. -/
theorem apostrophe_notMem_brackets (codes : List Int) : apostrophe ∉ (brackets codes).toList := by
  induction codes with
  | nil => exact List.not_mem_nil
  | cons code codes ih =>
      rw [toList_brackets_cons]
      intro hmem
      rcases List.mem_append.mp hmem with hfront | hback
      · rcases List.mem_cons.mp hfront with hopen | hcode
        · exact absurd hopen (by decide)
        · rcases mem_toString hcode with hdigit | hminus
          · exact absurd hdigit (by decide)
          · exact absurd hminus (by decide)
      · rcases List.mem_cons.mp hback with hclose | hrest
        · exact absurd hclose (by decide)
        · exact ih hrest

/-- The bracket that closes a code is the first one behind it. -/
theorem splitOn_brackets (codes : List Int) : (brackets codes).toList.splitOn ']' =
    codes.map (fun code => '[' :: (toString code).toList) ++ [[]] := by
  induction codes with
  | nil => rfl
  | cons code codes ih =>
      have hclose : ']' ∉ '[' :: (toString code).toList := by
        intro hmem
        rcases List.mem_cons.mp hmem with hopen | hcode
        · exact absurd hopen (by decide)
        · rcases mem_toString hcode with hdigit | hminus
          · exact absurd hdigit (by decide)
          · exact absurd hminus (by decide)
      rw [toList_brackets_cons, List.splitOn_append_cons_self_of_not_mem hclose, ih]
      rfl

/-- **Codes in brackets are read back**, however many of them there are. -/
theorem codes?_brackets (codes : List Int) : codes? (brackets codes).toList = some codes := by
  unfold codes?
  rw [splitOn_brackets]
  simp only [List.getLast?_concat, List.dropLast_concat, if_true]
  induction codes with
  | nil => rfl
  | cons code codes ih =>
      have hcode : bracketed? ('[' :: (toString code).toList) = some code := code?_toString code
      rw [List.map_cons, List.mapM_cons, hcode, ih]
      rfl

/-! ## Reports -/

theorem toList_render (report : Report) : report.render.toList =
    opening ++ (report.command.toList ++ [apostrophe] ++ ' ' :: (brackets report.codes).toList) := by
  unfold render
  simp only [String.toList_append, List.append_assoc]
  rfl

/-- The last apostrophe of a text is where nothing behind it is one. -/
theorem last_apostrophe {behind : List Char} (h : apostrophe ∉ behind) (front : List Char) :
    (front ++ [apostrophe] ++ behind).rdropWhile (· != apostrophe) = front ++ [apostrophe] ∧
      (front ++ [apostrophe] ++ behind).rtakeWhile (· != apostrophe) = behind := by
  induction behind using List.reverseRecOn with
  | nil =>
      rw [List.append_nil, List.rdropWhile_concat_neg _ _ _ (by simp),
        List.rtakeWhile_concat_neg _ _ _ (by simp)]
      exact ⟨rfl, rfl⟩
  | append_singleton behind c ih =>
      rw [List.mem_append, not_or] at h
      have hc : (c != apostrophe) = true := by
        rw [bne_iff_ne]
        exact fun heq => h.2 (heq ▸ List.mem_singleton_self c)
      rw [← List.append_assoc, List.rdropWhile_concat_pos (· != apostrophe) _ _ hc,
        List.rtakeWhile_concat_pos (· != apostrophe) _ _ hc, (ih h.1).1, (ih h.1).2]
      exact ⟨rfl, rfl⟩

/-- A report is read off its text, whatever its command holds. -/
theorem read?_render (report : Report) : read? report.render.toList = some report := by
  have hbehind : apostrophe ∉ ' ' :: (brackets report.codes).toList := by
    intro hmem
    rcases List.mem_cons.mp hmem with hspace | hcodes
    · exact absurd hspace (by decide)
    · exact apostrophe_notMem_brackets report.codes hcodes
  have hopening := List.isPrefixOf?_eq_some_iff_append_eq.mpr (toList_render report).symm
  obtain ⟨hcommand, hcodes⟩ := last_apostrophe hbehind report.command.toList
  unfold read?
  rw [hopening]
  simp only [hcommand, hcodes]
  rw [if_neg (by simp), codes?_brackets, List.dropLast_concat, String.ofList_toList]
  rfl

theorem heard?_emitted (report : Report) : heard? (bytesOf report.emitted) = some report := by
  unfold heard? bytesOf emitted
  rw [decode_encode, String.toList_append]
  show (if (report.render.toList ++ ['\n']).getLast? = some '\n' then
    read? (report.render.toList ++ ['\n']).dropLast else none) = some report
  rw [List.getLast?_concat, if_pos rfl, List.dropLast_concat, read?_render]

/-- **Completion lines are unambiguous.** A report is read off its text, and off the bytes of its
line, whatever the command is and however many codes there are, of any size and sign; so two reports
have the same text, or the same line, only if they have the same command and the same codes. -/
theorem render_unambiguous (report other : Report) :
    read? report.render.toList = some report ∧
    heard? (bytesOf report.emitted) = some report ∧
    (report.render = other.render ↔ report.command = other.command ∧ report.codes = other.codes) ∧
    (bytesOf report.emitted = bytesOf other.emitted ↔
      report.command = other.command ∧ report.codes = other.codes) := by
  have hsame : report.command = other.command ∧ report.codes = other.codes → report = other := by
    rintro ⟨hcommand, hcodes⟩
    cases report
    cases other
    exact congrArg₂ Report.mk hcommand hcodes
  refine ⟨read?_render report, heard?_emitted report, ⟨fun h => ?_, fun h => ?_⟩,
    fun h => ?_, fun h => ?_⟩
  · have hread := read?_render report
    rw [h, read?_render] at hread
    cases hread
    exact ⟨rfl, rfl⟩
  · rw [hsame h]
  · have hheard := heard?_emitted report
    rw [h, heard?_emitted] at hheard
    cases hheard
    exact ⟨rfl, rfl⟩
  · rw [hsame h]

/-- A command that looks like the end of a completion line is still the whole command. -/
example : read? "+ completed 'echo ' [0]' [-1][2147483647]".toList =
    some ⟨"echo ' [0]", [-1, 2147483647]⟩ := by cbv

end LineShell.Report
