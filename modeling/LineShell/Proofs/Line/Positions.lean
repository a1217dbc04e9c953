import LineShell.Line.Scanner
import LineShell.Proofs.Line.Scan
import LineShell.Shell.Config
import Mathlib.Logic.Relation

/-!
# Where a scanner is in its text

A scanner that counts bytes is at the end of a character after each of its moves, and it comes to an
end, whatever the line is.

* **`isSome_cutAt?_iff`** — a line can be cut at the ends of its characters, and nowhere else;
* **`Passes`** — several moves that lead out of a part of the work, which is left at one place only
  (`Passes.unique`);
* **`passes_reading`** — a stretch is read up to the first character that does not belong to it;
* **`Turn`** — a turn of the loop, which reads the next token (`passes_of_next?`, `Turn.reads`);
* **`exists_turns`** — turn by turn the scanner reads the tokens of its text, and leaves the loop;
* **`exists_move`** — from behind a character there is a move, and it leads behind a character;
* **`scanner_orderly`** — no move fails, each stretch and each turn comes to an end, and in the end
  the tokens of the line have been read.
-/

namespace LineShell.Scanner

open Config Token

variable {text before after front piece rest : List Char} {position : Nat} {c : Char}
  {stretch : Stretch} {station : Station} {token : Token} {tokens : List Token}
  {s t s' : Scanner} {inside wider : Station → Prop}

/-! ## Cuts -/

theorem byteLength_append (front piece : List Char) :
    byteLength (front ++ piece) = byteLength front + byteLength piece := by
  induction front with
  | nil => simp [byteLength]
  | cons c front ih => rw [List.cons_append, byteLength, ih, byteLength, Nat.add_assoc]

theorem byteLength_pos (h : text ≠ []) : 0 < byteLength text := by
  cases text with
  | nil => exact absurd rfl h
  | cons c rest => exact Nat.add_pos_left c.utf8Size_pos _

/-- The bytes that the characters take are those of the string. -/
theorem utf8ByteSize_ofList (text : List Char) :
    (String.ofList text).utf8ByteSize = byteLength text := by
  induction text with
  | nil => rfl
  | cons c rest ih =>
      rw [← List.singleton_append, String.ofList_append, String.utf8ByteSize_append, ih]
      simp [byteLength]

theorem byteLength_toList (line : String) : byteLength line.toList = line.utf8ByteSize := by
  rw [← utf8ByteSize_ofList, String.ofList_toList]

/-- A text can be cut behind any of its characters. -/
theorem cutAt?_append (before after : List Char) :
    cutAt? (before ++ after) (byteLength before) = some (before, after) := by
  induction before with
  | nil => cases after <;> rfl
  | cons c before ih =>
      have hsize := c.utf8Size_pos
      obtain ⟨last, hlast⟩ : ∃ last, byteLength (c :: before) = last + 1 :=
        Nat.exists_eq_add_one.mpr (by rw [byteLength]; omega)
      rw [List.cons_append, hlast, cutAt?, ← hlast, byteLength, if_pos (Nat.le_add_right _ _),
        Nat.add_sub_cancel_left, ih]
      rfl

theorem eq_of_cutAt? (h : cutAt? text position = some (before, after)) :
    text = before ++ after ∧ position = byteLength before := by
  -- character by character: the position is used up by as many bytes as each takes
  induction text generalizing position before with
  | nil =>
      cases position with
      | zero =>
          cases h
          exact ⟨rfl, rfl⟩
      | succ position => cases h
  | cons c rest ih =>
      cases position with
      | zero =>
          cases h
          exact ⟨rfl, rfl⟩
      | succ position =>
          rw [cutAt?] at h
          split at h
          · next hfits =>
            obtain ⟨⟨front, behind⟩, hcut, heq⟩ := Option.map_eq_some_iff.mp h
            cases heq
            obtain ⟨rfl, hfront⟩ := ih hcut
            refine ⟨rfl, ?_⟩
            show position + 1 = c.utf8Size + byteLength front
            omega
          · cases h

/-- **A line can be cut at the ends of its characters**, and nowhere else. -/
theorem isSome_cutAt?_iff (line : String) (position : Nat) :
    (cutAt? line.toList position).isSome = true ↔ (⟨position⟩ : String.Pos.Raw).IsValid line := by
  rw [String.Pos.Raw.isValid_iff_exists_append]
  constructor
  · intro h
    obtain ⟨⟨before, after⟩, hcut⟩ := Option.isSome_iff_exists.mp h
    obtain ⟨htext, hposition⟩ := eq_of_cutAt? hcut
    refine ⟨String.ofList before, String.ofList after, ?_, ?_⟩
    · rw [← String.ofList_append, ← htext, String.ofList_toList]
    · rw [hposition, ← utf8ByteSize_ofList]
      rfl
  · rintro ⟨before, after, rfl, hposition⟩
    have hbytes : position = byteLength before.toList := by
      rw [byteLength_toList]
      exact congrArg String.Pos.Raw.byteIdx hposition
    rw [String.toList_append, hbytes, cutAt?_append]
    rfl

example : cutAt? ['é', '|'] 2 = some (['é'], ['|']) ∧ cutAt? ['é', '|'] 1 = none := by decide

/-! ## A scanner behind some characters -/

/-- A scanner that is between two parts of its text. -/
def standing (before after : List Char) (station : Station) (tokens : List Token) : Scanner where
  text := before ++ after
  position := byteLength before
  station := station
  tokens := tokens

theorem peek?_standing :
    (standing before after station tokens).peek? = some after.head? := by
  unfold peek? standing
  rw [cutAt?_append]
  rfl

/-- What the scanner does with the next character, it does with the one that comes. -/
theorem peek?_bind (next : Option Char → Option Scanner) :
    ((standing before after station tokens).peek? >>= next) = next after.head? := by
  rw [peek?_standing]
  rfl

theorem slice?_standing :
    (standing (front ++ piece) after station tokens).slice? (byteLength front) = some piece := by
  unfold slice? standing
  dsimp only
  rw [cutAt?_append, Option.bind_some, cutAt?_append]
  rfl

theorem advance_standing (next : Station) :
    (standing before (c :: after) station tokens).advance c next =
      standing (before ++ [c]) after next tokens := by
  unfold advance standing
  rw [byteLength_append, List.append_assoc]
  rfl

theorem close_standing : (standing before after station tokens).close stretch piece =
    match stretch.token? piece with
    | none => standing before after .choice tokens
    | some token => standing before after .turn (tokens ++ [token]) := by
  unfold close
  cases stretch.token? piece <;> rfl

/-- A stretch goes on with a character that belongs to it. -/
theorem move_reading_of_holds {start : Nat} (h : stretch.holds c = true) :
    (standing before (c :: after) (.reading stretch start) tokens).move =
      some (standing (before ++ [c]) after (.reading stretch start) tokens) := by
  have hsome : (c :: after).head?.filter stretch.holds = some c := by
    rw [List.head?_cons, Option.filter_some, if_pos h]
  show read? _ stretch start = _
  unfold read?
  rw [peek?_bind, hsome]
  exact congrArg some (advance_standing _)

/-- It ends before any other character, and at the end of the text. -/
theorem move_reading_of_stop (h : ∀ c, after.head? = some c → stretch.holds c = false) :
    (standing (front ++ piece) after (.reading stretch (byteLength front)) tokens).move =
      some ((standing (front ++ piece) after (.reading stretch (byteLength front)) tokens).close
        stretch piece) := by
  have hnone : after.head?.filter stretch.holds = none := by
    cases hhead : after.head? with
    | none => rfl
    | some c => simp [h c hhead]
  show read? _ stretch (byteLength front) = _
  unfold read?
  rw [peek?_bind, hnone, slice?_standing]
  rfl

/-- Behind the blanks, a pipe is a token by itself. -/
theorem move_choice_pipe : (standing before ('|' :: after) .choice tokens).move =
    some (standing (before ++ ['|']) after .turn (tokens ++ [.pipe])) := by
  show choose? _ = _
  unfold choose?
  rw [peek?_bind]
  exact congrArg (fun s : Scanner => some (s.push .pipe)) (advance_standing _)

/-- A `>` begins an operator. -/
theorem move_choice_operator : (standing before ('>' :: after) .choice tokens).move =
    some (standing (before ++ ['>']) after .operator tokens) := by
  show choose? _ = _
  unfold choose?
  rw [peek?_bind]
  exact congrArg some (advance_standing _)

/-- Anything else begins a word. -/
theorem move_choice_word (h : isOperator c = false) :
    (standing before (c :: after) .choice tokens).move =
      some (standing before (c :: after) (.reading .word (byteLength before)) tokens) := by
  show choose? _ = _
  unfold choose?
  rw [peek?_bind]
  split <;> simp_all [isOperator, standing]

/-- At the end of the text, the loop is left. -/
theorem move_choice_nil : (standing before [] .choice tokens).move =
    some (standing before [] .finished tokens) := by
  show choose? _ = _
  unfold choose?
  rw [peek?_bind]
  rfl

/-- A second `>` belongs to the operator. -/
theorem move_operator_append : (standing before ('>' :: after) .operator tokens).move =
    some (standing (before ++ ['>']) after
      (.reading (.target .append) (byteLength (before ++ ['>']))) tokens) := by
  show double? _ = _
  unfold double?
  rw [peek?_bind, byteLength_append]
  exact congrArg some (advance_standing _)

/-- Anything else is left to the target. -/
theorem move_operator_truncate (h : after.head? ≠ some '>') :
    (standing before after .operator tokens).move =
      some (standing before after (.reading (.target .truncate) (byteLength before)) tokens) := by
  show double? _ = _
  unfold double?
  rw [peek?_bind]
  split
  · next heq => exact absurd heq h
  · rfl

/-! ## Several moves -/

/-- One or more moves lead from a scanner to another one, and in between the scanner is where it has
to be. -/
inductive Passes (inside : Station → Prop) : Scanner → Scanner → Prop
  | one {s s' : Scanner} : s.move = some s' → Passes inside s s'
  | more {s t s' : Scanner} :
      s.move = some t → inside t.station → Passes inside t s' → Passes inside s s'

theorem Passes.trans (h : Passes inside s t) (ht : inside t.station) (hlater : Passes inside t s') :
    Passes inside s s' := by
  induction h with
  | one hmove => exact .more hmove ht hlater
  | more hmove hinside _ ih => exact .more hmove hinside (ih ht hlater)

theorem Passes.mono (h : Passes inside s s') (hwider : ∀ station, inside station → wider station) :
    Passes wider s s' := by
  induction h with
  | one hmove => exact .one hmove
  | more hmove hinside _ ih => exact .more hmove (hwider _ hinside) ih

/-- There is one place only at which the scanner leaves off. -/
theorem Passes.unique (h : Passes inside s t) (hother : Passes inside s s') (ht : ¬inside t.station)
    (hs' : ¬inside s'.station) : t = s' := by
  induction h with
  | one hmove =>
      cases hother with
      | one hmove' => exact Option.some.inj (hmove.symm.trans hmove')
      | more hmove' hinside _ =>
          cases hmove.symm.trans hmove'
          exact absurd hinside ht
  | more hmove hinside _ ih =>
      cases hother with
      | one hmove' =>
          cases hmove.symm.trans hmove'
          exact absurd hinside hs'
      | more hmove' _ hlater =>
          cases hmove.symm.trans hmove'
          exact ih hlater ht

/-- **A stretch is read up to the first character that does not belong to it.** -/
theorem passes_reading (stretch : Stretch) (front piece after : List Char) (tokens : List Token) :
    Passes (· = .reading stretch (byteLength front))
      (standing (front ++ piece) after (.reading stretch (byteLength front)) tokens)
      ((standing (front ++ (piece ++ after.takeWhile stretch.holds)) (after.dropWhile stretch.holds)
        (.reading stretch (byteLength front)) tokens).close stretch
          (piece ++ after.takeWhile stretch.holds)) := by
  -- on what comes next; what has been read of the stretch so far grows meanwhile
  induction after generalizing piece with
  | nil =>
      rw [List.takeWhile_nil, List.dropWhile_nil, List.append_nil]
      exact .one (move_reading_of_stop (by simp))
  | cons c after ih =>
      cases hc : stretch.holds c with
      | true =>
          have hlater := ih (piece ++ [c])
          rw [← List.append_assoc, List.append_assoc piece, List.singleton_append] at hlater
          rw [List.takeWhile_cons_of_pos hc, List.dropWhile_cons_of_pos hc]
          exact .more (move_reading_of_holds hc) rfl hlater
      | false =>
          have hstop : ∀ d, (c :: after).head? = some d → stretch.holds d = false := by
            intro d hd
            cases hd
            exact hc
          have hnot : ¬stretch.holds c = true := by simp [hc]
          rw [List.takeWhile_cons_of_neg hnot, List.dropWhile_cons_of_neg hnot, List.append_nil]
          exact .one (move_reading_of_stop hstop)

/-! ## Turns -/

/-- The scanner is within a turn of its loop. -/
def Underway (station : Station) : Prop := station ≠ .turn ∧ station ≠ .finished

theorem underway_reading {start : Nat} : Underway (.reading stretch start) := ⟨nofun, nofun⟩

/-- A turn of the loop leads to the next one. -/
structure Turn (s s' : Scanner) : Prop where
  begins : s.station = .turn
  passes : Passes Underway s s'
  ends : s'.station = .turn

/-- So many turns of the loop. -/
inductive Turns : Nat → Scanner → Scanner → Prop
  | none {s : Scanner} : Turns 0 s s
  | more {count : Nat} {s t s' : Scanner} : Turn s t → Turns count t s' → Turns (count + 1) s s'

/-- A scanner comes to the end of the blanks. -/
theorem passes_blanks (before after : List Char) (tokens : List Token) :
    Passes Underway (standing before after .turn tokens)
      (standing (before ++ after.takeWhile Text.isBlank) (after.dropWhile Text.isBlank) .choice
        tokens) := by
  have hread := passes_reading .blanks before [] after tokens
  rw [List.append_nil] at hread
  exact .more rfl underway_reading (hread.mono fun station h => h ▸ underway_reading)

/-- A stretch that becomes a token ends the turn. -/
theorem passes_stretch (stretch : Stretch) (before after : List Char) (tokens : List Token)
    (htoken : stretch.token? (after.takeWhile stretch.holds) = some token) :
    Passes Underway (standing before after (.reading stretch (byteLength before)) tokens)
      (standing (before ++ after.takeWhile stretch.holds) (after.dropWhile stretch.holds) .turn
        (tokens ++ [token])) := by
  have hread := passes_reading stretch before [] after tokens
  rw [List.append_nil, List.nil_append, close_standing, htoken] at hread
  exact hread.mono fun station h => h ▸ underway_reading

/-- A redirection is read with its operator and its target. -/
theorem passes_redirection {mode : WriteMode}
    (hlongest : mode = .truncate → after.head? ≠ some '>') (before : List Char)
    (tokens : List Token) :
    Passes Underway (standing before (mode.operator.toList ++ after) .choice tokens)
      (standing (before ++ mode.operator.toList ++ after.takeWhile isTargetChar)
        (redirection mode after).2 .turn (tokens ++ [(redirection mode after).1])) := by
  cases mode with
  | truncate =>
      refine .more move_choice_operator ⟨nofun, nofun⟩ ?_
      refine .more (move_operator_truncate (hlongest rfl)) underway_reading ?_
      exact passes_stretch (.target .truncate) (before ++ ['>']) after tokens rfl
  | append =>
      have hoperator : before ++ WriteMode.append.operator.toList = before ++ ['>'] ++ ['>'] :=
        (List.append_assoc before ['>'] ['>']).symm
      rw [hoperator]
      refine .more move_choice_operator ⟨nofun, nofun⟩ ?_
      refine .more move_operator_append underway_reading ?_
      exact passes_stretch (.target .append) (before ++ ['>'] ++ ['>']) after tokens rfl

/-- From behind the blanks, the next token is read. -/
theorem passes_of_first? (h : first? text = some (token, rest))
    (hblank : ∀ c, text.head? = some c → Text.isBlank c = false) (before : List Char)
    (tokens : List Token) :
    ∃ read, read ≠ [] ∧ text = read ++ rest ∧
      Passes Underway (standing before text .choice tokens)
        (standing (before ++ read) rest .turn (tokens ++ [token])) := by
  cases text with
  | nil => cases h
  | cons c more =>
      -- which token it is shows at its first character, and at a second `>`
      rcases begins c more with rfl | ⟨mode, named, heq, hlongest⟩ | hc
      · cases (first?_pipe more).symm.trans h
        exact ⟨['|'], List.cons_ne_nil _ _, rfl, .one move_choice_pipe⟩
      · rw [heq] at h ⊢
        cases (first?_redirection hlongest).symm.trans h
        have hread := passes_redirection hlongest before tokens
        rw [List.append_assoc before] at hread
        refine ⟨mode.operator.toList ++ named.takeWhile isTargetChar, ?_, ?_, hread⟩
        · cases mode <;> exact List.cons_ne_nil _ _
        · rw [List.append_assoc, List.takeWhile_append_dropWhile]
      · cases (first?_word more hc).symm.trans h
        have hword : isWordChar c = true := by
          simp [isWordChar, hblank c rfl, hc]
        have hread := passes_stretch .word before (c :: more) tokens rfl
        rw [show Stretch.word.holds = isWordChar from rfl, List.takeWhile_cons_of_pos hword,
          List.dropWhile_cons_of_pos hword] at hread
        refine ⟨c :: more.takeWhile isWordChar, List.cons_ne_nil _ _, ?_,
          .more (move_choice_word hc) underway_reading hread⟩
        rw [List.cons_append, List.takeWhile_append_dropWhile]

/-- **A turn reads the next token**, and with it one character at least. -/
theorem passes_of_next? (h : next? after = some (token, rest)) (before : List Char)
    (tokens : List Token) :
    ∃ read, read ≠ [] ∧ after = read ++ rest ∧
      Passes Underway (standing before after .turn tokens)
        (standing (before ++ read) rest .turn (tokens ++ [token])) := by
  -- behind the blanks comes no other one, so a word has a first character
  have hblank : ∀ c, (after.dropWhile Text.isBlank).head? = some c → Text.isBlank c = false := by
    intro c hc
    have hnot := List.head?_dropWhile_not Text.isBlank after
    rw [hc] at hnot
    simpa using hnot
  obtain ⟨read, hread, hdropped, hpasses⟩ :=
    passes_of_first? h hblank (before ++ after.takeWhile Text.isBlank) tokens
  refine ⟨after.takeWhile Text.isBlank ++ read, ?_, ?_, ?_⟩
  · exact List.append_ne_nil_of_right_ne_nil _ hread
  · rw [List.append_assoc, ← hdropped, List.takeWhile_append_dropWhile]
  · rw [← List.append_assoc]
    exact (passes_blanks before after tokens).trans ⟨nofun, nofun⟩ hpasses

/-- The turn that finds no token is the last one. -/
theorem passes_of_next?_none (h : next? after = none) (before : List Char) (tokens : List Token) :
    Passes Underway (standing before after .turn tokens)
      (standing (before ++ after) [] .finished tokens) := by
  have hblanks := passes_blanks before after tokens
  have hdropped := next?_eq_none_iff.mp h
  have htaken : after.takeWhile Text.isBlank = after := by
    have hall := List.takeWhile_append_dropWhile (p := Text.isBlank) (l := after)
    rwa [hdropped, List.append_nil] at hall
  rw [hdropped, htaken] at hblanks
  exact hblanks.trans ⟨nofun, nofun⟩ (.one move_choice_nil)

/-- A turn that does not leave the loop has read a token. -/
theorem Turn.reads (h : Turn (standing before after .turn tokens) s') :
    ∃ read rest token, after = read ++ rest ∧ read ≠ [] ∧
      s' = standing (before ++ read) rest .turn (tokens ++ [token]) := by
  -- what the next token makes of the turn is the only way that it can go
  have hturn : ¬Underway s'.station := fun hunderway => hunderway.1 h.ends
  cases hnext : next? after with
  | none =>
      have heq := h.passes.unique (passes_of_next?_none hnext before tokens) hturn fun hunderway =>
        hunderway.2 rfl
      rw [heq] at h
      cases h.ends
  | some found =>
      obtain ⟨token, rest⟩ := found
      obtain ⟨read, hread, hafter, hpasses⟩ := passes_of_next? hnext before tokens
      exact ⟨read, rest, token, hafter, hread, h.passes.unique hpasses hturn fun hunderway =>
        hunderway.1 rfl⟩

/-- **There are no more turns than characters**, and there is a token for each turn. -/
theorem Turns.reads {count : Nat} (h : Turns count s s')
    (hs : s = standing before after .turn tokens) :
    ∃ read rest found, after = read ++ rest ∧ count ≤ read.length ∧ found.length = count ∧
      s' = standing (before ++ read) rest .turn (tokens ++ found) := by
  induction h generalizing before after tokens with
  | none => exact ⟨[], after, [], rfl, Nat.le_refl 0, rfl, by simpa using hs⟩
  | more hturn _ ih =>
      subst hs
      obtain ⟨read, rest, token, rfl, hread, ht⟩ := hturn.reads
      obtain ⟨later, rest, found, rfl, hcount, hfound, hlast⟩ := ih ht
      have hlength := List.length_pos_iff.mpr hread
      refine ⟨read ++ later, rest, token :: found, (List.append_assoc ..).symm, ?_, ?_, ?_⟩
      · rw [List.length_append]
        omega
      · rw [List.length_cons, hfound]
      · rw [hlast, ← List.append_assoc, List.append_assoc tokens, List.singleton_append]

/-- **The loop is left**, and then the tokens of the text have been read. -/
theorem exists_turns (before after : List Char) (tokens : List Token) :
    ∃ last, Turns (scan after).length (standing before after .turn tokens) last ∧
      Passes Underway last
        (standing (before ++ after) [] .finished (tokens ++ scan after)) := by
  -- one turn for each token, as the text is scanned
  induction after using scan.induct generalizing before tokens with
  | case1 after hnext =>
      rw [scan_of_next?_eq_none hnext, List.append_nil]
      exact ⟨_, .none, passes_of_next?_none hnext before tokens⟩
  | case2 after token rest hnext ih =>
      obtain ⟨read, -, rfl, hpasses⟩ := passes_of_next? hnext before tokens
      obtain ⟨last, hturns, hlast⟩ := ih (before ++ read) (tokens ++ [token])
      rw [List.append_assoc, List.append_assoc, List.singleton_append] at hlast
      rw [scan_of_next? hnext]
      exact ⟨last, .more ⟨rfl, hpasses, rfl⟩ hturns, hlast⟩

/-! ## Every state -/

/-- A stretch that is being read has begun behind some of the characters that have been read. -/
def Begun (before : List Char) : Station → Prop
  | .reading _ start => ∃ front piece, before = front ++ piece ∧ start = byteLength front
  | _ => True

/-- The scanner is behind some characters of a text. -/
inductive Placed (text : List Char) : Scanner → Prop
  | behind {before after : List Char} {station : Station} {tokens : List Token} :
      text = before ++ after → Begun before station →
      Placed text (standing before after station tokens)

theorem placed_close (htext : text = before ++ after) :
    Placed text ((standing before after station tokens).close stretch piece) := by
  rw [close_standing]
  cases stretch.token? piece <;> exact .behind htext trivial

theorem placed_reading (htext : text = before ++ after) :
    Placed text (standing before after (.reading stretch (byteLength before)) tokens) :=
  .behind htext ⟨before, [], (List.append_nil before).symm, rfl⟩

/-- **There is a move from behind a character, and it leads behind a character.** -/
theorem exists_move (h : Placed text s) : ∃ s', s.move = some s' ∧ Placed text s' := by
  obtain @⟨before, after, station, tokens, htext, hbegun⟩ := h
  cases station with
  | turn => exact ⟨_, rfl, placed_reading htext⟩
  | reading stretch start =>
      obtain ⟨front, piece, rfl, rfl⟩ := hbegun
      by_cases hmore : ∃ c rest, after = c :: rest ∧ stretch.holds c = true
      · -- what has been read of the stretch is longer by a character
        obtain ⟨c, rest, rfl, hholds⟩ := hmore
        refine ⟨_, move_reading_of_holds hholds, .behind ?_ ?_⟩
        · rw [htext, List.append_cons]
        · exact ⟨front, piece ++ [c], List.append_assoc .., rfl⟩
      · refine ⟨_, move_reading_of_stop ?_, placed_close htext⟩
        intro c hhead
        obtain ⟨rest, rfl⟩ := List.head?_eq_some_iff.mp hhead
        exact Bool.eq_false_iff.mpr fun hholds => hmore ⟨c, rest, rfl, hholds⟩
  | choice =>
      cases after with
      | nil => exact ⟨_, move_choice_nil, .behind htext trivial⟩
      | cons c rest =>
          have hbehind : text = before ++ [c] ++ rest := htext.trans (List.append_cons ..)
          by_cases hpipe : c = '|'
          · subst hpipe
            exact ⟨_, move_choice_pipe, .behind hbehind trivial⟩
          · by_cases hgreater : c = '>'
            · subst hgreater
              exact ⟨_, move_choice_operator, .behind hbehind trivial⟩
            · have hword : isOperator c = false := by simp [isOperator, hpipe, hgreater]
              exact ⟨_, move_choice_word hword, placed_reading htext⟩
  | operator =>
      by_cases hdouble : after.head? = some '>'
      · obtain ⟨rest, rfl⟩ := List.head?_eq_some_iff.mp hdouble
        exact ⟨_, move_operator_append, placed_reading (htext.trans (List.append_cons ..))⟩
      · exact ⟨_, move_operator_truncate hdouble, placed_reading htext⟩
  | finished => exact ⟨_, rfl, .behind htext trivial⟩

/-- The states that a scanner may come to. -/
abbrev Reaches : Scanner → Scanner → Prop :=
  Relation.ReflTransGen fun s s' => s.move = some s'

/-- Wherever a scanner comes to, it is behind some characters of its line. -/
theorem placed_of_reaches {line : String} (h : Reaches (ofLine line) s) :
    Placed line.toList s := by
  induction h with
  | refl => exact .behind (List.nil_append line.toList).symm trivial
  | tail _ hmove ih =>
      -- the move that there is from behind a character is the one that was made
      obtain ⟨t, ht, hplaced⟩ := exists_move ih
      cases ht.symm.trans hmove
      exact hplaced

/-- How a line is scanned. -/
structure Orderly (line : String) : Prop where
  /-- The position is always within the line and at the end of a character, and what comes next can
  be done. -/
  safe : ∀ s, Reaches (ofLine line) s →
    s.position ≤ line.utf8ByteSize ∧ (⟨s.position⟩ : String.Pos.Raw).IsValid line ∧
      ∃ s', s.move = some s'
  /-- What has been read of a stretch can be cut out at any time. -/
  sliced : ∀ s stretch start, Reaches (ofLine line) s → s.station = .reading stretch start →
    ∃ piece, s.slice? start = some piece
  /-- Each stretch comes to an end. -/
  stretches : ∀ s stretch start, Reaches (ofLine line) s → s.station = .reading stretch start →
    ∃ s', Passes (· = .reading stretch start) s s' ∧ s'.station ≠ .reading stretch start
  /-- Each turn that does not leave the loop reads a byte or more, and adds one token. -/
  turns : ∀ s s', Reaches (ofLine line) s → Turn s s' →
    s.position < s'.position ∧ ∃ token, s'.tokens = s.tokens ++ [token]
  /-- There are no more such turns than characters. -/
  bounded : ∀ count s, Turns count (ofLine line) s → count ≤ line.length ∧ s.tokens.length = count
  /-- Then the loop is left, with the tokens of the line. -/
  ends : ∃ count last s, Turns count (ofLine line) last ∧ Passes Underway last s ∧
    s.station = .finished ∧ s.tokens = Token.ofLine line

/-- **Every line is scanned in order**, whatever characters it is made of. -/
theorem scanner_orderly (line : String) : Orderly line where
  safe s hs := by
    have hplaced := placed_of_reaches hs
    obtain ⟨s', hmove, -⟩ := exists_move hplaced
    obtain @⟨before, after, station, tokens, htext, -⟩ := hplaced
    have hvalid : (⟨byteLength before⟩ : String.Pos.Raw).IsValid line := by
      rw [← isSome_cutAt?_iff, htext, cutAt?_append]
      rfl
    exact ⟨hvalid.le_rawEndPos, hvalid, s', hmove⟩
  sliced s stretch start hs hstation := by
    obtain @⟨before, after, station, tokens, -, hbegun⟩ := placed_of_reaches hs
    obtain rfl : station = .reading stretch start := hstation
    obtain ⟨front, piece, rfl, rfl⟩ := hbegun
    exact ⟨piece, slice?_standing⟩
  stretches s stretch start hs hstation := by
    obtain @⟨before, after, station, tokens, -, hbegun⟩ := placed_of_reaches hs
    obtain rfl : station = .reading stretch start := hstation
    obtain ⟨front, piece, rfl, rfl⟩ := hbegun
    refine ⟨_, passes_reading stretch front piece after tokens, ?_⟩
    rw [close_standing]
    split <;> exact nofun
  turns s s' hs hturn := by
    obtain @⟨before, after, station, tokens, -, -⟩ := placed_of_reaches hs
    obtain rfl : station = .turn := hturn.begins
    obtain ⟨read, rest, token, -, hread, rfl⟩ := hturn.reads
    refine ⟨?_, token, rfl⟩
    show byteLength before < byteLength (before ++ read)
    rw [byteLength_append]
    exact Nat.lt_add_of_pos_right (byteLength_pos hread)
  bounded count s hturns := by
    have hbegin : ofLine line = standing [] line.toList .turn [] := rfl
    obtain ⟨read, rest, found, htext, hcount, hfound, rfl⟩ := hturns.reads hbegin
    have hlength := congrArg List.length htext
    rw [List.length_append, String.length_toList] at hlength
    exact ⟨by omega, hfound⟩
  ends := by
    obtain ⟨last, hturns, hlast⟩ := exists_turns [] line.toList []
    exact ⟨_, last, _, hturns, hlast, rfl, rfl⟩

end LineShell.Scanner
