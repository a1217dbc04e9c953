import LineShell.Proofs.Line.Clamping
import LineShell.Proofs.Line.RawText
import Mathlib.Data.List.Chain

/-!
# Tokens and the texts that spell them

Which lists of tokens come out of the scanner, and what of a text can be seen on its tokens.

* **`Canonical`** — the lists that the scanner can give; a list that it gives is one
  (`canonical_scan`);
* **`nonblank_scan`** — but for blanks, the tokens hold the characters of the text, in their
  order;
* **`scan_spell`** — a canonical list that is spelt out is scanned into itself;
* **`ofLine_spells`** — these together: the image of the scanner, its round trip, and what it
  conserves;
* **`ofLine_append_pipe`** — a line that is cut at a pipe is scanned in two parts.
-/

namespace LineShell.Token

open Text RawText

/-! ## Spelling -/

/-- The text of a token. -/
def spelling : Token → String
  | .word text => text
  | .pipe => "|"
  | .redirect mode target => mode.operator ++ " " ++ target

/-- The texts of some tokens, with single blanks between them. -/
def spell (tokens : List Token) : String := " ".intercalate (tokens.map spelling)

/-- The texts of some tokens with nothing between them. -/
def letters (tokens : List Token) : List Char := tokens.flatMap fun token => token.spelling.toList

/-- The characters of a text that are no blanks. -/
def nonblank (text : List Char) : List Char := text.filter fun c => !isBlank c

/-- A text that does not begin or end with a blank. -/
structure Bare (text : List Char) : Prop where
  front : ∀ c, text.head? = some c → isBlank c = false
  back : ∀ c, text.getLast? = some c → isBlank c = false

/-- A word is not empty and holds no blank and no operator; a target holds no operator, and no blank
at its ends. -/
def IsCanonical : Token → Prop
  | .word text => text ≠ "" ∧ ∀ c ∈ text.toList, isBlank c = false ∧ c ≠ '|' ∧ c ≠ '>'
  | .pipe => True
  | .redirect _ target => (∀ c ∈ target.toList, c ≠ '|' ∧ c ≠ '>') ∧ Bare target.toList

/-- Every token is canonical, and no word stands right behind a redirection. -/
structure Canonical (tokens : List Token) : Prop where
  each : ∀ token ∈ tokens, token.IsCanonical
  apart : tokens.IsChain fun token next => token.isRedirect = true → next.isWord = false

variable {text rest more : List Char} {token : Token} {tokens : List Token} {c : Char}

theorem isOperator_eq_false_iff : isOperator c = false ↔ c ≠ '|' ∧ c ≠ '>' := by
  simp [isOperator]

theorem isWordChar_iff : isWordChar c = true ↔ isBlank c = false ∧ c ≠ '|' ∧ c ≠ '>' := by
  rw [← isOperator_eq_false_iff]
  simp [isWordChar]

theorem isTargetChar_iff : isTargetChar c = true ↔ c ≠ '|' ∧ c ≠ '>' := by
  rw [← isOperator_eq_false_iff]
  simp [isTargetChar]

/-! ## Blanks -/

theorem nonblank_append (front behind : List Char) :
    nonblank (front ++ behind) = nonblank front ++ nonblank behind := List.filter_append ..

theorem nonblank_of_blank (h : Blank text) : nonblank text = [] :=
  List.filter_eq_nil_iff.mpr fun c hc => by simp [h c hc]

theorem nonblank_dropWhile (text : List Char) : nonblank (text.dropWhile isBlank) = nonblank text := by
  conv_rhs => rw [← List.takeWhile_append_dropWhile (p := isBlank) (l := text)]
  rw [nonblank_append, nonblank_of_blank fun c hc => List.mem_takeWhile_imp hc, List.nil_append]

/-- Only blanks are lost at the ends. -/
theorem nonblank_trim (text : List Char) : nonblank (trim text) = nonblank text := by
  have hright : ∀ text, nonblank (trimRight text) = nonblank text := by
    intro text
    unfold trimRight
    have hreverse : ∀ text : List Char, nonblank text.reverse = (nonblank text).reverse :=
      fun _ => List.filter_reverse
    rw [hreverse, nonblank_dropWhile, hreverse, List.reverse_reverse]
  exact (hright _).trans (nonblank_dropWhile text)

theorem head?_dropWhile_isBlank (h : (text.dropWhile isBlank).head? = some c) :
    isBlank c = false := by
  have hstop := List.head?_dropWhile_not isBlank text
  rw [h] at hstop
  simpa using hstop

/-- What is left at the ends is no blank. -/
theorem bare_trim (text : List Char) : Bare (trim text) := by
  have hback : ∀ text c, (trimRight text).getLast? = some c → isBlank c = false := by
    intro text c h
    unfold trimRight at h
    rw [List.getLast?_reverse] at h
    exact head?_dropWhile_isBlank h
  refine ⟨fun c h => ?_, hback _⟩
  -- the first character is the first one of the text without its leading blanks
  have hprefix : trimRight (trimLeft text) <+: trimLeft text := by
    unfold trimRight
    rw [← List.reverse_suffix, List.reverse_reverse]
    exact List.dropWhile_suffix _
  obtain ⟨behind, hbehind⟩ := hprefix
  obtain ⟨others, hothers⟩ := List.head?_eq_some_iff.mp h
  have hhead : (text.dropWhile isBlank).head? = some c := by
    rw [show text.dropWhile isBlank = trimLeft text from rfl, ← hbehind,
      show trimRight (trimLeft text) = c :: others from hothers]
    rfl
  exact head?_dropWhile_isBlank hhead

theorem mem_of_mem_trim (h : c ∈ trim text) : c ∈ text := by
  unfold trim trimRight at h
  have hleft := (List.dropWhile_sublist _).subset (List.mem_reverse.mp h)
  exact (List.dropWhile_sublist _).subset (List.mem_reverse.mp hleft)

theorem Bare.dropWhile (h : Bare text) : text.dropWhile isBlank = text := by
  cases text with
  | nil => rfl
  | cons c others => simp [h.front c rfl]

theorem Bare.reverse (h : Bare text) : Bare text.reverse :=
  ⟨fun c hc => h.back c (by rwa [List.head?_reverse] at hc),
    fun c hc => h.front c (by rwa [List.getLast?_reverse] at hc)⟩

/-- Blanks around a text without blanks at its ends are lost, and nothing else. -/
theorem trim_padded (front : List Char) {behind : List Char} (h : Bare text)
    (hfront : Blank front) (hbehind : Blank behind) : trim (front ++ (text ++ behind)) = text := by
  rw [← List.append_assoc, Config.trim_append_blanks hbehind]
  unfold trim trimLeft trimRight
  rw [List.dropWhile_append_of_pos hfront, h.dropWhile, h.reverse.dropWhile, List.reverse_reverse]

/-! ## What is scanned -/

/-- A token that is read is canonical and holds the characters that are used up, but for blanks;
behind a redirection comes an operator. -/
theorem next?_canonical (h : next? text = some (token, rest)) : token.IsCanonical ∧
    nonblank text = nonblank token.spelling.toList ++ nonblank rest ∧
    (token.isRedirect = true → ∀ c, rest.head? = some c → isOperator c = true) := by
  rw [← nonblank_dropWhile text]
  unfold next? at h
  cases hstart : text.dropWhile isBlank with
  | nil => exact absurd h (by simp [hstart, first?])
  | cons c others =>
      have hhead : (text.dropWhile isBlank).head? = some c := by rw [hstart]; rfl
      have hblank : isBlank c = false := head?_dropWhile_isBlank hhead
      rw [hstart] at h
      -- a token begins with an operator or is a word
      rcases begins c others with rfl | ⟨mode, named, heq, hlongest⟩ | hc
      · cases (first?_pipe others).symm.trans h
        exact ⟨trivial, nonblank_append ['|'] _, fun hredirect => absurd hredirect (by decide)⟩
      · rw [heq, first?_redirection hlongest] at h
        cases h
        refine ⟨⟨fun d hd => ?_, ?_⟩, ?_, fun _ d hd => ?_⟩
        · rw [String.toList_ofList] at hd
          exact isTargetChar_iff.mp (List.mem_takeWhile_imp (mem_of_mem_trim hd))
        · rw [String.toList_ofList]
          exact bare_trim _
        · have hsplit := List.takeWhile_append_dropWhile (p := isTargetChar) (l := named)
          have hspace : nonblank [' '] = [] := by decide
          rw [heq]
          conv_lhs => rw [← hsplit]
          simp only [spelling, String.toList_append, String.toList_ofList, nonblank_append,
            nonblank_trim, show " ".toList = [' '] from rfl, hspace, List.nil_append,
            List.append_assoc]
        · have hstop := List.head?_dropWhile_not isTargetChar named
          rw [hd] at hstop
          simpa [isTargetChar] using hstop
      · rw [first?_word others hc] at h
        cases h
        refine ⟨⟨by simp, fun d hd => ?_⟩, ?_, fun hredirect => absurd hredirect (by simp [isRedirect])⟩
        · rw [String.toList_ofList] at hd
          rcases List.mem_cons.mp hd with rfl | hd
          · exact ⟨hblank, isOperator_eq_false_iff.mp hc⟩
          · exact isWordChar_iff.mp (List.mem_takeWhile_imp hd)
        · have hsplit := List.takeWhile_append_dropWhile (p := isWordChar) (l := others)
          conv_lhs => rw [← hsplit]
          rw [spelling, String.toList_ofList, ← nonblank_append, List.cons_append]

/-- A text that begins with an operator is not scanned into a word first. -/
theorem head?_scan_of_isOperator (h : ∀ c, text.head? = some c → isOperator c = true)
    (hhead : (scan text).head? = some token) : token.isWord = false := by
  cases text with
  | nil => exact absurd hhead (by simp)
  | cons c others =>
      rcases begins c others with rfl | ⟨mode, named, heq, hlongest⟩ | hc
      · rw [scan_pipe] at hhead
        cases hhead
        rfl
      · rw [heq, scan_redirection hlongest] at hhead
        cases hhead
        rfl
      · exact absurd (h c rfl) (by simp [hc])

/-- What is scanned is canonical. -/
theorem canonical_scan (text : List Char) : Canonical (scan text) := by
  fun_induction scan text with
  | case1 text hread => exact ⟨by simp, .nil⟩
  | case2 text token rest hread ih =>
      obtain ⟨hcanonical, -, hbehind⟩ := next?_canonical hread
      refine ⟨fun other hother => ?_, ih.apart.cons fun next hnext hredirect => ?_⟩
      · rcases List.mem_cons.mp hother with rfl | hother
        · exact hcanonical
        · exact ih.each other hother
      · exact head?_scan_of_isOperator (hbehind hredirect) hnext

/-- But for blanks, the tokens hold the characters of the text. -/
theorem nonblank_scan (text : List Char) : nonblank text = nonblank (letters (scan text)) := by
  fun_induction scan text with
  | case1 text hread =>
      rw [← nonblank_dropWhile, next?_eq_none_iff.mp hread]
      rfl
  | case2 text token rest hread ih =>
      rw [(next?_canonical hread).2.1, ih, ← nonblank_append]
      rfl

/-- Nothing is scanned exactly where there are only blanks. -/
theorem scan_eq_nil_iff : scan text = [] ↔ Blank text := by
  have hblank : text.dropWhile isBlank = [] ↔ Blank text := List.dropWhile_eq_nil_iff
  rw [← hblank, ← next?_eq_none_iff]
  cases hread : next? text with
  | none => simp [scan_of_next?_eq_none hread]
  | some read => simp [scan_of_next? hread]

/-! ## What is spelt out -/

/-- What may follow the spelling of a token: nothing, or a blank and then, if the token is a
redirection, an operator. -/
def Follows (token : Token) (rest : List Char) : Prop :=
  rest = [] ∨ ∃ more, rest = ' ' :: more ∧
    (token.isRedirect = true → ∃ c others, more = c :: others ∧ isOperator c = true)

theorem takeWhile_follows (h : Follows token rest) : rest.takeWhile isWordChar = [] ∧
    rest.dropWhile isWordChar = rest := by
  rcases h with rfl | ⟨more, rfl, -⟩
  · exact ⟨rfl, rfl⟩
  · have hspace : isWordChar ' ' = false := by decide
    simp [hspace]

/-- The spelling of a canonical token is scanned into that token. -/
theorem scan_spelling (h : token.IsCanonical) (hrest : Follows token rest) :
    scan (token.spelling.toList ++ rest) = token :: scan rest := by
  cases token with
  | pipe => exact scan_pipe rest
  | word text =>
      obtain ⟨hne, hchars⟩ := h
      have hall : ∀ c ∈ text.toList, isWordChar c = true := fun c hc => isWordChar_iff.mpr (hchars c hc)
      obtain ⟨htake, hdrop⟩ := takeWhile_follows hrest
      show scan (text.toList ++ rest) = _
      cases htext : text.toList with
      | nil => exact absurd (by simpa using htext) hne
      | cons c others =>
          rw [htext] at hall
          have hothers : ∀ d ∈ others, isWordChar d = true :=
            fun d hd => hall d (List.mem_cons_of_mem _ hd)
          rw [List.cons_append, scan_word _ (hall c List.mem_cons_self),
            List.takeWhile_append_of_pos hothers, List.dropWhile_append_of_pos hothers, htake, hdrop,
            List.append_nil, ← htext, String.ofList_toList]
  | redirect mode target =>
      obtain ⟨hchars, hbare⟩ := h
      have hall : ∀ c ∈ ' ' :: target.toList, isTargetChar c = true := by
        intro c hc
        rcases List.mem_cons.mp hc with rfl | hc
        · decide
        · exact isTargetChar_iff.mpr (hchars c hc)
      -- behind the target stand blanks alone, up to the next operator
      obtain ⟨htake, hdrop⟩ : Blank (rest.takeWhile isTargetChar) ∧
          scan (rest.dropWhile isTargetChar) = scan rest := by
        rcases hrest with rfl | ⟨more, rfl, hmore⟩
        · exact ⟨by simp [Blank], rfl⟩
        · obtain ⟨c, others, rfl, hc⟩ := hmore rfl
          have hspace : isTargetChar ' ' = true := by decide
          have hstop : isTargetChar c = false := by simp [isTargetChar, hc]
          have hblank : isBlank ' ' = true := by decide
          rw [scan_blank (c := ' ') _ hblank]
          simp [hspace, hstop, Blank, hblank]
      have htext : (Token.redirect mode target).spelling.toList ++ rest =
          mode.operator.toList ++ (' ' :: target.toList ++ rest) := by
        simp [spelling]
      have htrim : trim (' ' :: target.toList ++ rest.takeWhile isTargetChar) = target.toList :=
        trim_padded [' '] hbare (by simp [Blank]; decide) htake
      rw [htext, scan_redirection (fun _ => by simp), List.takeWhile_append_of_pos hall,
        List.dropWhile_append_of_pos hall, htrim, hdrop, String.ofList_toList]

theorem toList_spell_cons (token next : Token) (tokens : List Token) :
    (spell (token :: next :: tokens)).toList =
      token.spelling.toList ++ ' ' :: (spell (next :: tokens)).toList := by
  simp [spell]

/-- What is spelt out begins with an operator, unless it begins with a word. -/
theorem spell_begins (h : token.isWord = false) (tokens : List Token) :
    ∃ c others, (spell (token :: tokens)).toList = c :: others ∧ isOperator c = true := by
  obtain ⟨c, others, hspelling, hc⟩ :
      ∃ c others, token.spelling.toList = c :: others ∧ isOperator c = true := by
    cases token with
    | word text => exact absurd h (by simp [isWord])
    | pipe => exact ⟨'|', [], rfl, rfl⟩
    | redirect mode target => cases mode <;> exact ⟨'>', _, by simp [spelling, WriteMode.operator]; rfl, rfl⟩
  cases tokens with
  | nil => exact ⟨c, others, by simpa [spell] using hspelling, hc⟩
  | cons next tokens => exact ⟨c, _, by rw [toList_spell_cons, hspelling]; rfl, hc⟩

/-- Canonical tokens that are spelt out are scanned into themselves. -/
theorem scan_spell (h : Canonical tokens) : scan (spell tokens).toList = tokens := by
  induction tokens with
  | nil => exact scan_nil
  | cons token tokens ih =>
      have htoken := h.each token List.mem_cons_self
      cases tokens with
      | nil =>
          have hscan := scan_spelling htoken (.inl rfl)
          rw [List.append_nil, scan_nil] at hscan
          simpa [spell] using hscan
      | cons next tokens =>
          obtain ⟨hnext, hapart⟩ := List.isChain_cons_cons.mp h.apart
          have hfollows : Follows token (' ' :: (spell (next :: tokens)).toList) :=
            .inr ⟨_, rfl, fun hredirect => spell_begins (hnext hredirect) tokens⟩
          rw [toList_spell_cons, scan_spelling htoken hfollows, scan_blank _ (by decide),
            ih ⟨fun other hother => h.each other (List.mem_cons_of_mem _ hother), hapart⟩]

/-- **What the scanner gives.** Every line is scanned into canonical tokens. These hold what the line
holds, in the same order, but for blanks, and there are none only where the line has nothing else;
and the line that spells them out is scanned into them again. Every canonical list is scanned from
what spells it out, so the lists that come out of the scanner are the canonical ones. -/
theorem ofLine_spells :
    (∀ line : String, Canonical (ofLine line) ∧
      nonblank line.toList = nonblank (letters (ofLine line)) ∧
      (ofLine line = [] ↔ Blank line.toList) ∧
      ofLine (spell (ofLine line)) = ofLine line) ∧
    (∀ tokens, ofLine (spell tokens) = tokens ↔ Canonical tokens) ∧
    (∀ tokens, (∃ line, ofLine line = tokens) ↔ Canonical tokens) := by
  have hcanonical : ∀ line, Canonical (ofLine line) := fun line => canonical_scan line.toList
  have hspell : ∀ tokens, Canonical tokens → ofLine (spell tokens) = tokens :=
    fun tokens => scan_spell
  refine ⟨fun line => ?_, fun tokens => ?_, fun tokens => ?_⟩
  · exact ⟨hcanonical line, nonblank_scan line.toList, scan_eq_nil_iff, hspell _ (hcanonical line)⟩
  · exact ⟨fun h => h ▸ hcanonical _, hspell tokens⟩
  · constructor
    · rintro ⟨line, rfl⟩
      exact hcanonical line
    · exact fun h => ⟨spell tokens, hspell tokens h⟩

/-! ## Pipes -/

/-- There is one more run between separators than there are separators. -/
theorem length_splitOn {α : Type} [BEq α] [LawfulBEq α] (separator : α) (xs : List α) :
    (xs.splitOn separator).length = xs.count separator + 1 := by
  induction xs with
  | nil => simp
  | cons x xs ih =>
      rw [List.splitOn_cons_eq_if_modifyHead, List.count_cons]
      split
      · rw [List.length_cons, ih]
      · rw [List.length_modifyHead, ih, Nat.add_zero]

/-- The tokens of a text are those of the pieces between its pipes, with the pipes between. -/
theorem scan_eq_intercalate (line : List Char) :
    scan line = [Token.pipe].intercalate ((pieces line).map scan) := by
  rw [← chunks_scan, Pipeline.chunks_eq_splitOn]
  exact (List.intercalate_splitOn Token.pipe).symm

/-- **Scanning and cutting at pipes.** To scan a line that is put together at a pipe is to scan both
parts. So it makes no difference whether a line is scanned in one go, or cut at its pipes first and
then scanned piece by piece: the tokens are the same, and so are the chunks, of which there is one
more than there are pipes in the line. -/
theorem ofLine_append_pipe :
    (∀ front behind : String,
      ofLine (front ++ "|" ++ behind) = ofLine front ++ [.pipe] ++ ofLine behind) ∧
    (∀ line : String,
      ofLine line = [Token.pipe].intercalate
        ((pieces line.toList).map fun piece => ofLine (String.ofList piece)) ∧
      Pipeline.chunks (ofLine line) =
        (pieces line.toList).map (fun piece => ofLine (String.ofList piece)) ∧
      (Pipeline.chunks (ofLine line)).length = line.toList.count '|' + 1) := by
  have hpieces : ∀ line : String, ((pieces line.toList).map fun piece => ofLine (String.ofList piece)) =
      (pieces line.toList).map scan := by
    intro line
    refine List.map_congr_left fun piece _ => ?_
    rw [ofLine, String.toList_ofList]
  refine ⟨fun front behind => ?_, fun line => ?_⟩
  · have htext : (front ++ "|" ++ behind).toList = front.toList ++ '|' :: behind.toList := by simp
    unfold ofLine
    rw [htext, scan_append _ (by decide) (.inl rfl), scan_pipe, List.append_assoc]
    rfl
  · rw [hpieces]
    have hchunks := chunks_scan line.toList
    refine ⟨scan_eq_intercalate line.toList, hchunks, ?_⟩
    rw [ofLine, hchunks, List.length_map]
    exact length_splitOn '|' line.toList

end LineShell.Token
