import LineShell.Proofs.Line.Scan
import LineShell.Proofs.Line.Chunks
import Mathlib.Data.List.TakeWhile

/-!
# A line as raw text

What a line asks for, read off its characters and without any token: the pieces between its
pipes, what stands in front of the first `>` of a piece, and what stands behind the last one.

* **`scan_words`** — a text without operators is scanned into its blank-separated words;
* **`scan_redirections`** — a text that begins with a `>` and holds no pipe is scanned into
  redirections, the last of which names what stands behind the last `>`, and into a single one
  exactly if it is an operator and a text without `>`;
* **`scan_piece`** — a piece is scanned into the words of its head and redirections;
* **`chunks_ofLine`** — the chunks of a line are its pieces, scanned.
-/

namespace LineShell.RawText

open Text Token

/-- The runs of characters between pipes; there is one more of them than pipes. -/
def pieces (line : List Char) : List (List Char) := line.splitOn '|'

/-- What stands in front of the first `>`. -/
def head (piece : List Char) : List Char := piece.takeWhile (· != '>')

/-- What stands behind the last `>`. -/
def afterLast (piece : List Char) : List Char := (piece.reverse.takeWhile (· != '>')).reverse

/-- The runs of characters between blanks. -/
def words (text : List Char) : List String :=
  ((text.splitOnP isBlank).filter fun word => !word.isEmpty).map String.ofList

/-- A text of blanks alone. -/
def Blank (text : List Char) : Prop := ∀ c ∈ text, isBlank c = true

/-- A piece is its head, a single operator and a text without another one. -/
def IsClause (piece : List Char) (mode : WriteMode) (name : List Char) : Prop :=
  piece = head piece ++ (mode.operator.toList ++ name) ∧ '>' ∉ name

/-! ## Words -/

theorem words_blank {c : Char} (text : List Char) (h : isBlank c = true) :
    words (c :: text) = words text := by
  unfold words
  rw [List.splitOnP_cons_eq_if_modifyHead, if_pos h]
  simp

theorem words_nonblank {c : Char} (text : List Char) (h : isBlank c = false) :
    words (c :: text) = String.ofList (c :: text.takeWhile fun d => !isBlank d) ::
      words (text.dropWhile fun d => !isBlank d) := by
  have hword : ∀ d ∈ c :: text.takeWhile fun d => !isBlank d, isBlank d = false := by
    intro d hd
    rcases List.mem_cons.mp hd with heq | hd
    · rw [heq]
      exact h
    · simpa using List.mem_takeWhile_imp hd
  have hstop := List.head?_dropWhile_not (fun d => !isBlank d) text
  conv_lhs => rw [← List.takeWhile_append_dropWhile (p := fun d => !isBlank d) (l := text)]
  unfold words
  cases hrest : text.dropWhile fun d => !isBlank d with
  | nil =>
      rw [List.append_nil, List.splitOnP_eq_singleton hword]
      simp
  | cons d rest =>
      have hd : isBlank d = true := by simpa [hrest] using hstop
      rw [← List.cons_append, List.splitOnP_append_cons_of_forall_mem hword d hd,
        List.splitOnP_cons_eq_if_modifyHead, if_pos hd]
      simp

/-- A text of blanks has no words. -/
theorem words_eq_nil_iff {text : List Char} : words text = [] ↔ Blank text := by
  induction text with
  | nil => simp [words, Blank]
  | cons c text ih =>
      cases hc : isBlank c with
      | true =>
          rw [words_blank text hc, ih]
          simp [Blank, hc]
      | false =>
          rw [words_nonblank text hc]
          simp [Blank, hc]

/-- Where there are no operators, words are cut at blanks. -/
theorem takeWhile_isWordChar {text : List Char} (h : ∀ c ∈ text, isOperator c = false) :
    text.takeWhile isWordChar = (text.takeWhile fun c => !isBlank c) ∧
      text.dropWhile isWordChar = text.dropWhile fun c => !isBlank c := by
  induction text with
  | nil => exact ⟨rfl, rfl⟩
  | cons c text ih =>
      obtain ⟨htake, hdrop⟩ := ih fun d hd => h d (List.mem_cons_of_mem _ hd)
      have hc : isWordChar c = !isBlank c := by simp [isWordChar, h c List.mem_cons_self]
      simp only [List.takeWhile_cons, List.dropWhile_cons, hc, htake, hdrop]
      exact ⟨trivial, trivial⟩

/-- A text without operators is scanned into its blank-separated words. -/
theorem scan_words {text : List Char} (h : ∀ c ∈ text, isOperator c = false) :
    scan text = (words text).map .word := by
  induction hlength : text.length using Nat.strongRecOn generalizing text with
  | ind length ih =>
      subst hlength
      cases text with
      | nil =>
          rw [scan_nil, words_eq_nil_iff.mpr (by simp [Blank])]
          rfl
      | cons c text =>
          have hrest : ∀ d ∈ text, isOperator d = false :=
            fun d hd => h d (List.mem_cons_of_mem _ hd)
          cases hc : isBlank c with
          | true =>
              rw [scan_blank text hc, words_blank text hc]
              exact ih _ (Nat.lt_succ_self _) hrest rfl
          | false =>
              obtain ⟨htake, hdrop⟩ := takeWhile_isWordChar hrest
              rw [scan_word text (by simp [isWordChar, hc, h c List.mem_cons_self]),
                words_nonblank text hc, htake, hdrop, List.map_cons]
              refine congrArg _ (ih _ ?_ ?_ rfl)
              · exact Nat.lt_succ_of_le (length_dropWhile_le _ text)
              · exact fun d hd => hrest d ((List.dropWhile_sublist _).subset hd)

/-! ## Redirections -/

theorem afterLast_of_notMem {text : List Char} (h : '>' ∉ text) : afterLast text = text := by
  unfold afterLast
  rw [List.takeWhile_eq_self_iff.mpr, List.reverse_reverse]
  intro c hc
  have hne : c ≠ '>' := fun heq => h (heq ▸ List.mem_reverse.mp hc)
  simpa using hne

theorem afterLast_append {text : List Char} (front : List Char) (h : '>' ∈ text) :
    afterLast (front ++ text) = afterLast text := by
  obtain ⟨behind, before, hsplit⟩ := List.append_of_mem (List.mem_reverse.mpr h)
  unfold afterLast
  rw [List.reverse_append, hsplit, List.append_assoc, List.cons_append,
    takeWhile_append_stop _ _ (by decide), takeWhile_append_stop _ _ (by decide)]

theorem afterLast_behind {text : List Char} (front : List Char) (h : '>' ∉ text) :
    afterLast (front ++ '>' :: text) = text := by
  rw [afterLast_append front List.mem_cons_self]
  have hbehind := afterLast_of_notMem h
  unfold afterLast at hbehind ⊢
  rw [List.reverse_cons, takeWhile_append_stop _ _ (by decide), hbehind]

/-- The operator at the beginning of a text, as long as it can be, is the only one there. -/
theorem operator_unique {mode mode' : WriteMode} {name name' : List Char}
    (heq : mode.operator.toList ++ name = mode'.operator.toList ++ name')
    (h : mode = .truncate → name.head? ≠ some '>')
    (h' : mode' = .truncate → name'.head? ≠ some '>') : mode = mode' ∧ name = name' := by
  have hread := (first?_redirection h).symm.trans ((congrArg first? heq).trans (first?_redirection h'))
  have hmode : mode = mode' := by
    simp only [redirection, Option.some.injEq, Prod.mk.injEq, Token.redirect.injEq] at hread
    exact hread.1.1
  subst hmode
  exact ⟨rfl, List.append_cancel_left heq⟩

/-- A text that begins with an operator and holds no pipe is scanned into redirections. The last
of them names what stands behind the last `>`, and there is only one if nothing but the operator
is a `>`. -/
theorem scan_redirections {text : List Char} (hpipe : '|' ∉ text) (hbegin : text.head? = some '>') :
    (∀ token ∈ scan text, token.isRedirect = true) ∧
      (∃ mode, (scan text).getLast? =
        some (.redirect mode (String.ofList (trim (afterLast text))))) ∧
      ((scan text).length = 1 ↔ ∃ (mode : WriteMode) (name : List Char),
        text = mode.operator.toList ++ name ∧ '>' ∉ name) := by
  induction hlength : text.length using Nat.strongRecOn generalizing text with
  | ind length ih =>
      subst hlength
      obtain ⟨rest, rfl⟩ := List.head?_eq_some_iff.mp hbegin
      obtain ⟨mode, name, heq, hlongest⟩ : ∃ (mode : WriteMode) (name : List Char),
          '>' :: rest = mode.operator.toList ++ name ∧
            (mode = .truncate → name.head? ≠ some '>') :=
        ((begins '>' rest).resolve_left (by decide)).resolve_right (by decide)
      rw [heq] at hpipe ih ⊢
      rw [scan_redirection hlongest]
      have hnamePipe : '|' ∉ name := fun hin => hpipe (List.mem_append_right _ hin)
      cases hrest : name.dropWhile isTargetChar with
      | nil =>
          have hall : ∀ c ∈ name, isTargetChar c = true := List.dropWhile_eq_nil_iff.mp hrest
          have hname : '>' ∉ name := fun hin => absurd (hall _ hin) (by decide)
          have hlast : afterLast (mode.operator.toList ++ name) = name := by
            cases mode with
            | truncate => exact afterLast_behind [] hname
            | append => exact afterLast_behind ['>'] hname
          rw [hlast, List.takeWhile_eq_self_iff.mpr hall, scan_nil]
          exact ⟨by simp [isRedirect], ⟨mode, rfl⟩, by simpa using ⟨mode, name, rfl, hname⟩⟩
      | cons c more =>
          -- Only another `>` ends the name, as there is no pipe.
          have hsuffix : c :: more <:+ name := hrest ▸ List.dropWhile_suffix _
          have hc : c = '>' := by
            have hstop : isTargetChar c = false := by
              have := List.head?_dropWhile_not isTargetChar name
              rw [hrest] at this
              exact this
            have hcpipe : c ≠ '|' := fun h => hnamePipe (h ▸ hsuffix.subset List.mem_cons_self)
            simpa [isTargetChar, isOperator, hcpipe] using hstop
          subst hc
          have hshorter : ('>' :: more).length < (mode.operator.toList ++ name).length := by
            have hle := hsuffix.length_le
            have hpos : 0 < mode.operator.toList.length := by cases mode <;> decide
            rw [List.length_append]
            omega
          obtain ⟨hall, ⟨mode', hlast⟩, -⟩ :=
            ih _ hshorter (fun hin => hnamePipe (hsuffix.subset hin)) rfl rfl
          have hafter : afterLast (mode.operator.toList ++ name) = afterLast ('>' :: more) := by
            obtain ⟨front, hfront⟩ := hsuffix
            rw [← hfront, ← List.append_assoc]
            exact afterLast_append _ List.mem_cons_self
          refine ⟨?_, ⟨mode', ?_⟩, ?_⟩
          · intro token htoken
            rcases List.mem_cons.mp htoken with rfl | htoken
            · rfl
            · exact hall token htoken
          · rw [List.getLast?_cons, hlast, hafter]
            rfl
          · constructor
            · intro hone
              have hnil : scan ('>' :: more) = [] := by simpa using hone
              rw [hnil] at hlast
              exact absurd hlast (by simp)
            · rintro ⟨other, name', heq', hname'⟩
              obtain ⟨-, rfl⟩ := operator_unique heq' hlongest fun _ hhead =>
                hname' (List.mem_of_mem_head? hhead)
              exact absurd (hsuffix.subset List.mem_cons_self) hname'

/-! ## Pieces -/

/-- What stands behind the head of a piece: nothing, or the first `>` and the rest. -/
def tail (piece : List Char) : List Char := piece.dropWhile (· != '>')

theorem head_append_tail (piece : List Char) : head piece ++ tail piece = piece :=
  List.takeWhile_append_dropWhile

theorem notMem_head (piece : List Char) : '>' ∉ head piece := by
  intro hin
  exact absurd (List.mem_takeWhile_imp hin) (by decide)

theorem tail_eq_nil_iff {piece : List Char} : tail piece = [] ↔ '>' ∉ piece := by
  unfold tail
  rw [List.dropWhile_eq_nil_iff]
  constructor
  · intro h hin
    exact absurd (h _ hin) (by decide)
  · intro h c hc
    have hne : c ≠ '>' := fun heq => h (heq ▸ hc)
    simpa using hne

theorem head?_tail {piece : List Char} (h : '>' ∈ piece) : (tail piece).head? = some '>' := by
  have hstop := List.head?_dropWhile_not (fun c => c != '>') piece
  rw [show piece.dropWhile (fun c => c != '>') = tail piece from rfl] at hstop
  cases htail : tail piece with
  | nil => exact absurd h (tail_eq_nil_iff.mp htail)
  | cons c rest =>
      have hc : c = '>' := by simpa [htail] using hstop
      rw [hc]
      rfl

theorem isClause_iff {piece : List Char} {mode : WriteMode} {name : List Char} :
    IsClause piece mode name ↔ tail piece = mode.operator.toList ++ name ∧ '>' ∉ name := by
  unfold IsClause
  conv_lhs => lhs; lhs; rw [← head_append_tail piece]
  rw [List.append_cancel_left_eq]

/-- A piece is scanned into the words of its head and what stands behind it. -/
theorem scan_piece {piece : List Char} (hpipe : '|' ∉ piece) :
    scan piece = (words (head piece)).map .word ++ scan (tail piece) := by
  have hhead : scan (head piece) = (words (head piece)).map .word := by
    refine scan_words fun c hc => ?_
    have hpipeNe : c ≠ '|' := fun heq => hpipe (heq ▸ (List.takeWhile_sublist _).subset hc)
    have hgreaterNe : c ≠ '>' := fun heq => notMem_head piece (heq ▸ hc)
    simp [isOperator, hpipeNe, hgreaterNe]
  cases htail : tail piece with
  | nil =>
      have hwhole := head_append_tail piece
      rw [htail, List.append_nil] at hwhole
      rw [scan_nil, List.append_nil, ← hhead, hwhole]
  | cons c rest =>
      have hgreater : '>' ∈ piece := by
        by_contra hnot
        exact absurd (htail.symm.trans (tail_eq_nil_iff.mpr hnot)) (by simp)
      have hc : c = '>' := by simpa [htail] using head?_tail hgreater
      subst hc
      rw [← hhead, ← scan_append rest (by decide) (.inr (notMem_head piece)), ← htail,
        head_append_tail]

/-- A piece without `>` is scanned into words alone. -/
theorem scan_piece_of_notMem {piece : List Char} (hpipe : '|' ∉ piece) (h : '>' ∉ piece) :
    scan piece = (words (head piece)).map .word := by
  rw [scan_piece hpipe, tail_eq_nil_iff.mpr h, scan_nil, List.append_nil]

/-- What stands behind the head of a piece with a `>` is scanned into redirections. -/
theorem scan_tail {piece : List Char} (hpipe : '|' ∉ piece) (h : '>' ∈ piece) :
    (∀ token ∈ scan (tail piece), token.isRedirect = true) ∧
      (∃ mode, (scan (tail piece)).getLast? =
        some (.redirect mode (String.ofList (trim (afterLast piece))))) ∧
      ((scan (tail piece)).length = 1 ↔ ∃ mode name, IsClause piece mode name) := by
  have htail := head?_tail h
  have hgreater : '>' ∈ tail piece := List.mem_of_mem_head? htail
  obtain ⟨hall, hlast, hone⟩ := scan_redirections
    (fun hin : '|' ∈ tail piece => hpipe ((List.dropWhile_sublist _).subset hin)) htail
  rw [← afterLast_append (head piece) hgreater, head_append_tail] at hlast
  exact ⟨hall, hlast, hone.trans (by simp only [isClause_iff])⟩

theorem target?_of_any_isRedirect {tokens : List Token} (h : tokens.any isRedirect = false) :
    Structure.target? tokens = none := by
  unfold Structure.target?
  split
  · rename_i mode path hlast
    exact absurd (List.any_eq_false.mp h _ (List.mem_of_getLast? hlast)) (by simp [isRedirect])
  · rfl

/-- What the checks and the parser ask of a scanned piece, in terms of its text: its words are
those of its head, it holds a redirection where it holds a `>`, the last redirection names what
stands behind the last `>`, and one stands before the end unless the piece is a clause. -/
theorem scan_piece_facts {piece : List Char} (hpipe : '|' ∉ piece) :
    (scan piece).filterMap text? = words (head piece) ∧
      ((scan piece).any isRedirect = true ↔ '>' ∈ piece) ∧
      (∀ target, Structure.target? (scan piece) = some target → '>' ∈ piece ∧
        target.path = String.ofList (trim (afterLast piece))) ∧
      (Structure.target? (scan piece) = none → '>' ∉ piece) ∧
      ((scan piece).dropLast.any isRedirect = true ↔
        '>' ∈ piece ∧ ¬∃ mode name, IsClause piece mode name) := by
  have hnoRedirect : ((words (head piece)).map Token.word).any isRedirect = false := by
    simp [isRedirect]
  have htexts : ((words (head piece)).map Token.word).filterMap text? = words (head piece) := by
    rw [List.filterMap_map]
    exact List.filterMap_some
  by_cases hgreater : '>' ∈ piece
  · -- behind the words stand redirections alone, and the last one names the text behind the last `>`
    obtain ⟨hall, ⟨mode, hlast⟩, hone⟩ := scan_tail hpipe hgreater
    rw [scan_piece hpipe]
    obtain ⟨front, hfront⟩ := List.getLast?_eq_some_iff.mp hlast
    rw [hfront] at hall hone ⊢
    have hfrontTexts : (front ++ [Token.redirect mode (String.ofList (trim (afterLast piece)))]).filterMap
        text? = [] := by
      refine List.filterMap_eq_nil_iff.mpr fun token htoken => ?_
      have hredirect := hall token htoken
      cases token <;> simp_all [isRedirect, text?]
    refine ⟨?_, ?_, ?_, ?_, ?_⟩
    · rw [List.filterMap_append, htexts, hfrontTexts, List.append_nil]
    · simp [hgreater, isRedirect]
    · intro target htarget
      refine ⟨hgreater, ?_⟩
      simp only [Structure.target?, ← List.append_assoc, List.getLast?_concat,
        Option.some.injEq] at htarget
      rw [← htarget]
    · intro hnone
      simp only [Structure.target?, ← List.append_assoc, List.getLast?_concat] at hnone
      exact absurd hnone (by simp)
    · rw [← List.append_assoc, List.dropLast_concat, List.any_append, hnoRedirect, Bool.false_or,
        ← hone, and_iff_right hgreater]
      cases front with
      | nil => simp
      | cons token front => simp [hall token List.mem_cons_self]
  · rw [scan_piece_of_notMem hpipe hgreater]
    refine ⟨htexts, ?_, ?_, fun _ => hgreater, ?_⟩
    · simp [hnoRedirect, hgreater]
    · intro target htarget
      rw [target?_of_any_isRedirect hnoRedirect] at htarget
      exact absurd htarget (by simp)
    · have hfront : ((words (head piece)).map Token.word).dropLast.any isRedirect = false :=
        List.any_eq_false.mpr fun token htoken =>
          List.any_eq_false.mp hnoRedirect token (List.dropLast_subset _ htoken)
      simp [hfront, hgreater]

/-- The redirection of a clause is its operator and its name without the blanks at the ends. -/
theorem target?_scan_of_isClause {piece name : List Char} {mode : WriteMode} (hpipe : '|' ∉ piece)
    (h : IsClause piece mode name) :
    Structure.target? (scan piece) = some ⟨String.ofList (trim name), mode⟩ := by
  obtain ⟨htail, hname⟩ := isClause_iff.mp h
  have hnamePipe : '|' ∉ name := fun hin =>
    hpipe (h.1 ▸ List.mem_append_right _ (List.mem_append_right _ hin))
  have hall : ∀ c ∈ name, isTargetChar c = true := by
    intro c hc
    have hpipeNe : c ≠ '|' := fun heq => hnamePipe (heq ▸ hc)
    have hgreaterNe : c ≠ '>' := fun heq => hname (heq ▸ hc)
    simp [isTargetChar, isOperator, hpipeNe, hgreaterNe]
  have hlongest : mode = .truncate → name.head? ≠ some '>' :=
    fun _ hhead => hname (List.mem_of_mem_head? hhead)
  rw [scan_piece hpipe, htail, scan_redirection hlongest, List.takeWhile_eq_self_iff.mpr hall,
    List.dropWhile_eq_nil_iff.mpr hall, scan_nil]
  simp [Structure.target?]

/-! ## Whole lines -/

/-- No token of a text without a pipe is one. -/
theorem pipe_notMem_scan {piece : List Char} (hpipe : '|' ∉ piece) : Token.pipe ∉ scan piece := by
  rw [scan_piece hpipe]
  intro hin
  rcases List.mem_append.mp hin with hin | hin
  · exact absurd hin (by simp)
  · by_cases hgreater : '>' ∈ piece
    · exact absurd ((scan_tail hpipe hgreater).1 _ hin) (by decide)
    · rw [tail_eq_nil_iff.mpr hgreater, scan_nil] at hin
      exact absurd hin List.not_mem_nil

/-- The chunks of a line are its pieces, scanned. -/
theorem chunks_scan (line : List Char) : Pipeline.chunks (scan line) = (pieces line).map scan := by
  unfold pieces
  rw [Pipeline.chunks_eq_splitOn]
  induction hlength : line.length using Nat.strongRecOn generalizing line with
  | ind length ih =>
      subst hlength
      by_cases hpipe : '|' ∈ line
      · obtain ⟨front, rest, rfl⟩ := List.append_of_mem hpipe
        have hfront : front.length < (front ++ '|' :: rest).length := by
          rw [List.length_append, List.length_cons]
          omega
        have hrest : rest.length < (front ++ '|' :: rest).length := by
          rw [List.length_append, List.length_cons]
          omega
        rw [scan_append rest (by decide) (.inl rfl), scan_pipe, List.splitOn_append_cons_self,
          List.splitOn_append_cons_self, List.map_append, ih _ hfront front rfl,
          ih _ hrest rest rfl]
      · rw [List.splitOn_eq_singleton (pipe_notMem_scan hpipe), List.splitOn_eq_singleton hpipe]
        rfl

/-- No piece holds a pipe. -/
theorem pipe_notMem_of_mem_pieces {line piece : List Char} (h : piece ∈ pieces line) :
    '|' ∉ piece := notMem_of_mem_splitOn h

end LineShell.RawText
