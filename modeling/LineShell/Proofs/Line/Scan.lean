import LineShell.Line.Token
import Mathlib.Tactic.Common

/-!
# Scanning a text

What the scanner makes of a text, in terms of the text alone.

* **`scan_append`** — a text that is cut in front of an operator is scanned in two parts, unless
  the cut separates two `>`;
* **`scan_words`** — a text without operators is scanned into its blank-separated words;
* **`scan_redirections`** — a text that begins with a `>` and holds no pipe is scanned into
  redirections, the last of which names what stands behind the last `>`.
-/

namespace LineShell.Token

open Text

/-! ## One token -/

theorem scan_of_next? {text rest : List Char} {token : Token}
    (h : next? text = some (token, rest)) : scan text = token :: scan rest := by
  rw [scan]
  split
  · rename_i hnone
    exact absurd (h.symm.trans hnone) (by simp)
  · rename_i hsome
    cases h.symm.trans hsome
    rfl

theorem scan_of_next?_eq_none {text : List Char} (h : next? text = none) : scan text = [] := by
  rw [scan]
  split
  · rfl
  · rename_i hsome
    exact absurd (h.symm.trans hsome) (by simp)

@[simp] theorem scan_nil : scan [] = [] := scan_of_next?_eq_none rfl

/-- Nothing is read of blanks alone. -/
theorem next?_eq_none_iff {text : List Char} : next? text = none ↔ text.dropWhile isBlank = [] := by
  unfold next?
  cases text.dropWhile isBlank with
  | nil => simp [first?]
  | cons c rest =>
      simp only [reduceCtorEq, iff_false]
      unfold first?
      split <;> simp_all

theorem first?_pipe (rest : List Char) : first? ('|' :: rest) = some (.pipe, rest) := rfl

theorem first?_redirection {mode : WriteMode} {text : List Char}
    (h : mode = .truncate → text.head? ≠ some '>') :
    first? (mode.operator.toList ++ text) = some (redirection mode text) := by
  cases mode with
  | append => rfl
  | truncate =>
      cases text with
      | nil => rfl
      | cons c rest =>
          -- only another `>` could join the operator
          have hc : c ≠ '>' := fun heq => h rfl (congrArg some heq)
          show first? ('>' :: c :: rest) = _
          unfold first?
          split
          · rename_i hnil
            exact absurd hnil (by simp)
          · rename_i hpipe
            exact absurd hpipe (by simp)
          · rename_i hdouble
            cases hdouble
            exact absurd rfl hc
          · rename_i hsingle
            cases hsingle
            rfl
          · rename_i hother hword
            cases hword
            exact (hother rfl).elim

theorem first?_word {c : Char} (rest : List Char) (h : isOperator c = false) :
    first? (c :: rest) =
      some (.word (String.ofList (c :: rest.takeWhile isWordChar)), rest.dropWhile isWordChar) := by
  unfold first?
  split <;> simp_all [isOperator]

/-- A text begins with a pipe, with a redirection, which is as long as it can be, or with
something else. -/
theorem begins (c : Char) (rest : List Char) :
    c = '|' ∨
      (∃ (mode : WriteMode) (text : List Char), c :: rest = mode.operator.toList ++ text ∧
        (mode = .truncate → text.head? ≠ some '>')) ∨
      isOperator c = false := by
  by_cases hpipe : c = '|'
  · exact .inl hpipe
  · by_cases hgreater : c = '>'
    · subst hgreater
      refine .inr (.inl ?_)
      by_cases hdouble : rest.head? = some '>'
      · obtain ⟨more, rfl⟩ := List.head?_eq_some_iff.mp hdouble
        exact ⟨.append, more, rfl, fun h => absurd h (by simp)⟩
      · exact ⟨.truncate, rest, rfl, fun _ => hdouble⟩
    · exact .inr (.inr (by simp [isOperator, hpipe, hgreater]))

/-- What is left of a text stands at its end. -/
theorem suffix_of_first? {text rest : List Char} {token : Token}
    (h : first? text = some (token, rest)) : rest <:+ text := by
  cases text with
  | nil => exact absurd h (by simp [first?])
  | cons c text =>
      rcases begins c text with rfl | ⟨mode, named, heq, hlongest⟩ | hc
      · cases (first?_pipe text).symm.trans h
        exact List.suffix_cons _ _
      · rw [heq] at h ⊢
        cases (first?_redirection hlongest).symm.trans h
        exact (List.dropWhile_suffix _).trans (List.suffix_append _ _)
      · cases (first?_word text hc).symm.trans h
        exact (List.dropWhile_suffix _).trans (List.suffix_cons _ _)

theorem suffix_of_next? {text rest : List Char} {token : Token}
    (h : next? text = some (token, rest)) : rest <:+ text :=
  (suffix_of_first? h).trans (List.dropWhile_suffix _)

theorem isBlank_of_isOperator {c : Char} (h : isOperator c = true) : isBlank c = false := by
  unfold isOperator at h
  rcases (Bool.or_eq_true ..).mp h with h | h <;> rw [beq_iff_eq.mp h] <;> decide

theorem next?_cons {c : Char} (rest : List Char) (h : isBlank c = false) :
    next? (c :: rest) = first? (c :: rest) := by
  simp [next?, h]

theorem scan_pipe (rest : List Char) : scan ('|' :: rest) = .pipe :: scan rest :=
  scan_of_next? (next?_cons rest (by decide))

theorem scan_blank {c : Char} (rest : List Char) (h : isBlank c = true) :
    scan (c :: rest) = scan rest := by
  have hnext : next? (c :: rest) = next? rest := by simp [next?, h]
  cases hrest : next? rest with
  | none => rw [scan_of_next?_eq_none hrest, scan_of_next?_eq_none (hnext.trans hrest)]
  | some read => rw [scan_of_next? hrest, scan_of_next? (hnext.trans hrest)]

theorem scan_word {c : Char} (rest : List Char) (h : isWordChar c = true) :
    scan (c :: rest) = .word (String.ofList (c :: rest.takeWhile isWordChar)) ::
      scan (rest.dropWhile isWordChar) := by
  simp only [isWordChar, Bool.and_eq_true, Bool.not_eq_true'] at h
  exact scan_of_next? ((next?_cons rest h.1).trans (first?_word rest h.2))

theorem scan_redirection {mode : WriteMode} {text : List Char}
    (h : mode = .truncate → text.head? ≠ some '>') :
    scan (mode.operator.toList ++ text) =
      .redirect mode (String.ofList (trim (text.takeWhile isTargetChar))) ::
        scan (text.dropWhile isTargetChar) := by
  refine scan_of_next? (Eq.trans ?_ (first?_redirection h))
  cases mode <;> exact next?_cons _ (by decide)

/-! ## Cutting a text in front of an operator -/

section Stop

variable {keep : Char → Bool} {c : Char} (text rest : List Char)

/-- What is taken of a text does not depend on what stands behind a character that stops it. -/
theorem takeWhile_append_stop (h : keep c = false) :
    (text ++ c :: rest).takeWhile keep = text.takeWhile keep := by
  induction text with
  | nil => simp [h]
  | cons d more ih => cases hd : keep d <;> simp [hd, ih]

theorem dropWhile_append_stop (h : keep c = false) :
    (text ++ c :: rest).dropWhile keep = text.dropWhile keep ++ c :: rest := by
  induction text with
  | nil => simp [h]
  | cons d more ih => cases hd : keep d <;> simp [hd, ih]

end Stop

/-- A token is read as before when an operator is put behind the text, unless it is a `>` that
could join one in the text. -/
theorem first?_append {text rest more : List Char} {token : Token} {c : Char}
    (hc : isOperator c = true) (hjoin : c = '|' ∨ '>' ∉ text)
    (h : first? text = some (token, rest)) :
    first? (text ++ c :: more) = some (token, rest ++ c :: more) := by
  have htarget : isTargetChar c = false := by simp [isTargetChar, hc]
  have hword : isWordChar c = false := by simp [isWordChar, hc]
  cases text with
  | nil => exact absurd h (by simp [first?])
  | cons d text =>
      rcases begins d text with rfl | ⟨mode, named, heq, hlongest⟩ | hd
      · rw [first?_pipe] at h
        cases h
        rfl
      · have hpipe : c = '|' := hjoin.resolve_right (by rw [heq]; cases mode <;> simp [WriteMode.operator])
        rw [heq, first?_redirection hlongest] at h
        cases h
        rw [heq, List.append_assoc, first?_redirection]
        · simp [redirection, takeWhile_append_stop _ _ htarget, dropWhile_append_stop _ _ htarget]
        · intro hmode
          have hhead := hlongest hmode
          cases named with
          | nil => simp [hpipe]
          | cons e named => exact hhead
      · rw [first?_word _ hd] at h
        cases h
        rw [List.cons_append, first?_word _ hd, takeWhile_append_stop _ _ hword,
          dropWhile_append_stop _ _ hword]

/-- A text that is cut in front of an operator is scanned in two parts, unless the cut separates
two `>`. -/
theorem scan_append {text : List Char} {c : Char} (more : List Char) (hc : isOperator c = true)
    (hjoin : c = '|' ∨ '>' ∉ text) : scan (text ++ c :: more) = scan text ++ scan (c :: more) := by
  have hnext : ∀ text : List Char,
      next? (text ++ c :: more) = first? (text.dropWhile isBlank ++ c :: more) := by
    intro text
    rw [← dropWhile_append_stop _ _ (isBlank_of_isOperator hc)]
    rfl
  -- token by token; the last one ends at the operator behind the text
  fun_induction scan text with
  | case1 text hread =>
      have hblank := next?_eq_none_iff.mp hread
      have hrest : next? (text ++ c :: more) = next? (c :: more) := by
        rw [hnext, hblank, next?_cons more (isBlank_of_isOperator hc)]
        rfl
      rw [List.nil_append]
      cases hmore : next? (c :: more) with
      | none => rw [scan_of_next?_eq_none hmore, scan_of_next?_eq_none (hrest.trans hmore)]
      | some read => rw [scan_of_next? hmore, scan_of_next? (hrest.trans hmore)]
  | case2 text token rest hread ih =>
      have hkept : c = '|' ∨ '>' ∉ text.dropWhile isBlank :=
        hjoin.imp_right fun hnot hin => hnot ((List.dropWhile_sublist _).subset hin)
      have hwhole := (hnext text).trans (first?_append hc hkept hread)
      have hrest : c = '|' ∨ '>' ∉ rest :=
        hjoin.imp_right fun hnot hin => hnot ((suffix_of_next? hread).subset hin)
      rw [scan_of_next? hwhole, ih hrest, List.cons_append]

end LineShell.Token
