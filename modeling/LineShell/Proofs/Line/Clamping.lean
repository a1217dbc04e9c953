import LineShell.Shell.Config
import LineShell.Text.Blank
import Mathlib.Data.List.DropRight

/-!
# What is left of a long line

A line that exceeds its limit is cut at the last boundary of a character below the limit: that
leaves the characters that fit, one after the other.

* **`clampTo_eq_takeBytes`** — looking backwards for a boundary finds the characters that fit;
* **`trim_clampTo_append`** — blanks behind a line may go before or after it is cut: the text
  without the blanks around it is the same.
-/

namespace LineShell.Config

open Text

/-! ## The characters that fit -/

/-- A text that fits stays as it is. -/
theorem takeBytes_of_le {text : List Char} {position : Nat} (h : byteLength text ≤ position) :
    takeBytes text position = text := by
  induction text generalizing position with
  | nil => rfl
  | cons c rest ih =>
      rw [byteLength] at h
      rw [takeBytes, if_pos (by omega), ih (by omega)]

/-- Where no character ends, one byte more makes no difference. -/
theorem takeBytes_succ {text : List Char} {position : Nat}
    (h : isBoundary text (position + 1) = false) :
    takeBytes text (position + 1) = takeBytes text position := by
  induction text generalizing position with
  | nil => rfl
  | cons c rest ih =>
      have hsize := c.utf8Size_pos
      simp only [isBoundary, Bool.and_eq_false_iff, decide_eq_false_iff_not] at h
      rw [takeBytes, takeBytes]
      by_cases hfits : c.utf8Size ≤ position
      · have hpast : position + 1 - c.utf8Size = (position - c.utf8Size) + 1 := by omega
        have hrest := h.resolve_left fun hnot => hnot (by omega)
        rw [hpast] at hrest
        rw [if_pos (by omega), if_pos hfits, hpast, ih hrest]
      · rw [if_neg hfits, if_neg]
        -- a character of exactly this size would end at the boundary
        rintro hle
        rcases h with hnot | hrest
        · exact hnot hle
        · rw [show position + 1 - c.utf8Size = 0 by omega] at hrest
          cases rest <;> simp [isBoundary] at hrest

/-- The characters below the last boundary are those that fit. -/
theorem takeBytes_boundaryBelow (text : List Char) (position : Nat) :
    takeBytes text (boundaryBelow text position) = takeBytes text position := by
  induction position with
  | zero => rfl
  | succ position ih =>
      rw [boundaryBelow]
      split
      · rfl
      · next h => rw [ih, takeBytes_succ (by simpa using h)]

/-- **What is left of a text are the characters that fit.** -/
theorem clampTo_eq_takeBytes (limit : Nat) (text : List Char) :
    clampTo limit text = takeBytes text limit := by
  unfold clampTo
  split
  · next h => rw [takeBytes_of_le h]
  · exact takeBytes_boundaryBelow text limit

/-- A text behind another one gets the bytes that are left. -/
theorem takeBytes_append (front back : List Char) (position : Nat) :
    takeBytes (front ++ back) position =
      if byteLength front ≤ position then front ++ takeBytes back (position - byteLength front)
      else takeBytes front position := by
  induction front generalizing position with
  | nil => simp [byteLength]
  | cons c front ih =>
      rw [List.cons_append, takeBytes, takeBytes, byteLength, ih]
      by_cases hc : c.utf8Size ≤ position
      · by_cases hfront : byteLength front ≤ position - c.utf8Size
        · rw [if_pos hc, if_pos hfront, if_pos (by omega), Nat.sub_sub, List.cons_append]
        · rw [if_pos hc, if_neg hfront, if_neg (by omega), if_pos hc]
      · rw [if_neg hc, if_neg (by omega), if_neg hc]

/-- Characters can only be lost at the end. -/
theorem takeBytes_isPrefix (text : List Char) (position : Nat) : takeBytes text position <+: text := by
  induction text generalizing position with
  | nil => exact List.prefix_rfl
  | cons c rest ih =>
      rw [takeBytes]
      split
      · exact List.cons_prefix_cons.mpr ⟨rfl, ih _⟩
      · exact List.nil_prefix

/-! ## Blanks at the end -/

/-- Blanks behind a text are dropped with those at its end. -/
theorem trim_append_blanks {blanks : List Char} (h : ∀ c ∈ blanks, isBlank c = true)
    (text : List Char) : trim (text ++ blanks) = trim text := by
  unfold trim trimLeft trimRight
  rw [List.dropWhile_append]
  split
  · next hempty =>
      rw [List.isEmpty_iff.mp hempty, List.dropWhile_eq_nil_iff.mpr h]
  · rw [List.reverse_append, List.dropWhile_append_of_pos fun c hc => h c (List.mem_reverse.mp hc)]

/-- **Blanks behind a line may go before or after it is cut to any limit.** -/
theorem trim_clampTo_append {blanks : List Char} (h : ∀ c ∈ blanks, isBlank c = true)
    (limit : Nat) (text : List Char) :
    trim (clampTo limit (text ++ blanks)) = trim (clampTo limit text) := by
  rw [clampTo_eq_takeBytes, clampTo_eq_takeBytes, takeBytes_append]
  split
  · next hfits =>
      have hleft : ∀ c ∈ takeBytes blanks (limit - byteLength text), isBlank c = true :=
        fun c hc => h c ((takeBytes_isPrefix blanks _).subset hc)
      rw [trim_append_blanks hleft, takeBytes_of_le hfits]
  · rfl

/-- A limit in the middle of a character drops the whole of it. -/
example : clampTo 2 ['a', 'é', '\r'] = ['a'] := by decide

end LineShell.Config
