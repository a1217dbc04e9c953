import LineShell.Text.Bytes
import Mathlib.Tactic.Common
import Mathlib.Tactic.IntervalCases

/-!
# Texts and the bytes that encode them

* **`spelt_encodeChar`** — how the bytes of a character are read, whatever is behind them;
* **`decode_encode`** — a text that is written as bytes is read back as it was;
* **`encode_prefix_iff`** — a text begins with another one exactly if their bytes do.
-/

namespace LineShell.Text

/-! ## One byte after the other -/

/-- A byte in the range that is asked for gives its six bits to the code point. -/
theorem continueChar_byte {low high : UInt8} {n : Nat} (hlow : low.toNat ≤ n) (hhigh : n ≤ high.toNat)
    (follow value : Nat) (rest : Bytes) :
    continueChar (follow + 1) low high value (UInt8.ofNat n :: rest) =
      continueChar follow 0x80 0xBF (value * 64 + (n - 0x80)) rest := by
  have hn : (UInt8.ofNat n).toNat = n := by
    have := high.toNat_lt
    rw [UInt8.toNat_ofNat']
    omega
  have hrange : low ≤ UInt8.ofNat n ∧ UInt8.ofNat n ≤ high := by
    rw [UInt8.le_iff_toNat_le, UInt8.le_iff_toNat_le, hn]
    exact ⟨hlow, hhigh⟩
  rw [continueChar, if_pos hrange, hn]

/-- What the first byte of a character of two bytes promises. -/
theorem lead?_two {a : Nat} (hlow : 2 ≤ a) (hhigh : a < 32) :
    lead? (UInt8.ofNat (a + 0xC0)) = some ⟨1, 0x80, 0xBF, a⟩ := by
  interval_cases a <;> rfl

/-- What the first byte of a character of three bytes promises: the next byte is in its range
unless the character is too long for its code point or a surrogate. -/
theorem lead?_three {a b : Nat} (ha : a < 16) (hb : b < 64) (hlong : a = 0 → 32 ≤ b)
    (hsurrogate : a = 13 → b < 32) :
    ∃ low high, lead? (UInt8.ofNat (a + 0xE0)) = some ⟨2, low, high, a⟩ ∧
      low.toNat ≤ b + 0x80 ∧ b + 0x80 ≤ high.toNat := by
  by_cases hfirst : a = 0
  · subst hfirst
    exact ⟨0xA0, 0xBF, rfl, by simpa using hlong rfl, by simp; omega⟩
  by_cases hlast : a = 13
  · subst hlast
    exact ⟨0x80, 0x9F, rfl, by simp, by simp; omega⟩
  refine ⟨0x80, 0xBF, ?_, by simp, by simp; omega⟩
  interval_cases a <;> first | contradiction | rfl

/-- What the first byte of a character of four bytes promises: the next byte is in its range
unless the character is too long for its code point or beyond the last one. -/
theorem lead?_four {a b : Nat} (ha : a ≤ 4) (hb : b < 64) (hlong : a = 0 → 16 ≤ b)
    (hbeyond : a = 4 → b < 16) :
    ∃ low high, lead? (UInt8.ofNat (a + 0xF0)) = some ⟨3, low, high, a⟩ ∧
      low.toNat ≤ b + 0x80 ∧ b + 0x80 ≤ high.toNat := by
  by_cases hfirst : a = 0
  · subst hfirst
    exact ⟨0x90, 0xBF, rfl, by simpa using hlong rfl, by simp; omega⟩
  by_cases hlast : a = 4
  · subst hlast
    exact ⟨0x80, 0x8F, rfl, by simp, by simp; omega⟩
  refine ⟨0x80, 0xBF, ?_, by simp, by simp; omega⟩
  interval_cases a <;> first | contradiction | rfl

/-! ## Characters -/

/-- The bytes of a character: a single one that is ASCII, or a first one that promises how the others
are read, whatever is behind them. -/
inductive Spelt (c : Char) (rest : Bytes) : Bytes → Prop
  | ascii {b : UInt8} : b < 0x80 → Char.ofNat b.toNat = c → Spelt c rest [b]
  | long {b : UInt8} {more : Bytes} {lead : Lead} : ¬b < 0x80 → lead? b = some lead →
      continueChar lead.follow lead.low lead.high lead.bits (more ++ rest) = (some c.toNat, rest) →
      Spelt c rest (b :: more)

theorem not_ascii {n : Nat} (hlow : 0x80 ≤ n) (hhigh : n < 0x100) : ¬UInt8.ofNat n < 0x80 := by
  rw [UInt8.lt_iff_toNat_lt, UInt8.toNat_ofNat']
  simp
  omega

theorem spelt_encodeChar (c : Char) (rest : Bytes) : Spelt c rest (String.utf8EncodeChar c) := by
  have hvalid : c.toNat < 0xD800 ∨ 0xDFFF < c.toNat ∧ c.toNat < 0x110000 := c.valid
  unfold String.utf8EncodeChar
  rw [show c.val.toNat = c.toNat from rfl]
  generalize hv : c.toNat = v at hvalid
  simp only
  -- one case for each length; the bits that are spread over the bytes come to the character again
  split
  · next h =>
      have hn : (UInt8.ofNat v).toNat = v := by
        rw [UInt8.toNat_ofNat']
        omega
      refine .ascii ?_ ?_
      · rw [UInt8.lt_iff_toNat_lt, hn]
        simp
        omega
      · rw [hn, ← hv, Char.ofNat_toNat]
  split
  · have hlead := lead?_two (a := v / 64 % 32) (by omega) (by omega)
    refine .long (not_ascii (by omega) (by omega)) hlead
      ((continueChar_byte (by simp) (by simp; omega) ..).trans ?_)
    have hpoint : v / 64 % 32 * 64 + (v % 64 + 0x80 - 0x80) = v := by omega
    rw [continueChar, hpoint, hv]
    rfl
  split
  · obtain ⟨low, high, hlead, hlow, hhigh⟩ := lead?_three (a := v / 4096 % 16) (b := v / 64 % 64)
      (by omega) (by omega) (by omega) (by omega)
    refine .long (not_ascii (by omega) (by omega)) hlead ((continueChar_byte hlow hhigh ..).trans
      ((continueChar_byte (by simp) (by simp; omega) ..).trans ?_))
    have hpoint : (v / 4096 % 16 * 64 + (v / 64 % 64 + 0x80 - 0x80)) * 64 +
        (v % 64 + 0x80 - 0x80) = v := by omega
    rw [continueChar, hpoint, hv]
    rfl
  · obtain ⟨low, high, hlead, hlow, hhigh⟩ := lead?_four (a := v / 262144 % 8)
      (b := v / 4096 % 64) (by omega) (by omega) (by omega) (by omega)
    refine .long (not_ascii (by omega) (by omega)) hlead ((continueChar_byte hlow hhigh ..).trans
      ((continueChar_byte (by simp) (by simp; omega) ..).trans
        ((continueChar_byte (by simp) (by simp; omega) ..).trans ?_)))
    have hpoint : ((v / 262144 % 8 * 64 + (v / 4096 % 64 + 0x80 - 0x80)) * 64 +
        (v / 64 % 64 + 0x80 - 0x80)) * 64 + (v % 64 + 0x80 - 0x80) = v := by omega
    rw [continueChar, hpoint, hv]
    rfl

/-- The character of a code point is read back from its bytes, whatever is behind them. -/
theorem decode_encodeChar (c : Char) (rest : Bytes) :
    decode (String.utf8EncodeChar c ++ rest) = c :: decode rest := by
  have hspelt := spelt_encodeChar c rest
  generalize String.utf8EncodeChar c = bytes at hspelt ⊢
  cases hspelt with
  | ascii hascii hc =>
      rw [List.singleton_append, decode_cons, decodeChar, if_pos hascii, hc]
  | long hlong hlead hread =>
      rw [List.cons_append, decode_cons, decodeChar, if_neg hlong]
      simp [hlead, hread]

theorem encode_append (front back : List Char) :
    encode (front ++ back) = encode front ++ encode back := List.flatMap_append

/-- A text that is written as bytes is read back, whatever is behind it. -/
theorem decode_encode_append (text : List Char) (rest : Bytes) :
    decode (encode text ++ rest) = text ++ decode rest := by
  induction text with
  | nil => rfl
  | cons c text ih =>
      rw [encode, List.flatMap_cons, List.append_assoc, decode_encodeChar]
      exact congrArg (c :: ·) ih

/-- **A text that is written as bytes is read back as it was.** -/
theorem decode_encode (text : List Char) : decode (encode text) = text := by
  simpa using decode_encode_append text []

theorem encode_ne_nil {text : List Char} (h : text ≠ []) : encode text ≠ [] := by
  intro hnil
  rw [← decode_encode text, hnil] at h
  exact h decode_nil

/-- Bytes begin with those of a text exactly where they are read as something that begins with it. -/
theorem encode_prefix_iff {front text : List Char} :
    encode front <+: encode text ↔ front <+: text := by
  constructor
  · rintro ⟨rest, hrest⟩
    refine ⟨decode rest, ?_⟩
    rw [← decode_encode_append, hrest, decode_encode]
  · rintro ⟨back, rfl⟩
    exact ⟨encode back, (encode_append front back).symm⟩

end LineShell.Text
