import LineShell.Proofs.Line.Boundaries
import LineShell.Proofs.Line.Encoding

/-!
# How any bytes are read as a text

A piece of the bytes that encodes a character is read as that character, and up to three bytes that
no character begins with are read as one replacement, which takes three bytes itself.

* **`eq_encodeChar_of_lead`** — only the encoding of a character is read as a code point;
* **`Reads`** — bytes as one piece after the other, and how many bytes more their text takes;
* **`exists_reads`** — any bytes are read piece by piece as what they are decoded into;
* **`Reads.length_add`** — the text is longer than the bytes by what its replacements are longer;
* **`decode_append_ascii`** — decoding and a cut before an ASCII byte commute, also where a character
  stops short there.
-/

namespace LineShell.Text

variable {b low high : UInt8} {lead : Lead} {follow value point extra : Nat} {c : Char}
  {bytes rest left : Bytes} {text : List Char}

/-! ## Characters of several bytes -/

/-- What the first byte of a character of several bytes promises, by their number. -/
inductive Promise (b : UInt8) : Lead → Prop
  | two {bits : Nat} : b.toNat = 0xC0 + bits → 2 ≤ bits → bits < 32 → Promise b ⟨1, 0x80, 0xBF, bits⟩
  | three {low high : UInt8} {bits : Nat} : b.toNat = 0xE0 + bits → bits < 16 → 0x80 ≤ low.toNat →
      high.toNat ≤ 0xBF → (bits = 0 → 0xA0 ≤ low.toNat) → (bits = 13 → high.toNat ≤ 0x9F) →
      Promise b ⟨2, low, high, bits⟩
  | four {low high : UInt8} {bits : Nat} : b.toNat = 0xF0 + bits → bits ≤ 4 → 0x80 ≤ low.toNat →
      high.toNat ≤ 0xBF → (bits = 0 → 0x90 ≤ low.toNat) → (bits = 4 → high.toNat ≤ 0x8F) →
      Promise b ⟨3, low, high, bits⟩

theorem promise_of_lead? (h : lead? b = some lead) : Promise b lead := by
  unfold lead? at h
  simp only [UInt8.lt_iff_toNat_lt, ← UInt8.toNat_inj] at h
  repeat' split at h
  all_goals cases h
  · refine .two ?_ ?_ ?_ <;> simp_all <;> omega
  all_goals first
    | refine .three ?_ ?_ ?_ ?_ ?_ ?_ <;> simp_all <;> omega
    | refine .four ?_ ?_ ?_ ?_ ?_ ?_ <;> simp_all <;> omega

/-- At most three bytes follow, and the next one is not ASCII. -/
theorem Promise.bounds (h : Promise b lead) : lead.follow ≤ 3 ∧ 0x80 ≤ lead.low := by
  rw [UInt8.le_iff_toNat_le]
  cases h with
  | two =>
      show 1 ≤ 3 ∧ (0x80 : UInt8).toNat ≤ (0x80 : UInt8).toNat
      exact ⟨by decide, Nat.le_refl _⟩
  | three _ _ hlow => exact ⟨Nat.le_succ 2, hlow⟩
  | four _ _ hlow => exact ⟨Nat.le_refl 3, hlow⟩

/-- A character that is read on needs a byte in the range that is asked for. -/
theorem continueChar_succ_eq_some
    (h : continueChar (follow + 1) low high value bytes = (some point, left)) :
    ∃ next rest, bytes = next :: rest ∧ low.toNat ≤ next.toNat ∧ next.toNat ≤ high.toNat ∧
      continueChar follow 0x80 0xBF (value * 64 + (next.toNat - 0x80)) rest = (some point, left) := by
  cases bytes with
  | nil => cases h
  | cons next rest =>
      rw [continueChar] at h
      split at h
      · next hrange =>
        exact ⟨next, rest, rfl, UInt8.le_iff_toNat_le.mp hrange.1, UInt8.le_iff_toNat_le.mp hrange.2, h⟩
      · cases h

/-- So it is with the bytes behind the next one, of which any in the whole range will do. -/
theorem continueChar_further (h : continueChar (follow + 1) 0x80 0xBF value bytes = (some point, left)) :
    ∃ next rest, bytes = next :: rest ∧ 0x80 ≤ next.toNat ∧ next.toNat ≤ 0xBF ∧
      continueChar follow 0x80 0xBF (value * 64 + (next.toNat - 0x80)) rest = (some point, left) :=
  continueChar_succ_eq_some h

theorem continueChar_zero_eq_some (h : continueChar 0 low high value bytes = (some point, left)) :
    value = point ∧ bytes = left := by
  rw [continueChar, Prod.mk.injEq, Option.some.injEq] at h
  exact h

theorem toNat_val_ofNat (h : point.isValidChar) : (Char.ofNat point).val.toNat = point := by
  unfold Char.ofNat
  rw [dif_pos h]
  rfl

/-- An ASCII byte encodes the character of its number. -/
theorem encodeChar_ascii (h : b < 0x80) : String.utf8EncodeChar (Char.ofNat b.toNat) = [b] := by
  have hb : b.toNat < 0x80 := UInt8.lt_iff_toNat_lt.mp h
  unfold String.utf8EncodeChar
  rw [toNat_val_ofNat (.inl (by omega))]
  simp only
  rw [if_pos (by omega), UInt8.ofNat_toNat]

/-- **Only the encoding of a character is read as a code point.** -/
theorem eq_encodeChar_of_lead (hlead : lead? b = some lead)
    (h : continueChar lead.follow lead.low lead.high lead.bits rest = (some point, left)) :
    b :: rest = String.utf8EncodeChar (Char.ofNat point) ++ left := by
  have hbyte : ∀ {n : Nat} {x : UInt8}, n = x.toNat → UInt8.ofNat n = x := by
    rintro n x rfl
    exact UInt8.ofNat_toNat
  unfold String.utf8EncodeChar
  -- by the number of bytes: their ranges make the code point one that takes so many, and no surrogate
  cases promise_of_lead? hlead with
  | two hb hlow hhigh =>
      dsimp only at h
      obtain ⟨x, more, rfl, hx, hx', h⟩ := continueChar_further h
      obtain ⟨hpoint, rfl⟩ := continueChar_zero_eq_some h
      have hvalid : point.isValidChar := .inl (by omega)
      rw [toNat_val_ofNat hvalid]
      simp only
      rw [if_neg (by omega), if_pos (by omega), hbyte (x := b) (by omega), hbyte (x := x) (by omega)]
      rfl
  | three hb hbits hlow hhigh hlong hsurrogate =>
      dsimp only at h
      obtain ⟨x, more, rfl, hx, hx', h⟩ := continueChar_succ_eq_some h
      obtain ⟨y, more, rfl, hy, hy', h⟩ := continueChar_further h
      obtain ⟨hpoint, rfl⟩ := continueChar_zero_eq_some h
      have hvalid : point.isValidChar := by
        unfold Nat.isValidChar
        omega
      rw [toNat_val_ofNat hvalid]
      simp only
      rw [if_neg (by omega), if_neg (by omega), if_pos (by omega), hbyte (x := b) (by omega),
        hbyte (x := x) (by omega), hbyte (x := y) (by omega)]
      rfl
  | four hb hbits hlow hhigh hlong hbeyond =>
      dsimp only at h
      obtain ⟨x, more, rfl, hx, hx', h⟩ := continueChar_succ_eq_some h
      obtain ⟨y, more, rfl, hy, hy', h⟩ := continueChar_further h
      obtain ⟨z, more, rfl, hz, hz', h⟩ := continueChar_further h
      obtain ⟨hpoint, rfl⟩ := continueChar_zero_eq_some h
      have hvalid : point.isValidChar := by
        unfold Nat.isValidChar
        omega
      rw [toNat_val_ofNat hvalid]
      simp only
      rw [if_neg (by omega), if_neg (by omega), if_neg (by omega), hbyte (x := b) (by omega),
        hbyte (x := x) (by omega), hbyte (x := y) (by omega), hbyte (x := z) (by omega)]
      rfl

/-- Reading on in a character gives up within the bytes that it asked for. -/
theorem continueChar_eq_none (h : continueChar follow low high value bytes = (none, left)) :
    ∃ read, bytes = read ++ left ∧ read.length < follow := by
  induction follow generalizing low high value bytes with
  | zero => cases h
  | succ follow ih =>
      cases bytes with
      | nil =>
          cases h
          exact ⟨[], rfl, Nat.succ_pos follow⟩
      | cons next rest =>
          rw [continueChar] at h
          split at h
          · obtain ⟨read, rfl, hshort⟩ := ih h
            exact ⟨next :: read, rfl, Nat.succ_lt_succ hshort⟩
          · cases h
            exact ⟨[], rfl, Nat.succ_pos follow⟩

/-! ## Pieces -/

/-- `Reads bytes text extra`: the bytes are read piece by piece as the text, which takes so many bytes
more than they are. -/
inductive Reads : Bytes → List Char → Nat → Prop
  | nil : Reads [] [] 0
  | spelled {rest : Bytes} {text : List Char} {extra : Nat} (c : Char) : Reads rest text extra →
      Reads (String.utf8EncodeChar c ++ rest) (c :: text) extra
  | replaced {part rest : Bytes} {text : List Char} {extra : Nat} : part ≠ [] → part.length ≤ 3 →
      (∀ c, ¬String.utf8EncodeChar c <+: part ++ rest) → Reads rest text extra →
      Reads (part ++ rest) (replacement :: text) (extra + (3 - part.length))

/-- No character begins with a byte from which none can be read. -/
theorem not_begins_encodeChar (hlong : ¬b < 0x80) (hnone : ∀ lead, lead? b = some lead →
    (continueChar lead.follow lead.low lead.high lead.bits rest).1 = none) (c : Char) :
    ¬String.utf8EncodeChar c <+: b :: rest := by
  rintro ⟨behind, hbehind⟩
  have hspelt := spelt_encodeChar c behind
  generalize String.utf8EncodeChar c = spelling at hbehind hspelt
  cases hspelt with
  | ascii hascii _ =>
      cases hbehind
      exact hlong hascii
  | long _ hlead hread =>
      rw [List.cons_append] at hbehind
      obtain ⟨rfl, rfl⟩ := List.cons.inj hbehind
      have hsome := hnone _ hlead
      rw [hread] at hsome
      cases hsome

/-- One piece is read, and the rest after it. -/
theorem reads_cons (h : Reads (decodeChar b rest).2 text extra) :
    ∃ more, Reads (b :: rest) ((decodeChar b rest).1 :: text) more := by
  unfold decodeChar at h ⊢
  by_cases hascii : b < 0x80
  · -- a character of its own
    rw [if_pos hascii] at h ⊢
    have hspelled := Reads.spelled (Char.ofNat b.toNat) h
    rw [encodeChar_ascii hascii] at hspelled
    exact ⟨extra, hspelled⟩
  rw [if_neg hascii] at h ⊢
  cases hlead : lead? b with
  | none =>
      rw [hlead] at h
      have hpiece : ∀ c, ¬String.utf8EncodeChar c <+: [b] ++ rest :=
        not_begins_encodeChar hascii fun lead hsome => by
          rw [hlead] at hsome
          cases hsome
      exact ⟨_, .replaced (List.cons_ne_nil b []) (by simp) hpiece h⟩
  | some lead =>
      rw [hlead] at h
      dsimp only at h ⊢
      rcases hread : continueChar lead.follow lead.low lead.high lead.bits rest with ⟨_ | point, left⟩
      · -- the character stops short, and the bytes up to there are replaced
        rw [hread] at h
        obtain ⟨read, rfl, hshort⟩ := continueChar_eq_none hread
        have hpiece : ∀ c, ¬String.utf8EncodeChar c <+: (b :: read) ++ left := by
          rw [List.cons_append]
          refine not_begins_encodeChar hascii fun lead' hsome => ?_
          cases hlead.symm.trans hsome
          rw [hread]
        have hlength : (b :: read).length ≤ 3 := by
          have hfollow := (promise_of_lead? hlead).bounds.1
          rw [List.length_cons]
          omega
        exact ⟨_, .replaced (List.cons_ne_nil b read) hlength hpiece h⟩
      · rw [hread] at h
        rw [eq_encodeChar_of_lead hlead hread]
        exact ⟨extra, .spelled (Char.ofNat point) h⟩

/-- **Any bytes are read piece by piece as what they are decoded into.** -/
theorem exists_reads (bytes : Bytes) : ∃ extra, Reads bytes (decode bytes) extra := by
  -- by the number of bytes, of which each piece takes one at least
  induction hlength : bytes.length using Nat.strongRecOn generalizing bytes with
  | ind length ih =>
    cases bytes with
    | nil =>
        rw [decode_nil]
        exact ⟨0, .nil⟩
    | cons b rest =>
        have hshorter : (decodeChar b rest).2.length < length :=
          hlength ▸ Nat.lt_succ_of_le (length_decodeChar_le b rest)
        obtain ⟨extra, hread⟩ := ih _ hshorter _ rfl
        rw [decode_cons]
        exact reads_cons hread

namespace Reads

/-- **The text takes the bytes that are read and what its replacements take beyond theirs.** -/
theorem byteLength_eq (h : Reads bytes text extra) :
    Config.byteLength text = bytes.length + extra := by
  induction h with
  | nil => rfl
  | spelled c _ ih =>
      rw [Config.byteLength, ih, List.length_append, String.length_utf8EncodeChar]
      omega
  | replaced _ hshort _ _ ih =>
      have hsize : replacement.utf8Size = 3 := by decide
      rw [Config.byteLength, ih, List.length_append, hsize]
      omega

/-- Each byte gives at most two more. -/
theorem extra_le (h : Reads bytes text extra) : extra ≤ 2 * bytes.length := by
  induction h with
  | nil => exact Nat.le_refl 0
  | spelled c _ ih =>
      rw [List.length_append]
      omega
  | replaced hne _ _ _ ih =>
      have hpos := List.length_pos_iff.mpr hne
      rw [List.length_append]
      omega

/-- A text that was written as bytes is read without a replacement. -/
theorem extra_eq_zero (h : Reads (encode text) (decode (encode text)) extra) : extra = 0 := by
  have hlength := h.byteLength_eq
  rw [decode_encode, Config.length_encode] at hlength
  omega

/-- What is read last, unless it is a replacement, stands at the end of the bytes. -/
theorem exists_last (h : Reads bytes (text ++ [c]) extra) (hc : c ≠ replacement) :
    ∃ front, bytes = front ++ String.utf8EncodeChar c := by
  generalize hwhole : text ++ [c] = whole at h
  induction h generalizing text with
  | nil => exact absurd hwhole (by simp)
  | spelled d hrest ih =>
      -- the character is the last one, or it is in the rest
      cases text with
      | nil =>
          obtain ⟨rfl, rfl⟩ := List.cons.inj hwhole
          cases hrest
          exact ⟨[], List.append_nil _⟩
      | cons e text =>
          obtain ⟨front, rfl⟩ := ih (List.cons.inj hwhole).2
          exact ⟨String.utf8EncodeChar d ++ front, (List.append_assoc ..).symm⟩
  | replaced _ _ _ hrest ih =>
      cases text with
      | nil => exact absurd (List.cons.inj hwhole).1 hc
      | cons e text =>
          obtain ⟨front, rfl⟩ := ih (List.cons.inj hwhole).2
          exact ⟨_ ++ front, (List.append_assoc ..).symm⟩

/-- What is read anywhere, unless it is a replacement, stands in the bytes. -/
theorem encodeChar_subset (h : Reads bytes text extra) (hmem : c ∈ text) (hc : c ≠ replacement) :
    String.utf8EncodeChar c ⊆ bytes := by
  induction h with
  | nil => cases hmem
  | spelled d _ ih =>
      rcases List.mem_cons.mp hmem with rfl | hrest
      · exact List.subset_append_left _ _
      · exact List.subset_append_of_subset_right _ (ih hrest)
  | replaced _ _ _ _ ih =>
      have hrest := (List.mem_cons.mp hmem).resolve_left hc
      exact List.subset_append_of_subset_right _ (ih hrest)

end Reads

/-! ## Cuts before an ASCII byte -/

/-- Reading on in a character stops at an ASCII byte, whatever is behind it. -/
theorem continueChar_append_ascii (hb : b < 0x80) (hlow : 0x80 ≤ low) (follow : Nat) (high : UInt8)
    (value : Nat) (line rest : Bytes) :
    continueChar follow low high value (line ++ b :: rest) =
      ((continueChar follow low high value line).1,
        (continueChar follow low high value line).2 ++ b :: rest) := by
  induction follow generalizing low high value line with
  | zero => rfl
  | succ follow ih =>
      cases line with
      | nil =>
          have hstop : ¬(low ≤ b ∧ b ≤ high) := fun h =>
            absurd (UInt8.le_trans hlow h.1) (UInt8.not_le.mpr hb)
          simp only [List.nil_append, continueChar, if_neg hstop]
      | cons x line =>
          simp only [List.cons_append, continueChar]
          split
          · exact ih (by decide) 0xBF _ line
          · rfl

theorem decodeChar_append_ascii (hb : b < 0x80) (x : UInt8) (line rest : Bytes) :
    decodeChar x (line ++ b :: rest) =
      ((decodeChar x line).1, (decodeChar x line).2 ++ b :: rest) := by
  unfold decodeChar
  split
  · rfl
  · split
    · rfl
    · next lead hlead =>
      simp only [continueChar_append_ascii hb (promise_of_lead? hlead).bounds.2]

/-- **Decoding and a cut before an ASCII byte commute.** -/
theorem decode_append_ascii (hb : b < 0x80) (line rest : Bytes) :
    decode (line ++ b :: rest) = decode line ++ Char.ofNat b.toNat :: decode rest := by
  induction hlength : line.length using Nat.strongRecOn generalizing line with
  | ind length ih =>
    cases line with
    | nil =>
        rw [List.nil_append, decode_cons, decode_nil, decodeChar, if_pos hb]
        rfl
    | cons x line =>
        have hshorter : (decodeChar x line).2.length < length :=
          hlength ▸ Nat.lt_succ_of_le (length_decodeChar_le x line)
        rw [List.cons_append, decode_cons, decodeChar_append_ascii hb, ih _ hshorter _ rfl,
          decode_cons]
        rfl

/-- A character that stops short does not take the line feed with it. -/
example : decode [0xE2, 0x82, 10, 97] = ['\uFFFD', '\n', 'a'] := by cbv

end LineShell.Text
