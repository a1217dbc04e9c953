import LineShell.Proofs.Line.Clamping
import LineShell.Proofs.Line.Encoding

/-!
# Where a long line is cut

A line that takes more bytes than its limit is cut behind the last character that fits.

* **`Longest`** — of the texts that a line begins with, one is the longest that fits;
* **`Search`** — which positions are looked at until a boundary is found;
* **`exists_boundary_near`** — a boundary is at most three bytes away;
* **`clamp_longest`** — a line is cut to the longest text that fits, after four looks at most.
-/

namespace LineShell.Config

open Text

variable {text front other : List Char} {position stop limit : Nat} {looked : List Nat}

/-! ## Lengths -/

/-- A text takes as many bytes as its encoding has. -/
theorem length_encode (text : List Char) : (encode text).length = byteLength text := by
  induction text with
  | nil => rfl
  | cons c rest ih =>
      rw [encode, List.flatMap_cons, List.length_append, String.length_utf8EncodeChar, byteLength]
      exact congrArg (c.utf8Size + ·) ih

theorem length_bytesOf (text : List Char) :
    (bytesOf (String.ofList text)).length = byteLength text := by
  unfold bytesOf
  rw [String.toList_ofList, length_encode]

/-- What fits takes no more bytes than there are. -/
theorem byteLength_takeBytes_le (text : List Char) (limit : Nat) :
    byteLength (takeBytes text limit) ≤ limit := by
  induction text generalizing limit with
  | nil => exact Nat.zero_le limit
  | cons c rest ih =>
      rw [takeBytes]
      split
      · have hrest := ih (limit - c.utf8Size)
        rw [byteLength]
        omega
      · exact Nat.zero_le limit

/-- Nothing is lost of a line exactly if all of it fits. -/
theorem ofList_takeBytes_eq_iff (line : String) (limit : Nat) :
    String.ofList (takeBytes line.toList limit) = line ↔ byteLength line.toList ≤ limit := by
  rw [← String.toList_inj, String.toList_ofList]
  constructor
  · intro h
    have hfits := byteLength_takeBytes_le line.toList limit
    rwa [h] at hfits
  · exact takeBytes_of_le

/-- What a text begins with is part of what fits, if it fits itself. -/
theorem prefix_takeBytes (hbegins : other <+: text) (hfits : byteLength other ≤ limit) :
    other <+: takeBytes text limit := by
  obtain ⟨back, rfl⟩ := hbegins
  rw [takeBytes_append, if_pos hfits]
  exact List.prefix_append other _

/-- The characters before a boundary take all the bytes before it. -/
theorem byteLength_takeBytes (h : isBoundary text position = true) :
    byteLength (takeBytes text position) = position := by
  induction text generalizing position with
  | nil => cases position <;> simp_all [isBoundary, takeBytes, byteLength]
  | cons c rest ih =>
      have hsize := c.utf8Size_pos
      cases position with
      | zero =>
          rw [takeBytes, if_neg (by omega)]
          rfl
      | succ position =>
          simp only [isBoundary, Bool.and_eq_true, decide_eq_true_eq] at h
          rw [takeBytes, if_pos h.1, byteLength, ih h.2]
          omega

/-! ## Boundaries -/

theorem isBoundary_zero (text : List Char) : isBoundary text 0 = true := by
  cases text <;> rfl

/-- Behind the first character, the boundaries are those of the rest. -/
theorem isBoundary_cons_add (c : Char) (rest : List Char) (position : Nat) :
    isBoundary (c :: rest) (c.utf8Size + position) = isBoundary rest position := by
  have hsize := c.utf8Size_pos
  rw [isBoundary, Nat.add_sub_cancel_left, decide_eq_true (Nat.le_add_right _ _), Bool.true_and]
  omega

/-- No character takes more than four bytes, so that a boundary is at most three bytes away from any
position in a text. -/
theorem exists_boundary_near (h : position ≤ byteLength text) :
    ∃ stop, stop ≤ position ∧ position ≤ stop + 3 ∧ isBoundary text stop = true := by
  induction text generalizing position with
  | nil =>
      rw [byteLength] at h
      exact ⟨0, by omega, by omega, rfl⟩
  | cons c rest ih =>
      have hsize := c.utf8Size_le_four
      rw [byteLength] at h
      by_cases hinside : position < c.utf8Size
      · -- the position is in the first character, and the text begins with a boundary
        exact ⟨0, by omega, by omega, isBoundary_zero _⟩
      · have hrest : position - c.utf8Size ≤ byteLength rest := by omega
        obtain ⟨stop, hle, hnear, hstop⟩ := ih hrest
        refine ⟨c.utf8Size + stop, by omega, by omega, ?_⟩
        rw [isBoundary_cons_add, hstop]

theorem isBoundary_boundaryBelow (text : List Char) (position : Nat) :
    isBoundary text (boundaryBelow text position) = true := by
  induction position with
  | zero => exact isBoundary_zero text
  | succ position ih =>
      rw [boundaryBelow]
      split
      · assumption
      · exact ih

/-- No boundary is passed over. -/
theorem le_boundaryBelow (hstop : isBoundary text stop = true) (hle : stop ≤ position) :
    stop ≤ boundaryBelow text position := by
  induction position with
  | zero => exact hle
  | succ position ih =>
      rw [boundaryBelow]
      split
      · exact hle
      · next hnot =>
        apply ih
        have hne : stop ≠ position + 1 := fun heq => hnot (heq ▸ hstop)
        omega

/-- The text that is left ends at the last boundary. -/
theorem byteLength_takeBytes_eq (text : List Char) (limit : Nat) :
    byteLength (takeBytes text limit) = boundaryBelow text limit := by
  rw [← takeBytes_boundaryBelow, byteLength_takeBytes (isBoundary_boundaryBelow text limit)]

/-! ## The search for a boundary -/

/-- `Search text position looked stop`: a search that begins at a position looks at these positions,
one after the other, and stops at the last of them, which is the first boundary. From any other
position it goes on to the one before, and from the beginning of the text it cannot go on. -/
inductive Search (text : List Char) : Nat → List Nat → Nat → Prop
  | found {position : Nat} : isBoundary text position = true →
      Search text position [position] position
  | back {position stop : Nat} {looked : List Nat} : isBoundary text (position + 1) = false →
      Search text position looked stop → Search text (position + 1) ((position + 1) :: looked) stop

/-- A search comes to the last boundary from wherever it begins. -/
theorem exists_search (text : List Char) (position : Nat) :
    ∃ looked, Search text position looked (boundaryBelow text position) := by
  induction position with
  | zero => exact ⟨[0], .found (isBoundary_zero text)⟩
  | succ position ih =>
      rw [boundaryBelow]
      split
      · next hfound => exact ⟨[position + 1], .found hfound⟩
      · next hnot =>
        obtain ⟨looked, hsearch⟩ := ih
        exact ⟨(position + 1) :: looked, .back (by simpa using hnot) hsearch⟩

/-- No position is left out between the first one and the last one. -/
theorem Search.length_add (h : Search text position looked stop) :
    looked.length + stop = position + 1 := by
  induction h with
  | found => rw [List.length_singleton, Nat.add_comm]
  | back _ _ ih =>
      rw [List.length_cons]
      omega

/-- In a text that is longer than the limit, a boundary is found with the fourth look at the
latest. -/
theorem exists_short_search (h : limit ≤ byteLength text) :
    limit - 3 ≤ boundaryBelow text limit ∧
      ∃ looked, Search text limit looked (boundaryBelow text limit) ∧ looked.length ≤ 4 := by
  obtain ⟨stop, hle, hnear, hstop⟩ := exists_boundary_near h
  have hbelow := le_boundaryBelow hstop hle
  obtain ⟨looked, hsearch⟩ := exists_search text limit
  have hlength := hsearch.length_add
  exact ⟨by omega, looked, hsearch, by omega⟩

/-! ## Lines -/

/-- Of the texts whose bytes a line begins with, this is the longest one that takes so many bytes at
most. -/
structure Longest (limit : Nat) (line left : String) : Prop where
  begins : bytesOf left <+: bytesOf line
  fits : (bytesOf left).length ≤ limit
  longest : ∀ other, bytesOf other <+: bytesOf line → (bytesOf other).length ≤ limit →
    bytesOf other <+: bytesOf left

theorem clamp_eq (config : Config) (line : String) : config.clamp line =
    (String.ofList (takeBytes line.toList (config.maxLineLength - 1)),
      !decide (byteLength line.toList ≤ config.maxLineLength - 1)) := by
  unfold clamp
  dsimp only
  rw [clampTo_eq_takeBytes]

theorem longest_takeBytes (limit : Nat) (line : String) :
    Longest limit line (String.ofList (takeBytes line.toList limit)) where
  begins := by
    unfold bytesOf
    rw [String.toList_ofList, encode_prefix_iff]
    exact takeBytes_isPrefix _ _
  fits := by
    rw [length_bytesOf]
    exact byteLength_takeBytes_le _ _
  longest := by
    intro other hbegins hfits
    unfold bytesOf at hbegins hfits ⊢
    rw [encode_prefix_iff] at hbegins ⊢
    rw [length_encode] at hfits
    rw [String.toList_ofList]
    exact prefix_takeBytes hbegins hfits

/-- **Long lines are cut behind the last character that fits.** For every line and every limit, what
is left is the longest text that the line begins with and that takes no more bytes than the limit
without the line feed. Something is said to be dropped exactly if what is left is not the line; then
at most three bytes are given away, and the last boundary is found after four looks at most, none of
them in front of the text. To cut the line once more drops nothing, and with a greater limit it goes
on as with the smaller one. -/
theorem clamp_longest (config : Config) (line : String) :
    Longest (config.maxLineLength - 1) line (config.clamp line).1 ∧
    ((config.clamp line).2 = true ↔ (config.clamp line).1 ≠ line) ∧
    ((config.clamp line).2 = true →
      config.maxLineLength - 1 - 3 ≤ (bytesOf (config.clamp line).1).length ∧
      ∃ looked, Search line.toList (config.maxLineLength - 1) looked
        (bytesOf (config.clamp line).1).length ∧ looked.length ≤ 4) ∧
    config.clamp (config.clamp line).1 = ((config.clamp line).1, false) ∧
    ∀ wider : Config, config.maxLineLength ≤ wider.maxLineLength →
      bytesOf (config.clamp line).1 <+: bytesOf (wider.clamp line).1 := by
  simp only [clamp_eq, String.toList_ofList]
  generalize hlimit : config.maxLineLength - 1 = limit
  have hle : byteLength (takeBytes line.toList limit) ≤ limit := byteLength_takeBytes_le _ _
  refine ⟨longest_takeBytes limit line, ?_, ?_, ?_, ?_⟩
  · rw [Bool.not_eq_true', decide_eq_false_iff_not, Ne, ofList_takeBytes_eq_iff]
  · intro hcut
    have hlong : limit < byteLength line.toList := by simpa using hcut
    rw [length_bytesOf, byteLength_takeBytes_eq]
    exact exists_short_search (Nat.le_of_lt hlong)
  · rw [takeBytes_of_le hle]
    simpa using hle
  · intro wider hwider
    apply (longest_takeBytes (wider.maxLineLength - 1) line).longest
    · exact (longest_takeBytes limit line).begins
    · have hfits := (longest_takeBytes limit line).fits
      omega

end LineShell.Config
