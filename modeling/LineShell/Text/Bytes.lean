/-!
# Byte strings

File contents, file names, arguments of programs and everything that flows through a pipe are
byte strings. A string enters them by its UTF-8 encoding.

- **`encode`** writes characters as UTF-8.
- **`decode`** reads any bytes: each maximal part that no character begins with becomes one
  U+FFFD, and the rest is read as it stands.
-/

namespace LineShell

/-- A sequence of bytes. -/
abbrev Bytes := List UInt8

namespace Text

/-- The UTF-8 encoding of a sequence of characters. -/
def encode (text : List Char) : Bytes := text.flatMap String.utf8EncodeChar

/-- The UTF-8 encoding of a string. -/
def bytesOf (text : String) : Bytes := encode text.toList

/-- The character that stands for bytes that encode nothing. -/
def replacement : Char := '\uFFFD'

/-- What the first byte of a character of several bytes promises: how many bytes follow, the
range of the next one, and the bits the first byte gives to the code point. -/
structure Lead where
  /-- How many bytes follow. -/
  follow : Nat
  /-- The least byte that may come next. -/
  low : UInt8
  /-- The greatest byte that may come next. -/
  high : UInt8
  /-- The bits of the first byte that belong to the code point. -/
  bits : Nat

/-- The promise of a byte above `0x7F`, when it begins a character. -/
def lead? (b : UInt8) : Option Lead :=
  if b < 0xC2 then none
  else if b < 0xE0 then some ⟨1, 0x80, 0xBF, b.toNat - 0xC0⟩
  else if b = 0xE0 then some ⟨2, 0xA0, 0xBF, 0⟩
  else if b = 0xED then some ⟨2, 0x80, 0x9F, 0xD⟩
  else if b < 0xF0 then some ⟨2, 0x80, 0xBF, b.toNat - 0xE0⟩
  else if b = 0xF0 then some ⟨3, 0x90, 0xBF, 0⟩
  else if b < 0xF4 then some ⟨3, 0x80, 0xBF, b.toNat - 0xF0⟩
  else if b = 0xF4 then some ⟨3, 0x80, 0x8F, 4⟩
  else none

/-- Reads `follow` further bytes of a character, the next one from the given range. The code
point is missing when the bytes stop short or leave the range; what was not read comes back. -/
def continueChar : (follow : Nat) → (low high : UInt8) → (value : Nat) → Bytes → Option Nat × Bytes
  | 0, _, _, value, rest => (some value, rest)
  | _ + 1, _, _, _, [] => (none, [])
  | follow + 1, low, high, value, b :: rest =>
      if low ≤ b ∧ b ≤ high then
        continueChar follow 0x80 0xBF (value * 64 + (b.toNat - 0x80)) rest
      else (none, b :: rest)

/-- Reading on never lengthens what is left. -/
theorem length_continueChar_le (follow : Nat) (low high : UInt8) (value : Nat) (bytes : Bytes) :
    (continueChar follow low high value bytes).2.length ≤ bytes.length := by
  induction follow generalizing low high value bytes with
  | zero => simp [continueChar]
  | succ follow ih =>
      cases bytes with
      | nil => simp [continueChar]
      | cons b rest =>
          simp only [continueChar]
          split
          · exact Nat.le_succ_of_le (ih ..)
          · simp

/-- The first character of a non-empty byte string, and the bytes after it. -/
def decodeChar (b : UInt8) (rest : Bytes) : Char × Bytes :=
  if b < 0x80 then (Char.ofNat b.toNat, rest)
  else match lead? b with
    | none => (replacement, rest)
    | some lead =>
        let read := continueChar lead.follow lead.low lead.high lead.bits rest
        ((read.1.map Char.ofNat).getD replacement, read.2)

/-- Decoding a character consumes at least its first byte. -/
theorem length_decodeChar_le (b : UInt8) (rest : Bytes) :
    (decodeChar b rest).2.length ≤ rest.length := by
  unfold decodeChar
  split
  · simp
  · split
    · simp
    · exact length_continueChar_le ..

/-- The characters of some bytes behind those already read, which come last first. -/
def decodeOnto (read : List Char) : Bytes → List Char
  | [] => read.reverse
  | b :: rest => decodeOnto ((decodeChar b rest).1 :: read) (decodeChar b rest).2
termination_by bytes => bytes.length
decreasing_by exact Nat.lt_succ_of_le (length_decodeChar_le b rest)

/-- The characters of any byte string, a replacement standing for each maximal part that
encodes nothing. -/
def decode (bytes : Bytes) : List Char := decodeOnto [] bytes

/-- What has been read comes before what is read on. -/
theorem decodeOnto_eq (read : List Char) (bytes : Bytes) :
    decodeOnto read bytes = read.reverse ++ decode bytes := by
  induction hn : bytes.length using Nat.strongRecOn generalizing read bytes with
  | ind n ih =>
    cases bytes with
    | nil => simp [decode, decodeOnto]
    | cons b rest =>
      have shorter : (decodeChar b rest).2.length < n :=
        hn ▸ Nat.lt_succ_of_le (length_decodeChar_le b rest)
      rw [decode, decodeOnto, decodeOnto, ih _ shorter _ _ rfl, ih _ shorter [_] _ rfl]
      simp

/-- Nothing encodes no characters. -/
@[simp] theorem decode_nil : decode [] = [] := by simp [decode, decodeOnto]

/-- The first character comes before those of the bytes after it. -/
theorem decode_cons (b : UInt8) (rest : Bytes) :
    decode (b :: rest) = (decodeChar b rest).1 :: decode (decodeChar b rest).2 := by
  rw [decode, decodeOnto, decodeOnto_eq]
  simp

/-- The text of any byte string. -/
def textOf (bytes : Bytes) : String := String.ofList (decode bytes)

/-- The lines of a byte string: it is cut after every delimiter, and a last piece without one is
a line unless it is empty. The delimiters stay with their lines. -/
def linesBy (delimiter : UInt8) (bytes : Bytes) : List Bytes :=
  bytes.foldr (fun b later =>
    if b = delimiter then [b] :: later
    else match later with
      | [] => [[b]]
      | line :: more => (b :: line) :: more) []

/-- The lines of a byte string, which end with line feeds. -/
def lines (bytes : Bytes) : List Bytes := linesBy 10 bytes

/-- Nothing has no lines. -/
@[simp] theorem lines_nil : lines [] = [] := rfl

/-- A line feed ends a line; any other byte belongs to the first line of what follows. -/
theorem lines_cons (b : UInt8) (rest : Bytes) :
    lines (b :: rest) =
      if b = 10 then [b] :: lines rest
      else match lines rest with
        | [] => [[b]]
        | line :: more => (b :: line) :: more := rfl

/-- The pieces between the occurrences of a byte; there is one more of them than occurrences. -/
def cut (separator : UInt8) (bytes : Bytes) : List Bytes :=
  bytes.foldr (fun b later =>
    match later with
    | [] => [[]]
    | piece :: more => if b = separator then [] :: piece :: more else (b :: piece) :: more) [[]]

/-- Byte strings in the order of their bytes. -/
def bytesLe : Bytes → Bytes → Bool
  | [], _ => true
  | _ :: _, [] => false
  | a :: as, b :: bs => a < b || (a == b && bytesLe as bs)

/-- The decimal spelling of a number, as bytes. -/
def decimal (n : Nat) : Bytes := (Nat.toDigits 10 n).map fun digit => UInt8.ofNat digit.toNat

/-- A byte string that holds one ASCII digit after another, read as a number. -/
def number? (digits : Bytes) : Option Nat :=
  if digits.isEmpty then none
  else digits.foldl (fun value b =>
    value.bind fun n => if 48 ≤ b ∧ b ≤ 57 then some (n * 10 + (b.toNat - 48)) else none) (some 0)

end Text

end LineShell
