import LineShell.Text.Bytes

/-!
# Classes of bytes

Utilities sort the characters of text into classes. Here a character is a byte, and only those
below 128 belong to a class.

- **`inClass?`** tests a byte for a class that is given by its name.
- **`upper`** and **`lower`** change the case of a letter.
-/

namespace LineShell.Text

/-- A capital letter. -/
def isUpper (b : UInt8) : Bool := 65 ≤ b && b ≤ 90

/-- A small letter. -/
def isLower (b : UInt8) : Bool := 97 ≤ b && b ≤ 122

/-- A letter. -/
def isAlpha (b : UInt8) : Bool := isUpper b || isLower b

/-- A decimal digit. -/
def isDigit (b : UInt8) : Bool := 48 ≤ b && b ≤ 57

/-- A letter or a digit. -/
def isAlnum (b : UInt8) : Bool := isAlpha b || isDigit b

/-- A blank, or a control character that moves on as a blank does. -/
def isSpace (b : UInt8) : Bool := b == 32 || (9 ≤ b && b ≤ 13)

/-- A blank or a tab. -/
def isBlankByte (b : UInt8) : Bool := b == 32 || b == 9

/-- A character that leaves a mark. -/
def isGraph (b : UInt8) : Bool := 33 ≤ b && b ≤ 126

/-- A character that can be printed. -/
def isPrint (b : UInt8) : Bool := 32 ≤ b && b ≤ 126

/-- A mark that is neither letter nor digit. -/
def isPunct (b : UInt8) : Bool := isGraph b && !isAlnum b

/-- A control character. -/
def isControl (b : UInt8) : Bool := b < 32 || b == 127

/-- A hexadecimal digit. -/
def isHexDigit (b : UInt8) : Bool := isDigit b || (65 ≤ b && b ≤ 70) || (97 ≤ b && b ≤ 102)

/-- A letter, a digit or a low line. -/
def isWordByte (b : UInt8) : Bool := isAlnum b || b == 95

/-- The test for the class with a name. -/
def inClass? (name : String) : Option (UInt8 → Bool) :=
  match name with
  | "alpha" => some isAlpha
  | "digit" => some isDigit
  | "alnum" => some isAlnum
  | "upper" => some isUpper
  | "lower" => some isLower
  | "space" => some isSpace
  | "blank" => some isBlankByte
  | "punct" => some isPunct
  | "cntrl" => some isControl
  | "print" => some isPrint
  | "graph" => some isGraph
  | "xdigit" => some isHexDigit
  | _ => none

/-- A letter as a capital one. -/
def upper (b : UInt8) : UInt8 := if isLower b then b - 32 else b

/-- A letter as a small one. -/
def lower (b : UInt8) : UInt8 := if isUpper b then b + 32 else b

/-- All bytes. -/
def allBytes : Bytes := (List.range 256).map UInt8.ofNat

/-- The bytes with the given numbers, ends included. -/
def byteRange (first last : Nat) : Bytes :=
  (List.range (last + 1 - first)).map fun offset => UInt8.ofNat (first + offset)

/-- The value of a byte as a digit of a system with up to 36 digits. -/
def digitValue? (base : Nat) (b : UInt8) : Option Nat :=
  let value :=
    if isDigit b then b.toNat - 48
    else if isUpper b then b.toNat - 55
    else if isLower b then b.toNat - 87
    else base
  if value < base then some value else none

/-- The value of digits. -/
def valueOf (base : Nat) (digits : Bytes) : Nat :=
  digits.foldl (fun value b => value * base + (digitValue? base b).getD 0) 0

end LineShell.Text
