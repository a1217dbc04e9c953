import LineShell.Text.Ascii

/-!
# Whole numbers at the front of a text

- **`Whole.read`** reads a whole number with its sign, in a base of its own or a given one.
-/

namespace LineShell.Number.Whole

/-- A whole number and what follows it. -/
structure Reading where
  /-- The number. -/
  value : Int
  /-- What follows it. -/
  rest : Bytes
  deriving DecidableEq, Repr, Inhabited

/-- The base that the beginning of a number tells, and its digits. -/
def baseOf (bytes : Bytes) : Nat × Bytes :=
  match bytes with
  | 48 :: rest =>
      match rest with
      | x :: digits =>
          if (x == 120 || x == 88) && digits.head?.any Text.isHexDigit then (16, digits)
          else (8, bytes)
      | [] => (8, bytes)
  | _ => (10, bytes)

/-- Reads a number behind blanks. Without digits there is none. -/
def read (base : Option Nat) (bytes : Bytes) : Option Reading :=
  let trimmed := bytes.dropWhile Text.isSpace
  let (negative, unsigned) := match trimmed with
    | 45 :: rest => (true, rest)
    | 43 :: rest => (false, rest)
    | rest => (false, rest)
  let (radix, digits) := match base with
    | some base => (base, unsigned)
    | none => baseOf unsigned
  let spelled := digits.takeWhile fun b => (Text.digitValue? radix b).isSome
  if spelled.isEmpty then none
  else
    let value : Int := Text.valueOf radix spelled
    some ⟨if negative then -value else value, digits.drop spelled.length⟩

/-- The least number of 64 bits with a sign. -/
def least : Int := -Int.pow 2 63

/-- The greatest number of 64 bits with a sign. -/
def greatest : Int := Int.pow 2 63 - 1

/-- The greatest number of 64 bits without a sign. -/
def greatestUnsigned : Int := Int.pow 2 64 - 1

/-- The number of 64 bits with a sign that is nearest to a number. -/
def clamp (value : Int) : Int := max least (min value greatest)

/-- The number of 64 bits without a sign that a number stands for, a negative one being taken
round; the greatest one stands for those that are too great. -/
def clampUnsigned (value : Int) : Nat :=
  if greatestUnsigned < value || value < -greatestUnsigned then greatestUnsigned.toNat
  else if value < 0 then (value + Int.pow 2 64).toNat
  else value.toNat

end LineShell.Number.Whole
