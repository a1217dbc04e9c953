import LineShell.Text.Version

/-!
# Orders of fields

Parts of lines can be compared as text, as numbers of several kinds, as months or as versions.

- **`FieldOrder`** lists the ways to compare.
- **`FieldValue.ofBytes`** reads a part of a line in one of them.
- **`FieldValue.order`** compares two parts that were read in the same way.
-/

namespace LineShell.Utility

/-- A decimal number of any length. -/
structure DecimalValue where
  /-- A minus sign comes first. -/
  negative : Bool := false
  /-- The digits before the point. -/
  whole : Nat := 0
  /-- The digits behind the point, up to the last one that is not zero. -/
  fraction : Bytes := []
  deriving DecidableEq, Repr, Inhabited

namespace DecimalValue

/-- The number is zero. -/
def isZero (value : DecimalValue) : Bool := value.whole == 0 && value.fraction.isEmpty

/-- The order of byte strings as the bytes have it. -/
def orderBytes (a b : Bytes) : Ordering :=
  if a == b then .eq else if Text.bytesLe a b then .lt else .gt

/-- Compares two numbers without their signs. -/
def orderMagnitude (a b : DecimalValue) : Ordering :=
  (compare a.whole b.whole).then (orderBytes a.fraction b.fraction)

/-- Compares two numbers. -/
def order (a b : DecimalValue) : Ordering :=
  if a.isZero && b.isZero then .eq
  else match a.negative && !a.isZero, b.negative && !b.isZero with
    | true, false => .lt
    | false, true => .gt
    | true, true => orderMagnitude b a
    | false, false => orderMagnitude a b

/-- A blank in front of a number. -/
def isBlank (b : UInt8) : Bool := b == 32 || b == 9 || b == 10

/-- The number at the front of some bytes behind blanks, and what follows it. -/
def read (bytes : Bytes) : DecimalValue × Bytes :=
  let body := bytes.dropWhile isBlank
  let negative := body.head? == some 45
  let body := if negative then body.tail else body
  let whole := body.takeWhile Text.isDigit
  let rest := body.drop whole.length
  let (fraction, rest) := match rest with
    | 46 :: more =>
        let digits := more.takeWhile Text.isDigit
        (digits, more.drop digits.length)
    | _ => ([], rest)
  ({ negative := negative
     whole := Text.valueOf 10 whole
     fraction := (fraction.reverse.dropWhile (· == 48)).reverse }, rest)

end DecimalValue

/-- A number as mathematicians write it. -/
inductive GeneralValue where
  /-- There is no number. -/
  | missing
  /-- What is there stands for no number. -/
  | none
  /-- Less than all other numbers. -/
  | lowest
  /-- A number of units, each a power of ten. -/
  | finite (units exponent : Int)
  /-- Greater than all other numbers. -/
  | greatest
  deriving DecidableEq, Repr, Inhabited

namespace GeneralValue

/-- The kinds of numbers in their order. -/
def rank : GeneralValue → Nat
  | .missing => 0
  | .none => 1
  | .lowest => 2
  | .finite .. => 3
  | .greatest => 4

/-- Compares two numbers. -/
def order : GeneralValue → GeneralValue → Ordering
  | .finite a m, .finite b n =>
      let least := min m n
      compare (a * Nat.pow 10 (m - least).toNat) (b * Nat.pow 10 (n - least).toNat)
  | a, b => compare a.rank b.rank

/-- The exponents up to which numbers are told apart. -/
def widest : Nat := 5000

/-- The exponent behind a letter, with its sign. -/
def exponentOf (bytes : Bytes) : Int :=
  match bytes with
  | b :: rest =>
      if Text.lower b != 101 then 0
      else
        let (negative, digits) := match rest with
          | 45 :: digits => (true, digits)
          | 43 :: digits => (false, digits)
          | digits => (false, digits)
        let size : Int := min widest (Text.valueOf 10 (digits.takeWhile Text.isDigit))
        if negative then -size else size
  | [] => 0

/-- A word begins some bytes, in whatever case. -/
def begins (word : String) (bytes : Bytes) : Bool :=
  (Text.bytesOf word).isPrefixOf (bytes.map Text.lower)

/-- The number at the front of some bytes. -/
def read (bytes : Bytes) : GeneralValue :=
  let body := bytes.dropWhile Text.isSpace
  let negative := body.head? == some 45
  let body := if negative || body.head? == some 43 then body.tail else body
  if begins "inf" body then (if negative then .lowest else .greatest)
  else if begins "nan" body then .none
  else if begins "0x" body then
    let units : Int := Text.valueOf 16 ((body.drop 2).takeWhile Text.isHexDigit)
    .finite (if negative then -units else units) 0
  else
    let whole := body.takeWhile Text.isDigit
    let rest := body.drop whole.length
    let (fraction, rest) := match rest with
      | 46 :: more =>
          let digits := more.takeWhile Text.isDigit
          (digits, more.drop digits.length)
      | _ => ([], rest)
    if whole.isEmpty && fraction.isEmpty then .missing
    else
      let units : Int := Text.valueOf 10 (whole ++ fraction)
      .finite (if negative then -units else units) (exponentOf rest - fraction.length)

end GeneralValue

/-- The ways to compare parts of lines. -/
inductive FieldOrder where
  /-- By their bytes. -/
  | text
  /-- As decimal numbers. -/
  | numeric
  /-- As numbers that may have an exponent. -/
  | general
  /-- As numbers with a letter that multiplies them. -/
  | human
  /-- As months. -/
  | month
  /-- As versions. -/
  | version
  deriving DecidableEq, Repr, Inhabited

/-- A part of a line as it is compared. -/
inductive FieldValue where
  /-- By its bytes. -/
  | text (bytes : Bytes)
  /-- As a decimal number. -/
  | numeric (value : DecimalValue)
  /-- As a number that may have an exponent. -/
  | general (value : GeneralValue)
  /-- By the power of a thousand that a letter stands for, and then as a decimal number. -/
  | human (power : Int) (value : DecimalValue)
  /-- By its number in the year. -/
  | month (number : Nat)
  /-- As a version. -/
  | version (bytes : Bytes)
  deriving DecidableEq, Repr, Inhabited

namespace FieldValue

/-- The letters that multiply a number. -/
def multipliers : Bytes := Text.bytesOf "KMGTPEZYRQ"

/-- The power of a thousand that a number has, negative for a negative number. -/
def powerOf (value : DecimalValue) (rest : Bytes) : Int :=
  if value.isZero then 0
  else
    let power : Int := match rest with
      | b :: _ =>
          if b == 107 then 1
          else if multipliers.contains b then multipliers.idxOf b + 1
          else 0
      | [] => 0
    if value.negative then -power else power

/-- A decimal number as it is compared by its power first: numbers below zero are less than those
of any power, and zero lies between. -/
def signed (value : DecimalValue) (power : Int) : Int :=
  if value.isZero then 0
  else if value.negative then power - 1
  else power + 1

/-- The first letters of the months. -/
def months : List Bytes :=
  ["JAN", "FEB", "MAR", "APR", "MAY", "JUN", "JUL", "AUG", "SEP", "OCT", "NOV", "DEC"].map
    Text.bytesOf

/-- The number of the month at the front of some bytes behind blanks, zero if there is none. -/
def monthOf (bytes : Bytes) : Nat :=
  let name := ((bytes.dropWhile DecimalValue.isBlank).map Text.upper).take 3
  if months.contains name then months.idxOf name + 1 else 0

/-- Reads a part of a line. -/
def ofBytes (order : FieldOrder) (bytes : Bytes) : FieldValue :=
  match order with
  | .text => .text bytes
  | .numeric => .numeric (DecimalValue.read bytes).1
  | .general => .general (GeneralValue.read bytes)
  | .human =>
      let (value, rest) := DecimalValue.read bytes
      .human (signed value (powerOf value rest)) value
  | .month => .month (monthOf bytes)
  | .version => .version bytes

/-- Compares two parts that were read in the same way. -/
def order : FieldValue → FieldValue → Ordering
  | .text a, .text b => DecimalValue.orderBytes a b
  | .numeric a, .numeric b => a.order b
  | .general a, .general b => a.order b
  | .human m a, .human n b => (compare m n).then (a.order b)
  | .month a, .month b => compare a b
  | .version a, .version b => Text.Version.order a b
  | _, _ => .eq

end FieldValue

end LineShell.Utility
