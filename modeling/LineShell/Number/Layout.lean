import LineShell.Number.Binary

/-!
# The layout of numbers

How a number or a text is set into a field of some width.

- **`Layout`** says what a field looks like.
- **`Layout.integer`**, **`Layout.text`** and **`Layout.binary`** fill it.
-/

namespace LineShell.Number

/-- What a field looks like. -/
structure Layout where
  /-- What is in it goes to the left. -/
  left : Bool := false
  /-- A number that is not negative has a sign. -/
  plus : Bool := false
  /-- A number that is not negative has a blank in place of the sign. -/
  blank : Bool := false
  /-- A number shows its base, or a point with nothing behind it. -/
  marked : Bool := false
  /-- A number is filled up with zeros. -/
  zeros : Bool := false
  /-- The least width. -/
  width : Nat := 0
  /-- The most bytes of a text, the least digits of a whole number, or the places of another
  number. -/
  precision : Option Nat := none
  deriving DecidableEq, Repr, Inhabited

/-- How a number that need not be whole is written. -/
inductive Style where
  /-- With a fixed count of places. -/
  | fixed
  /-- With one digit before the point and an exponent. -/
  | scientific
  /-- In the shorter of both ways. -/
  | general
  /-- In base sixteen, with an exponent of two. -/
  | hexadecimal
  deriving DecidableEq, Repr, Inhabited

namespace Layout

/-- Blanks that a text lacks to fill a field. -/
def fill (layout : Layout) (bytes : Bytes) : Bytes :=
  let blanks := List.replicate (layout.width - bytes.length) 32
  if layout.left then bytes ++ blanks else blanks ++ bytes

/-- Sets a text into its field. -/
def text (layout : Layout) (bytes : Bytes) : Bytes :=
  layout.fill (match layout.precision with
    | some most => bytes.take most
    | none => bytes)

/-- The sign of a number. -/
def sign (layout : Layout) (negative : Bool) : Bytes :=
  if negative then [45] else if layout.plus then [43] else if layout.blank then [32] else []

/-- Sets a number into its field, given what stands before its digits. -/
def number (layout : Layout) (zeros : Bool) (before digits : Bytes) : Bytes :=
  if zeros && !layout.left then
    before ++ List.replicate (layout.width - before.length - digits.length) 48 ++ digits
  else layout.fill (before ++ digits)

/-- The digits of a number in a base. -/
def digits (base n : Nat) : Bytes := Text.bytesOf (String.ofList (Nat.toDigits base n))

/-- The digits of a whole number with zeros before them up to the precision. None stand for zero if
the precision is zero. -/
def wholeDigits (layout : Layout) (base n : Nat) : Bytes :=
  let spelled := if n = 0 && layout.precision == some 0 then [] else digits base n
  List.replicate (layout.precision.getD 0 - spelled.length) 48 ++ spelled

/-- Sets a whole number with its sign into its field. -/
def integer (layout : Layout) (value : Int) : Bytes :=
  layout.number (layout.zeros && layout.precision.isNone) (layout.sign (value < 0))
    (layout.wholeDigits 10 value.natAbs)

/-- Sets a whole number without a sign into its field, in the base that a letter names. -/
def unsigned (layout : Layout) (letter : Char) (value : Nat) : Bytes :=
  let zeros := layout.zeros && layout.precision.isNone
  match letter with
  | 'o' =>
      let spelled := layout.wholeDigits 8 value
      layout.number zeros []
        (if layout.marked && spelled.head? != some 48 then 48 :: spelled else spelled)
  | 'x' | 'X' =>
      let spelled := layout.wholeDigits 16 value
      let before := if layout.marked && value != 0 then [48, 120] else []
      let capital := if letter == 'X' then Text.upper else id
      layout.number zeros (before.map capital) (spelled.map capital)
  | _ => layout.number zeros [] (layout.wholeDigits 10 value)

/-! ## Numbers that need not be whole -/

/-- A count of places of a number, the point before the last so many of them. -/
def withPoint (layout : Layout) (places value : Nat) : Bytes :=
  let spelled := digits 10 value
  let padded := List.replicate (places + 1 - spelled.length) 48 ++ spelled
  let whole := padded.take (padded.length - places)
  let behind := padded.drop (padded.length - places)
  if places = 0 then (if layout.marked then whole ++ [46] else whole) else whole ++ 46 :: behind

/-- The greatest power of ten that is not greater than a quotient. -/
def decimalExponent (numerator denominator : Nat) : Int :=
  let atLeast (exponent : Int) : Bool :=
    if 0 ≤ exponent then denominator * Nat.pow 10 exponent.toNat ≤ numerator
    else denominator ≤ numerator * Nat.pow 10 (-exponent).toNat
  let guess : Int := (((numerator.log2 : Int) - denominator.log2) * 30103).fdiv 100000
  if atLeast (guess + 1) then guess + 1
  else if atLeast guess then guess
  else guess - 1

/-- The quotient in units of a power of ten, rounded. -/
def inUnits (numerator denominator : Nat) (exponent : Int) : Nat :=
  if 0 ≤ exponent then roundedQuotient numerator (denominator * Nat.pow 10 exponent.toNat)
  else roundedQuotient (numerator * Nat.pow 10 (-exponent).toNat) denominator

/-- The digits of a quotient, one of them before the point, and the exponent that belongs to
them. -/
def scientificDigits (places numerator denominator : Nat) : Nat × Int :=
  if numerator = 0 then (0, 0)
  else
    let exponent := decimalExponent numerator denominator
    let units := inUnits numerator denominator (exponent - places)
    if Nat.pow 10 (places + 1) ≤ units then (units / 10, exponent + 1) else (units, exponent)

/-- An exponent behind its letter. -/
def exponentText (letter : UInt8) (least : Nat) (exponent : Int) : Bytes :=
  let spelled := digits 10 exponent.natAbs
  letter :: (if exponent < 0 then 45 else 43)
    :: (List.replicate (least - spelled.length) 48 ++ spelled)

/-- Digits without the zeros at the end of their places, and without a point that is left at the
end. -/
def withoutZeros (bytes : Bytes) : Bytes :=
  if bytes.contains 46 then
    let kept := (bytes.reverse.dropWhile (· == 48)).reverse
    if kept.getLast? == some 46 then kept.dropLast else kept
  else bytes

/-- A quotient in the shorter of two ways. -/
def general (layout : Layout) (numerator denominator : Nat) : Bytes :=
  let significant := max 1 (layout.precision.getD 6)
  let (units, exponent) := scientificDigits (significant - 1) numerator denominator
  let trim := if layout.marked then id else withoutZeros
  if exponent < -4 || (significant : Int) ≤ exponent then
    trim (layout.withPoint (significant - 1) units) ++ exponentText 101 2 exponent
  else
    let places := (significant - 1 - exponent : Int).toNat
    trim (layout.withPoint places (inUnits numerator denominator (-(places : Int))))

/-- A number in base sixteen behind the mark of the base, its first digit having so many binary
places. -/
def hexadecimal (layout : Layout) (precision : Precision) (leading mantissa : Nat)
    (exponent : Int) : Bytes :=
  let behindBits := precision.bits - leading
  let lacking : Nat := precision.bits - (mantissa.log2 + 1)
  let shift := min (lacking : Int) (exponent - precision.least)
  let shift := shift.toNat
  let full := if mantissa = 0 then 0 else mantissa * Nat.pow 2 shift
  let top : Int := if mantissa = 0 then 0 else exponent - shift + behindBits
  let nibbles := behindBits / 4
  let kept := min nibbles (layout.precision.getD nibbles)
  let rounded := roundedQuotient full (Nat.pow 16 (nibbles - kept))
  let overflows := 16 ≤ rounded / Nat.pow 16 kept
  let whole := if overflows then 1 else rounded / Nat.pow 16 kept
  let top := if overflows then top + 4 else top
  let behind : Bytes := digits 16 (rounded % Nat.pow 16 kept)
  let behind : Bytes := List.replicate (kept - behind.length) 48 ++ behind
  let behind : Bytes := if kept = 0 then [] else behind
  let behind : Bytes := match layout.precision with
    | none => (behind.reverse.dropWhile (· == 48)).reverse
    | some places => behind ++ List.replicate (places - kept) 48
  let point : Bytes := if behind.isEmpty && !layout.marked then [] else [46]
  digits 16 whole ++ point ++ behind ++ exponentText 112 1 top

/-- Sets a number into its field, in capital letters if `capital` holds. The first digit in base
sixteen has so many binary places. -/
def binary (layout : Layout) (precision : Precision) (leading : Nat) (style : Style)
    (capital : Bool) (value : Binary) : Bytes :=
  let cased (bytes : Bytes) : Bytes := if capital then bytes.map Text.upper else bytes
  match value with
  | .infinite negative => layout.fill (layout.sign negative ++ cased (Text.bytesOf "inf"))
  | .nan negative => layout.fill (layout.sign negative ++ cased (Text.bytesOf "nan"))
  | .finite negative mantissa exponent =>
      let (numerator, denominator) := Binary.ratio mantissa exponent
      let places := layout.precision.getD 6
      let before := layout.sign negative
      match style with
      | .fixed =>
          layout.number layout.zeros before
            (layout.withPoint places (inUnits numerator denominator (-(places : Int))))
      | .scientific =>
          let (units, power) := scientificDigits places numerator denominator
          layout.number layout.zeros before
            (cased (layout.withPoint places units ++ exponentText 101 2 power))
      | .general => layout.number layout.zeros before (cased (layout.general numerator denominator))
      | .hexadecimal =>
          layout.number layout.zeros (before ++ cased [48, 120])
            (cased (layout.hexadecimal precision leading mantissa exponent))

end Layout

end LineShell.Number
