import LineShell.Text.Ascii

/-!
# Binary numbers

Numbers with a limited count of binary places, as machines keep them.

- **`Precision.round`** gives the number that is nearest to a quotient; of two that are equally near
  the even one.
- **`Binary.read`** reads a number from the front of a text.
-/

namespace LineShell.Number

/-- A number with a limited count of binary places. -/
inductive Binary where
  /-- The mantissa times that power of two. -/
  | finite (negative : Bool) (mantissa : Nat) (exponent : Int)
  /-- Too great for all others. -/
  | infinite (negative : Bool)
  /-- No number. -/
  | nan (negative : Bool)
  deriving DecidableEq, Repr, Inhabited

/-- How exactly numbers are kept. -/
structure Precision where
  /-- How many binary places a mantissa has. -/
  bits : Nat
  /-- The least exponent. -/
  least : Int
  /-- The exponent of the first power of two that is too great. -/
  greatest : Int
  deriving DecidableEq, Repr, Inhabited

/-- Sixty-four bits in all. -/
def Precision.double : Precision := ⟨53, -1074, 1024⟩

/-- Eighty bits in all. -/
def Precision.extended : Precision := ⟨64, -16445, 16384⟩

/-- The whole number that is nearest to a quotient; of two that are equally near the even one. -/
def roundedQuotient (numerator denominator : Nat) : Nat :=
  let whole := numerator / denominator
  let rest := 2 * (numerator % denominator)
  if rest < denominator then whole
  else if denominator < rest then whole + 1
  else whole + whole % 2

/-- A quotient divided by a power of two, as numerator and denominator. -/
def shifted (numerator denominator : Nat) (exponent : Int) : Nat × Nat :=
  if 0 ≤ exponent then (numerator, denominator * Nat.pow 2 exponent.toNat)
  else (numerator * Nat.pow 2 (-exponent).toNat, denominator)

/-- The number that is nearest to a quotient. -/
def Precision.round (precision : Precision) (negative : Bool) (numerator denominator : Nat) :
    Binary :=
  if numerator = 0 then .finite negative 0 0
  else
    let guess : Int := (numerator.log2 : Int) - denominator.log2 - precision.bits
    let fits (exponent : Int) : Bool :=
      let (n, d) := shifted numerator denominator exponent
      n < Nat.pow 2 precision.bits * d
    let exponent := if fits guess then guess else guess + 1
    let exponent := max exponent precision.least
    let (n, d) := shifted numerator denominator exponent
    let mantissa := roundedQuotient n d
    if mantissa = 0 then .finite negative 0 0
    else if precision.greatest ≤ (mantissa.log2 : Int) + exponent then .infinite negative
    else .finite negative mantissa exponent

namespace Binary

/-- The number without its sign, as numerator and denominator. -/
def ratio (mantissa : Nat) (exponent : Int) : Nat × Nat :=
  if 0 ≤ exponent then (mantissa * Nat.pow 2 exponent.toNat, 1)
  else (mantissa, Nat.pow 2 (-exponent).toNat)

/-! ## Reading -/

/-- What has been read of a number. -/
structure Reading where
  /-- The number. -/
  value : Binary
  /-- It is too great or too small to be kept. -/
  outOfRange : Bool := false
  /-- What follows it. -/
  rest : Bytes
  deriving DecidableEq, Repr, Inhabited

/-- Exponents beyond this make every number too great or too small. -/
def farExponent : Nat := 100000

/-- The exponent behind one of two letters, if there is one, and what follows it. -/
def exponentOf (small capital : UInt8) (bytes : Bytes) : Int × Bytes :=
  match bytes with
  | letter :: rest =>
      if letter == small || letter == capital then
        let (negative, digits) := match rest with
          | 45 :: rest => (true, rest)
          | 43 :: rest => (false, rest)
          | rest => (false, rest)
        let spelled := digits.takeWhile Text.isDigit
        if spelled.isEmpty then (0, bytes)
        else
          let value : Int := min (Text.valueOf 10 spelled) farExponent
          (if negative then -value else value, digits.drop spelled.length)
      else (0, bytes)
  | [] => (0, [])

/-- The digits of a base at the front of a text, those before the point and those behind it, and
what follows them. -/
def digitsOf (base : Nat) (bytes : Bytes) : Bytes × Bytes × Bytes :=
  let isDigit (b : UInt8) : Bool := (Text.digitValue? base b).isSome
  let whole := bytes.takeWhile isDigit
  let behind := bytes.drop whole.length
  match behind with
  | 46 :: rest =>
      let places := rest.takeWhile isDigit
      if whole.isEmpty && places.isEmpty then ([], [], bytes)
      else (whole, places, rest.drop places.length)
  | _ => (whole, [], behind)

/-- The number that a count of digits and a power of a base make. -/
def scaled (precision : Precision) (negative : Bool) (digits base : Nat) (exponent : Int)
    (rest : Bytes) : Reading :=
  let far := farExponent / 2
  let value :=
    if digits = 0 then .finite negative 0 0
    else if (far : Int) < exponent then .infinite negative
    else if exponent < -(far : Int) then .finite negative 0 0
    else if 0 ≤ exponent then precision.round negative (digits * Nat.pow base exponent.toNat) 1
    else precision.round negative digits (Nat.pow base (-exponent).toNat)
  { value := value
    outOfRange := match value with
      | .infinite _ => true
      | .finite _ mantissa _ => mantissa = 0 && digits != 0
      | .nan _ => false
    rest := rest }

/-- Some words that a text may begin with, in capital letters or not, and what follows. -/
def behindWord? (word : String) (bytes : Bytes) : Option Bytes :=
  let spelled := Text.bytesOf word
  if (bytes.take spelled.length).map Text.lower == spelled then some (bytes.drop spelled.length)
  else none

/-- What follows the brackets that may stand behind the word for no number. -/
def behindBrackets (bytes : Bytes) : Bytes :=
  match bytes with
  | 40 :: rest =>
      let inside := rest.takeWhile Text.isWordByte
      match rest.drop inside.length with
      | 41 :: behind => behind
      | _ => bytes
  | _ => bytes

/-- Reads a number from the front of a text, if one is there. -/
def read (precision : Precision) (bytes : Bytes) : Option Reading :=
  let trimmed := bytes.dropWhile Text.isSpace
  let (negative, unsigned) := match trimmed with
    | 45 :: rest => (true, rest)
    | 43 :: rest => (false, rest)
    | rest => (false, rest)
  let hexadecimal : Option Reading := match unsigned with
    | 48 :: x :: rest =>
        if x == 120 || x == 88 then
          let (whole, places, behind) := digitsOf 16 rest
          if whole.isEmpty && places.isEmpty then none
          else
            let (exponent, behind) := exponentOf 112 80 behind
            some (scaled precision negative (Text.valueOf 16 (whole ++ places)) 2
              (exponent - 4 * places.length) behind)
        else none
    | _ => none
  match hexadecimal with
  | some reading => some reading
  | none =>
      match behindWord? "infinity" unsigned, behindWord? "inf" unsigned,
          behindWord? "nan" unsigned with
      | some rest, _, _ => some { value := .infinite negative, rest := rest }
      | none, some rest, _ => some { value := .infinite negative, rest := rest }
      | none, none, some rest => some { value := .nan negative, rest := behindBrackets rest }
      | none, none, none =>
          let (whole, places, behind) := digitsOf 10 unsigned
          if whole.isEmpty && places.isEmpty then none
          else
            let (exponent, behind) := exponentOf 101 69 behind
            some (scaled precision negative (Text.valueOf 10 (whole ++ places)) 10
              (exponent - places.length) behind)

end Binary

end LineShell.Number
