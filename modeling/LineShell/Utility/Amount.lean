import LineShell.Text.Ascii

/-!
# Amounts

Many options take an amount: a number, and perhaps a letter behind it that multiplies it.

- **`Amount.parse`** reads an amount.
- **`Amount.signed`** reads one that may have a sign in front.
- **`Amount.integer`** reads one that may be negative and has to lie between bounds.
-/

namespace LineShell.Amount

/-- Why a text is no amount. -/
inductive Fault where
  /-- It does not have the form of one. -/
  | malformed
  /-- It is too large. -/
  | tooLarge
  /-- It is none of the amounts that make sense. -/
  | outOfRange
  deriving DecidableEq, Repr, Inhabited

/-- What is said of a fault behind the text. -/
def Fault.reason : Fault → String
  | .malformed => ""
  | .tooLarge => ": Value too large for defined data type"
  | .outOfRange => ": Numerical result out of range"

/-- The greatest amount. -/
def greatest : Nat := Nat.pow 2 64 - 1

/-- The power of a thousand, or of 1024, that a letter stands for. -/
def power? (letter : Char) : Option Nat :=
  match letter with
  | 'k' | 'K' => some 1
  | 'm' | 'M' => some 2
  | 'g' | 'G' => some 3
  | 't' | 'T' => some 4
  | 'P' => some 5
  | 'E' => some 6
  | 'Z' => some 7
  | 'Y' => some 8
  | 'R' => some 9
  | 'Q' => some 10
  | _ => none

/-- The factor that a suffix stands for: a letter, which may be followed by `B` for powers of a
thousand or by `iB` for those of 1024 if there is a zero among the letters. -/
def factor? (suffixes : String) (suffix : List Char) : Option Nat :=
  match suffix with
  | [] => some 1
  | letter :: rest =>
      if !suffixes.toList.contains letter then none
      else match letter, rest with
        | 'b', [] => some 512
        | 'c', [] => some 1
        | 'w', [] => some 2
        | 'B', [] => some 1024
        | _, [] => (power? letter).map (Nat.pow 1024)
        | _, ['B'] | _, ['D'] =>
            if suffixes.toList.contains '0' then (power? letter).map (Nat.pow 1000) else none
        | _, ['i', 'B'] =>
            if suffixes.toList.contains '0' then (power? letter).map (Nat.pow 1024) else none
        | _, _ => none

/-- The amount that a text spells, given the letters that may multiply it. A letter alone stands
for one of what it stands for. -/
def parse (suffixes : String) (bytes : Bytes) : Except Fault Nat :=
  let body := bytes.dropWhile Text.isSpace
  let body := match body with
    | 43 :: rest => rest
    | _ => body
  let digits := body.takeWhile Text.isDigit
  let suffix := Text.decode (body.drop digits.length)
  if digits.isEmpty && (suffix.isEmpty || body.length < (bytes.dropWhile Text.isSpace).length) then
    .error .malformed
  else match factor? suffixes suffix with
    | none => .error .malformed
    | some factor =>
        let amount := ((Text.number? digits).getD 1) * factor
        if greatest < amount then .error .tooLarge else .ok amount

/-- A sign in front of an amount. -/
inductive Sign where
  /-- There is none. -/
  | none
  /-- A plus sign. -/
  | plus
  /-- A minus sign. -/
  | minus
  deriving DecidableEq, Repr, Inhabited

/-- A sign, and the amount behind it. -/
def signed (suffixes : String) (bytes : Bytes) : Except Fault (Sign × Nat) :=
  match bytes with
  | 43 :: rest => (parse suffixes rest).map fun amount => (.plus, amount)
  | 45 :: rest => (parse suffixes rest).map fun amount => (.minus, amount)
  | _ => (parse suffixes bytes).map fun amount => (.none, amount)

/-- The greatest number that an integer can be. -/
def greatestInteger : Nat := Nat.pow 2 63 - 1

/-- The integer between two bounds that a text spells. -/
def integer (suffixes : String) (low high : Int) (bytes : Bytes) : Except Fault Int := do
  let body := bytes.dropWhile Text.isSpace
  let (negative, magnitude) ← match body with
    | 45 :: rest =>
        if (rest.head?).any Text.isDigit then (parse suffixes rest).map fun amount => (true, amount)
        else .error .malformed
    | _ => (parse suffixes body).map fun amount => (false, amount)
  let value : Int := if negative then -(magnitude : Int) else magnitude
  if greatestInteger < magnitude then throw .tooLarge
  if value < low || high < value then
    throw (if value.natAbs > Nat.pow 2 30 then .tooLarge else .outOfRange)
  return value

end LineShell.Amount
