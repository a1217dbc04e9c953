/-!
# Numbers among the arguments

A number is written in decimal digits, perhaps behind a plus sign, and fits in a machine word.

- **`NumberFault`** says why a text is no such number.
- **`number`** reads a text from left to right and reports the first fault it meets.
-/

namespace LineShell.Usage

/-- Why a text is no number. -/
inductive NumberFault where
  /-- The text is empty. -/
  | empty
  /-- Something other than a digit was met. -/
  | digit
  /-- The number exceeds a machine word. -/
  | large
  deriving DecidableEq, Repr, Inhabited

/-- The text of a fault. -/
def NumberFault.message : NumberFault → String
  | .empty => "cannot parse integer from empty string"
  | .digit => "invalid digit found in string"
  | .large => "number too large to fit in target type"

/-- The least number that no longer fits in a machine word. -/
def wordBound : Nat := Nat.pow 2 64

/-- Reads digits behind a number that has been read. -/
def digits : (value : Nat) → List Char → Except NumberFault Nat
  | value, [] => .ok value
  | value, c :: rest =>
      if !c.isDigit then .error .digit
      else
        let value := value * 10 + (c.toNat - '0'.toNat)
        if wordBound ≤ value then .error .large else digits value rest

/-- The number that a text spells. -/
def number (text : String) : Except NumberFault Nat :=
  match text.toList with
  | [] => .error .empty
  | ['+'] => .error .digit
  | '+' :: rest => digits 0 rest
  | rest => digits 0 rest

end LineShell.Usage
