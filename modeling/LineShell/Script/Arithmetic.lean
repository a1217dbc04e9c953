import LineShell.Text.Ascii

/-!
# Expressions

An expression is made of whole numbers of 64 bits, of variables and of operators.

- **`Arithmetic.tokens`** reads the pieces of an expression.
- **`Arithmetic.evaluate`** gives its value and the variables that it has changed.
-/

namespace LineShell.Script.Arithmetic

/-- A piece of an expression. -/
inductive Token where
  /-- A number. -/
  | number (value : Int64)
  /-- The name of a variable. -/
  | variableName (name : Bytes)
  /-- An operator. -/
  | operator (spelling : String)
  /-- Something else. -/
  | unknown
  deriving DecidableEq, Repr, Inhabited

/-- Why an expression has no value. -/
inductive Fault where
  /-- Something else is expected. -/
  | expecting (what : String)
  /-- Something is divided by zero. -/
  | divisionByZero
  /-- The value of a variable is no number. -/
  | noNumber (value : Bytes)
  /-- The quotient does not fit. -/
  | overflow
  deriving DecidableEq, Repr, Inhabited

/-- The complaint about an expression. -/
def Fault.message (expression : Bytes) : Fault → Bytes
  | .noNumber value => Text.bytesOf "Illegal number: " ++ value
  | .expecting what => about ("expecting " ++ what)
  | .divisionByZero => about "division by zero"
  | .overflow => about "overflow"
where
  /-- A complaint that quotes the expression. -/
  about (what : String) : Bytes :=
    Text.bytesOf ("arithmetic expression: " ++ what ++ ": \"") ++ expression ++ Text.bytesOf "\""

/-! ## Numbers -/

/-- The base of the number at the front of some bytes, and where its digits begin. -/
def baseOf : Bytes → Nat × Bytes
  | 48 :: x :: digit :: rest =>
      if (x == 120 || x == 88) && Text.isHexDigit digit then (16, digit :: rest)
      else (8, 48 :: x :: digit :: rest)
  | 48 :: rest => (8, 48 :: rest)
  | bytes => (10, bytes)

/-- The digits of a base at the front of some bytes. -/
def digitsOf (base : Nat) (bytes : Bytes) : Bytes :=
  bytes.takeWhile fun b => (Text.digitValue? base b).isSome

/-- The greatest number. -/
def greatest : Int := Int.pow 2 63 - 1

/-- The least number. -/
def least : Int := -Int.pow 2 63

/-- The number that a whole text spells, with blanks around it. Blanks alone spell zero where
`emptyIsZero` holds, and a number is in the given base unless that is missing. -/
def number? (base : Option Nat) (emptyIsZero : Bool) (text : Bytes) : Option Int :=
  let trimmed := text.dropWhile Text.isSpace
  let (negative, unsigned) := match trimmed with
    | 45 :: rest => (true, rest)
    | 43 :: rest => (false, rest)
    | bytes => (false, bytes)
  let (radix, digits) := match base with
    | some base => (base, unsigned)
    | none => baseOf unsigned
  let spelled := digitsOf radix digits
  let value := (Text.valueOf radix spelled : Int)
  let value := if negative then -value else value
  if spelled.isEmpty then
    if emptyIsZero && trimmed.isEmpty then some 0 else none
  else if (digits.drop spelled.length).all Text.isSpace && least ≤ value && value ≤ greatest then
    some value
  else none

/-! ## Pieces -/

/-- The operators, longer ones before those that they begin with. -/
def operators : List String :=
  ["<<=", ">>=", "==", "!=", "<=", ">=", "<<", ">>", "&&", "||", "*=", "/=", "%=", "+=", "-=",
   "&=", "^=", "|=", "*", "/", "%", "+", "-", "<", ">", "&", "^", "|", "=", "!", "~", "?", ":",
   "(", ")"]

/-- The pieces of an expression, so many at most. -/
def tokensUpTo : (most : Nat) → Bytes → List Token
  | 0, _ => []
  | _, [] => []
  | most + 1, b :: rest =>
      if b == 32 || b == 9 || b == 10 then tokensUpTo most rest
      else if Text.isDigit b then
        let (base, digits) := baseOf (b :: rest)
        let spelled := digitsOf base digits
        let value := min (Text.valueOf base spelled : Int) greatest
        .number (Int64.ofInt value) :: tokensUpTo most (digits.drop spelled.length)
      else if Text.isWordByte b then
        let name := b :: rest.takeWhile Text.isWordByte
        .variableName name :: tokensUpTo most (rest.dropWhile Text.isWordByte)
      else
        match operators.find? fun spelling => (Text.bytesOf spelling).isPrefixOf (b :: rest) with
        | some spelling =>
            .operator spelling :: tokensUpTo most ((b :: rest).drop spelling.length)
        | none => [.unknown]

/-- The pieces of an expression. -/
def tokens (expression : Bytes) : List Token := tokensUpTo expression.length expression

/-! ## Values -/

/-- Variables that have been changed, the last one first, while a value is found. -/
abbrev Evaluation := StateT (List (Bytes × Int64)) (Except Fault)

/-- The operators between two values, with their ranks; a lesser rank binds more closely. -/
def ranks : List (String × Nat) :=
  [("*", 0), ("/", 0), ("%", 0), ("+", 1), ("-", 1), ("<<", 2), (">>", 2), ("<", 3), ("<=", 3),
   (">", 3), (">=", 3), ("==", 4), ("!=", 4), ("&", 5), ("^", 6), ("|", 7)]

/-- The operator between two values at the front, and its rank. -/
def binary? : List Token → Option (String × Nat)
  | .operator spelling :: _ => (ranks.lookup spelling).map fun rank => (spelling, rank)
  | _ => none

/-- The greatest rank. -/
def lastRank : Nat := 8

/-- The number that stands for a truth value. -/
def truth (b : Bool) : Int64 := if b then 1 else 0

/-- What an operator makes of two values. -/
def combine (spelling : String) (a b : Int64) : Except Fault Int64 :=
  let quotient (result : Int64) : Except Fault Int64 :=
    if b = 0 then .error .divisionByZero
    else if a.toInt = least && b = -1 then .error .overflow
    else .ok result
  match spelling with
  | "*" => .ok (a * b)
  | "/" => quotient (a / b)
  | "%" => quotient (a % b)
  | "+" => .ok (a + b)
  | "-" => .ok (a - b)
  | "<<" => .ok (a <<< b)
  | ">>" => .ok (a >>> b)
  | "<" => .ok (truth (a < b))
  | "<=" => .ok (truth (a ≤ b))
  | ">" => .ok (truth (a > b))
  | ">=" => .ok (truth (a ≥ b))
  | "==" => .ok (truth (a == b))
  | "!=" => .ok (truth (a != b))
  | "&" => .ok (a &&& b)
  | "^" => .ok (a ^^^ b)
  | _ => .ok (a ||| b)

/-- The operator that an assignment carries out before it assigns, if it is one. -/
def assignment? (spelling : String) : Option (Option String) :=
  if spelling == "=" then some none
  else if ["*=", "/=", "%=", "+=", "-=", "<<=", ">>=", "&=", "^=", "|="].contains spelling then
    some (some (String.ofList spelling.toList.dropLast))
  else none

/-- The value of a variable; one that is missing counts as zero. -/
def valueOf (lookup : Bytes → Option Bytes) (name : Bytes) : Evaluation Int64 := do
  match (← get).lookup name with
  | some value => return value
  | none =>
      let text := (lookup name).getD []
      match number? none true text with
      | some value => return Int64.ofInt value
      | none => throw (.noNumber text)

section Values

variable (lookup : Bytes → Option Bytes)

mutual

/-- The value of a number, a variable or an expression in parentheses, perhaps with signs before
it, and what follows it. Nothing is looked up while `idle` holds. -/
def primary : (depth : Nat) → (idle : Bool) → List Token → Evaluation (Int64 × List Token)
  | 0, _, _ => throw (.expecting "primary")
  | depth + 1, idle, input =>
      match input with
      | .operator "(" :: rest => do
          let (value, rest) ← assigned depth idle rest
          match rest with
          | .operator ")" :: rest => return (value, rest)
          | _ => throw (.expecting "')'")
      | .number value :: rest => return (value, rest)
      | .variableName name :: rest => do
          let value ← if idle then pure 0 else valueOf lookup name
          return (value, rest)
      | .operator "+" :: rest => primary depth idle rest
      | .operator "-" :: rest => do
          let (value, rest) ← primary depth idle rest
          return (-value, rest)
      | .operator "!" :: rest => do
          let (value, rest) ← primary depth idle rest
          return (truth (value == 0), rest)
      | .operator "~" :: rest => do
          let (value, rest) ← primary depth idle rest
          return (~~~value, rest)
      | _ => throw (.expecting "primary")

/-- Goes on behind an operator as long as those that follow have a rank below the limit. -/
def joined : (depth : Nat) → (idle : Bool) → (left : Int64) → (operator : String × Nat) →
    (limit : Nat) → List Token → Evaluation (Int64 × List Token)
  | 0, _, _, _, _, _ => throw (.expecting "primary")
  | depth + 1, idle, left, (spelling, rank), limit, input => do
      let (right, rest) ← primary depth idle input
      let (right, rest) ← match binary? rest with
        | some (next, closer) =>
            if closer < rank then joined depth idle right (next, closer) rank rest.tail
            else pure (right, rest)
        | none => pure (right, rest)
      let value ← if idle then pure right else (combine spelling left right : Except Fault Int64)
      match binary? rest with
      | some (next, looser) =>
          if looser < limit then joined depth idle value (next, looser) limit rest.tail
          else return (value, rest)
      | none => return (value, rest)

/-- The value of numbers with operators between them. -/
def chain : (depth : Nat) → (idle : Bool) → List Token → Evaluation (Int64 × List Token)
  | 0, _, _ => throw (.expecting "primary")
  | depth + 1, idle, input => do
      let (left, rest) ← primary depth idle input
      match binary? rest with
      | some operator => joined depth idle left operator lastRank rest.tail
      | none => return (left, rest)

/-- The value of conditions all of which have to hold. -/
def conjunction : (depth : Nat) → (idle : Bool) → List Token → Evaluation (Int64 × List Token)
  | 0, _, _ => throw (.expecting "primary")
  | depth + 1, idle, input => do
      let (left, rest) ← chain depth idle input
      match rest with
      | .operator "&&" :: rest =>
          let (right, rest) ← conjunction depth (idle || left == 0) rest
          return (truth (left != 0 && right != 0), rest)
      | rest => return (left, rest)

/-- The value of conditions one of which has to hold. -/
def disjunction : (depth : Nat) → (idle : Bool) → List Token → Evaluation (Int64 × List Token)
  | 0, _, _ => throw (.expecting "primary")
  | depth + 1, idle, input => do
      let (left, rest) ← conjunction depth idle input
      match rest with
      | .operator "||" :: rest =>
          let (right, rest) ← disjunction depth (idle || left != 0) rest
          return (truth (left != 0 || right != 0), rest)
      | rest => return (left, rest)

/-- The value of a choice between two values. -/
def choice : (depth : Nat) → (idle : Bool) → List Token → Evaluation (Int64 × List Token)
  | 0, _, _ => throw (.expecting "primary")
  | depth + 1, idle, input => do
      let (condition, rest) ← disjunction depth idle input
      match rest with
      | .operator "?" :: rest =>
          let (consequence, rest) ← assigned depth (idle || condition == 0) rest
          match rest with
          | .operator ":" :: rest =>
              let (alternative, rest) ← choice depth (idle || condition != 0) rest
              return (if condition != 0 then consequence else alternative, rest)
          | _ => throw (.expecting "':'")
      | rest => return (condition, rest)

/-- The value of an assignment, or of something else. -/
def assigned : (depth : Nat) → (idle : Bool) → List Token → Evaluation (Int64 × List Token)
  | 0, _, _ => throw (.expecting "primary")
  | depth + 1, idle, input =>
      let other := choice depth idle input
      match input with
      | .variableName name :: .operator spelling :: rest =>
          match assignment? spelling with
          | none => other
          | some change => do
              let (right, rest) ← assigned depth idle rest
              if idle then return (right, rest)
              let value ← match change with
                | none => pure right
                | some change =>
                    (combine change (← valueOf lookup name) right : Except Fault Int64)
              modify fun changed => (name, value) :: changed
              return (value, rest)
      | _ => other

end

end Values

/-- The value of an expression, and the variables that it has changed, the last one first. -/
def evaluate (lookup : Bytes → Option Bytes) (expression : Bytes) :
    Except Fault (Int64 × List (Bytes × Int64)) := do
  let input := tokens expression
  let ((value, rest), changed) ← (assigned lookup (8 * input.length + 8) false input).run []
  if rest.isEmpty then return (value, changed) else throw (.expecting "EOF")

end LineShell.Script.Arithmetic
