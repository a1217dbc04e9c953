import LineShell.Script.Condition

/-!
# Options of builtin commands

- **`takeOptions`** parts the options of a command from its operands.
- **`numberOf`** reads a number among the operands.
-/

namespace LineShell.Script

/-- An option with its value. -/
abbrev TakenOption := UInt8 × Bytes

/-- What a letter takes, if it is one of the given ones: a value, if a colon stands behind it. -/
def takesValue? (letters : Bytes) (letter : UInt8) : Option Bool :=
  match letters with
  | [] => none
  | b :: rest =>
      if b == letter && b != 58 then some (rest.head? == some 58) else takesValue? rest letter

/-- The options that the letters of one word spell, and the words behind it. -/
def takeCluster (letters : Bytes) : Bytes → List Bytes → Activity (List TakenOption × List Bytes)
  | [], words => return ([], words)
  | letter :: rest, words => do
      match takesValue? letters letter with
      | none => fail (Text.bytesOf "Illegal option -" ++ [letter])
      | some false =>
          let (more, words) ← takeCluster letters rest words
          return ((letter, []) :: more, words)
      | some true =>
          if !rest.isEmpty then return ([(letter, rest)], words)
          match words with
          | value :: words => return ([(letter, value)], words)
          | [] => fail (Text.bytesOf "No arg for -" ++ [letter] ++ Text.bytesOf " option")

/-- Parts options from operands, looking at so many words at most. -/
def takeOptionsUpTo (letters : Bytes) :
    (most : Nat) → List Bytes → Activity (List TakenOption × List Bytes)
  | 0, words => return ([], words)
  | most + 1, words => do
      match words with
      | (45 :: b :: cluster) :: rest =>
          if b == 45 && cluster.isEmpty then return ([], rest)
          let (options, rest) ← takeCluster letters (b :: cluster) rest
          let (more, operands) ← takeOptionsUpTo letters most rest
          return (options ++ more, operands)
      | words => return ([], words)

/-- Parts the options of a command from its operands. A colon behind a letter tells that the option
takes a value. -/
def takeOptions (letters : String) (words : List Bytes) :
    Activity (List TakenOption × List Bytes) :=
  takeOptionsUpTo (Text.bytesOf letters) words.length words.tail

/-- The option has been given. -/
def given (options : List TakenOption) (letter : Char) : Bool :=
  options.any fun option => option.1.toNat == letter.toNat

/-- The greatest number that an operand may spell. -/
def greatestOperand : Nat := Nat.pow 2 31 - 1

/-- The number that an operand spells, with blanks around it or not. -/
def number? (operand : Bytes) : Option Int :=
  let inner := operand.dropWhile Text.isSpace
  let inner := (inner.reverse.dropWhile Text.isSpace).reverse
  match inner with
  | 45 :: digits => (Text.number? digits).map fun n => -(n : Int)
  | 43 :: digits => (Text.number? digits).map Int.ofNat
  | digits => (Text.number? digits).map Int.ofNat

/-- The number that an operand spells, which is not less than zero. -/
def numberOf (operand : Bytes) : Activity Nat :=
  match number? operand with
  | some n =>
      if 0 ≤ n && n ≤ greatestOperand then return n.toNat
      else fail (Text.bytesOf "Illegal number: " ++ operand)
  | none => fail (Text.bytesOf "Illegal number: " ++ operand)

/-- A text in single quotation marks, from which a script reads it again. Marks in it stand in
double ones. -/
def inQuotes (bytes : Bytes) : Bytes := go (bytes.length + 1) bytes
where
  /-- Quotes what is left, looking at so many pieces at most. -/
  go : (most : Nat) → Bytes → Bytes
    | 0, _ => []
    | most + 1, bytes =>
        let plain := bytes.takeWhile (· != 39)
        let quoted := 39 :: (plain ++ [39])
        match bytes.drop plain.length with
        | [] => quoted
        | behind =>
            let marks := behind.takeWhile (· == 39)
            let rest := behind.drop marks.length
            quoted ++ 34 :: (marks ++ [34]) ++ if rest.isEmpty then [] else go most rest

end LineShell.Script
