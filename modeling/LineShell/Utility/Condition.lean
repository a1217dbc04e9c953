import LineShell.System.Question
import LineShell.Text.Ascii
import LineShell.Utility.Base

/-!
# Conditions

The words of a condition are taken apart by how many there are, and if there are many, by how
tightly operators bind. Each part is judged as soon as it has been read.

- **`test`** tells whether the condition that its words spell holds.
- **`bracket`** does the same for words up to a closing bracket.
-/

namespace LineShell.Utility

namespace Condition

/-- Why words are no condition. -/
inductive Fault where
  /-- A word is missing behind this one. -/
  | lacking (word : Bytes)
  /-- The condition has ended before this word. -/
  | extra (word : Bytes)
  /-- This word should be a whole number. -/
  | notWhole (word : Bytes)
  /-- This word should be an operator that stands before another word. -/
  | notUnary (word : Bytes)
  /-- This word should be an operator that stands between two words. -/
  | notBinary (word : Bytes)
  /-- A group has not been closed. -/
  | unclosed
  /-- A group should have been closed in place of this word. -/
  | notClosing (word : Bytes)
  /-- An operator cannot be asked of a length. -/
  | noLength (operator : Bytes)
  /-- The closing bracket is missing. -/
  | lacksBracket
  deriving DecidableEq, Repr, Inhabited

/-- The text of a fault. -/
def Fault.message : Fault → Bytes
  | .lacking word => text "missing argument after " ++ Quote.plain word
  | .extra word => text "extra argument " ++ Quote.plain word
  | .notWhole word => text "invalid integer " ++ Quote.plain word
  | .notUnary word => Quote.plain word ++ text ": unary operator expected"
  | .notBinary word => Quote.plain word ++ text ": binary operator expected"
  | .unclosed => text "')' expected"
  | .notClosing word => text "')' expected, found " ++ Quote.plain word
  | .noLength operator => operator ++ text " does not accept -l"
  | .lacksBracket => text "missing ']'"

/-- The words of a condition. -/
structure Words where
  /-- All words. -/
  all : Array Bytes
  /-- How many of them, from the first one on, belong to the condition. -/
  size : Nat

/-- Reads and judges words from a place on. -/
abbrev Judging (α : Type) := ReaderT Words (StateT Nat (ExceptT Fault Prog)) α

/-- Puts a question to the system. -/
def askSystem {α : Type} (question : Prog α) : Judging α :=
  fun _ place => ExceptT.mk do return .ok (← question, place)

/-- The word so many places ahead; there is an empty one behind all others. -/
def ahead (distance : Nat) : Judging Bytes := do
  let words ← read
  return words.all.getD ((← get) + distance) []

/-- How many words are left. -/
def left : Judging Nat := do return (← read).size - (← get)

/-- Some word is missing. -/
def lack {α : Type} : Judging α := do
  let words ← read
  throw (.lacking (words.all.getD (words.size - 1) []))

/-- Goes one word further, behind which another one has to follow. -/
def advanceWithin : Judging Unit := do
  modify (· + 1)
  if (← left) = 0 then lack

/-- Takes a word. -/
def takeWord : Judging Bytes := do
  let word ← ahead 0
  modify (· + 1)
  return word

/-- The operators that compare numbers. -/
def comparisons : List (String × (Int → Int → Bool)) :=
  [("-eq", fun a b => a == b), ("-ne", fun a b => a != b), ("-lt", fun a b => a < b),
   ("-le", fun a b => a ≤ b), ("-gt", fun a b => b < a), ("-ge", fun a b => b ≤ a)]

/-- The operators that compare words. -/
def wordComparisons : List (String × (Bytes → Bytes → Bool)) :=
  [("=", fun a b => a == b), ("==", fun a b => a == b), ("!=", fun a b => a != b)]

/-- The word is an operator that stands between two words. -/
def isBinary (word : Bytes) : Bool :=
  let spelled := Text.textOf word
  (comparisons.lookup spelled).isSome || (wordComparisons.lookup spelled).isSome
    || (FilePair.ofOperator? word).isSome

/-- The word looks like an operator that stands before another word. -/
def looksUnary (word : Bytes) : Bool := word.length = 2 && word.head? == some 45

/-- The number that a word spells. -/
def wholeNumber (word : Bytes) : Judging Int := do
  let trimmed := word.dropWhile Text.isSpace
  let (negative, unsigned) := match trimmed with
    | 45 :: rest => (true, rest)
    | 43 :: rest => (false, rest)
    | rest => (false, rest)
  let digits := unsigned.takeWhile Text.isDigit
  if digits.isEmpty || !(unsigned.drop digits.length).all Text.isSpace then
    throw (.notWhole word)
  let value : Int := Text.valueOf 10 digits
  return if negative then -value else value

/-- Judges an operator and the word behind it. -/
def unary : Judging Bool := do
  let operator ← ahead 0
  let known := (FileQuestion.ofOperator? operator).isSome
    || [text "-n", text "-z", text "-t", text "-N"].contains operator
  if !known then throw (.notUnary operator)
  advanceWithin
  let word ← takeWord
  if operator == text "-n" then return !word.isEmpty
  if operator == text "-z" then return word.isEmpty
  if operator == text "-N" then return false
  if operator == text "-t" then
    let number ← wholeNumber word
    if number < 0 then return false
    match ← askSystem (Prog.call (.kind number.toNat)) with
    | .ok .terminal => return true
    | _ => return false
  match FileQuestion.ofOperator? operator with
  | some question => askSystem (question.ask word)
  | none => return false

/-- A side of a comparison of numbers: the number that a word spells, or the length of the word. -/
def side (measured : Bool) (word : Bytes) : Judging Int :=
  if measured then return (word.length : Int) else wholeNumber word

/-- Judges a question about two paths, which has no answer if none is there. -/
def judgePaths (pair : FilePair) (first second : Bytes) : Judging Bool := do
  let (a, b) ← askSystem (FilePair.statuses first second)
  match pair with
  | .newer =>
      return match a, b with
        | some a, some b => decide (b.node.changed < a.node.changed)
        | some _, none => true
        | none, _ => false
  | .older =>
      return match a, b with
        | some a, some b => decide (a.node.changed < b.node.changed)
        | none, some _ => true
        | _, none => false
  | .same =>
      return match a, b with
        | some a, some b => a.id == b.id
        | _, _ => false

/-- Judges two words with an operator between them. What stands before either word tells that its
length is meant. -/
def binary (leftMeasured : Bool) : Judging Bool := do
  if leftMeasured then modify (· + 1)
  let first ← ahead 0
  let operator ← ahead 1
  let rightMeasured := 3 < (← left) && (← ahead 2) == text "-l"
  if rightMeasured then modify (· + 1)
  let second ← ahead 2
  let spelled := Text.textOf operator
  match comparisons.lookup spelled, FilePair.ofOperator? operator with
  | some compare, _ =>
      let a ← side leftMeasured first
      let b ← side rightMeasured second
      modify (· + 3)
      return compare a b
  | none, some pair =>
      modify (· + 3)
      if leftMeasured || rightMeasured then throw (.noLength operator)
      judgePaths pair first second
  | none, none =>
      modify (· + 3)
      match wordComparisons.lookup spelled with
      | some compare => return compare first second
      | none => return false

/-- Judges a word by itself. -/
def single : Judging Bool := do return !(← takeWord).isEmpty

/-- Judges two words. -/
def two : Judging Bool := do
  let first ← ahead 0
  if first == text "!" then
    modify (· + 1)
    return !(← single)
  else if looksUnary first then unary
  else lack

/-- How many words a group holds that ends at the next closing sign; when that is far, all that are
left. -/
def groupSize : Judging Nat := do
  let count ← left
  let words ← (List.range (min count 5)).mapM fun distance => ahead distance
  let behind := ((words.drop 1).takeWhile (· != text ")")).length
  return if behind = 4 then count else behind + 1

mutual

/-- Judges so many words. -/
def byCount : (depth : Nat) → (count : Nat) → Judging Bool
  | 0, _ => lack
  | depth + 1, count => do
      let first ← ahead 0
      match count with
      | 0 => lack
      | 1 => single
      | 2 => two
      | 3 => three depth
      | 4 =>
          if first == text "!" then
            advanceWithin
            return !(← three depth)
          else if first == text "(" && (← ahead 3) == text ")" then
            modify (· + 1)
            let holds ← two
            modify (· + 1)
            return holds
          else alternatives depth
      | _ => alternatives depth

/-- Judges three words. -/
def three : (depth : Nat) → Judging Bool
  | 0 => lack
  | depth + 1 => do
      let first ← ahead 0
      let second ← ahead 1
      if isBinary second then binary false
      else if first == text "!" then
        advanceWithin
        return !(← two)
      else if first == text "(" && (← ahead 2) == text ")" then
        modify (· + 1)
        let holds ← single
        modify (· + 1)
        return holds
      else if second == text "-a" || second == text "-o" then alternatives depth
      else throw (.notBinary second)

/-- Judges conditions one of which has to hold. -/
def alternatives : (depth : Nat) → Judging Bool
  | 0 => lack
  | depth + 1 => do
      if (← left) = 0 then lack
      let holds ← conjunction depth
      if 0 < (← left) && (← ahead 0) == text "-o" then
        modify (· + 1)
        let others ← alternatives depth
        return holds || others
      else return holds

/-- Judges conditions that all have to hold. -/
def conjunction : (depth : Nat) → Judging Bool
  | 0 => lack
  | depth + 1 => do
      let holds ← term depth
      if 0 < (← left) && (← ahead 0) == text "-a" then
        modify (· + 1)
        let others ← conjunction depth
        return holds && others
      else return holds

/-- Judges a condition without operators between conditions, outside groups. -/
def term : (depth : Nat) → Judging Bool
  | 0 => lack
  | depth + 1 => do
      if (← left) = 0 then lack
      let first ← ahead 0
      if first == text "!" then
        advanceWithin
        return !(← term depth)
      else if first == text "(" then
        advanceWithin
        let holds ← byCount depth (← groupSize)
        let words ← read
        if words.all.size ≤ (← get) then throw .unclosed
        let closing ← takeWord
        if closing != text ")" then throw (.notClosing closing)
        return holds
      else if 4 ≤ (← left) && first == text "-l" && isBinary (← ahead 2) then binary true
      else if 3 ≤ (← left) && isBinary (← ahead 1) then binary false
      else if looksUnary first then unary
      else single

end

/-- Judges all words. -/
def whole : Judging Bool := do
  let count ← left
  if count = 0 then return false
  let holds ← byCount (8 * count + 8) count
  if 0 < (← left) then throw (.extra (← ahead 0))
  return holds

/-- Answers a condition by an exit code. -/
def answer (name : Bytes) (words : Words) : Prog Int := do
  match ← ((whole.run words).run 0).run with
  | .ok (holds, _) => return if holds then 0 else 1
  | .error fault =>
      complain name fault.message
      return 2

end Condition

/-- Tells whether a condition holds. -/
def test : Utility := fun arguments =>
  let words := arguments.tail
  Condition.answer (nameOf arguments) ⟨words.toArray, words.length⟩

/-- Tells whether a condition before a closing bracket holds. -/
def bracket : Utility := fun arguments => do
  let words := arguments.tail
  if words.getLast? == some (text "]") then
    Condition.answer (nameOf arguments) ⟨words.toArray, words.length - 1⟩
  else
    complain (nameOf arguments) Condition.Fault.lacksBracket.message
    return 2

end LineShell.Utility
