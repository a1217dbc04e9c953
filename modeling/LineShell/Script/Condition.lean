import LineShell.Script.Printing
import LineShell.System.Question

/-!
# Conditions

- **`test`** tells whether the condition that its words spell holds, and **`bracket`** does the same
  for words up to a closing bracket.
-/

namespace LineShell.Script

namespace Condition

/-- An operator. -/
inductive Operator where
  /-- It turns the next condition round. -/
  | not
  /-- It joins conditions both of which have to hold. -/
  | and
  /-- It joins conditions one of which has to hold. -/
  | or
  /-- It begins a group of conditions. -/
  | opening
  /-- It ends a group of conditions. -/
  | closing
  /-- It stands before a word. -/
  | unary
  /-- It stands between two words. -/
  | binary
  deriving DecidableEq, Repr, Inhabited

/-- The operators that compare numbers. -/
def comparisons : List (String × (Int → Int → Bool)) :=
  [("-eq", fun a b => a == b), ("-ne", fun a b => a != b), ("-lt", fun a b => a < b),
   ("-le", fun a b => a ≤ b), ("-gt", fun a b => a > b), ("-ge", fun a b => a ≥ b)]

/-- The operators that compare texts. -/
def textComparisons : List (String × (Bytes → Bytes → Bool)) :=
  [("=", fun a b => a == b), ("!=", fun a b => a != b),
   ("<", fun a b => !Text.bytesLe b a), (">", fun a b => !Text.bytesLe a b)]

/-- The operator that a word is. -/
def operator? (word : Bytes) : Option Operator :=
  let spelled := Text.textOf word
  if spelled == "!" then some .not
  else if spelled == "-a" then some .and
  else if spelled == "-o" then some .or
  else if spelled == "(" then some .opening
  else if spelled == ")" then some .closing
  else if spelled == "-n" || spelled == "-z" || spelled == "-t"
      || (FileQuestion.ofOperator? word).isSome then
    some .unary
  else if (comparisons.lookup spelled).isSome || (textComparisons.lookup spelled).isSome
      || (FilePair.ofOperator? word).isSome then
    some .binary
  else none

/-- What a word at some place is taken for. -/
inductive Reading where
  /-- There is no word. -/
  | nothing
  /-- An operand. -/
  | operand
  /-- An operator. -/
  | operator (operator : Operator)
  deriving DecidableEq, Repr, Inhabited

section Words

variable (words : Array Bytes)

/-- The word at a place would be an operand even if it looks like an operator. -/
def isOperand (place : Nat) : Bool :=
  match words[place + 1]?, words[place + 2]? with
  | none, _ => true
  | _, none => false
  | some next, _ => operator? next == some .binary

/-- What the word at a place is taken for. -/
def reading (place : Nat) : Reading :=
  match words[place]? with
  | none => .nothing
  | some word =>
      match operator? word with
      | none => .operand
      | some operator =>
          if operator == .unary && isOperand words place then .operand
          else if operator == .opening && place + 1 ≥ words.size then .operand
          else .operator operator

/-- The word at a place. -/
def wordAt (place : Nat) : Bytes := words.getD place []

/-- Stops because of a word. -/
def refuse {α : Type} (word : Bytes) (message : String) : Activity α :=
  if word.isEmpty then failWith message
  else fail (word ++ Text.bytesOf (": " ++ message))

/-- The number that a word spells. -/
def number (word : Bytes) : Activity Int := do
  match Number.Whole.read (some 10) word with
  | some reading =>
      if reading.rest.all Text.isSpace && Number.Whole.clamp reading.value == reading.value then
        return reading.value
      else fail (Text.bytesOf "Illegal number: " ++ word)
  | none => fail (Text.bytesOf "Illegal number: " ++ word)

/-- An operator before a word holds of it. -/
def unary (operator word : Bytes) : Activity Bool := do
  match Text.textOf operator with
  | "-n" => return !word.isEmpty
  | "-z" => return word.isEmpty
  | "-t" =>
      let fd ← number word
      match ← Activity.ask (.kind fd.toNat) with
      | .ok .terminal => return 0 ≤ fd
      | _ => return false
  | _ =>
      match FileQuestion.ofOperator? operator with
      | some question => liftM (question.ask word)
      | none => return false

/-- An operator between two words holds of them. -/
def binary (operator first second : Bytes) : Activity Bool := do
  let spelled := Text.textOf operator
  match textComparisons.lookup spelled, comparisons.lookup spelled with
  | some compare, _ => return compare first second
  | none, some compare =>
      let a ← number first
      let b ← number second
      return compare a b
  | none, none =>
      let (a, b) ← liftM (FilePair.statuses first second)
      match FilePair.ofOperator? operator, a, b with
      | some .newer, some a, some b => return b.node.changed < a.node.changed
      | some .older, some a, some b => return a.node.changed < b.node.changed
      | some .same, some a, some b => return a.id == b.id
      | _, _, _ => return false

mutual

/-- Conditions one of which has to hold, and the place where they end. -/
def disjunction : (depth : Nat) → Reading → (place : Nat) → Activity (Bool × Nat)
  | 0, _, place => return (false, place)
  | depth + 1, first, place => do
      let (holds, place) ← conjunction depth first place
      if reading words (place + 1) == .operator .or then
        let (more, place) ← disjunction depth (reading words (place + 2)) (place + 2)
        return (holds || more, place)
      else return (holds, place)

/-- Conditions that all have to hold, and the place where they end. -/
def conjunction : (depth : Nat) → Reading → (place : Nat) → Activity (Bool × Nat)
  | 0, _, place => return (false, place)
  | depth + 1, first, place => do
      let (holds, place) ← negation depth first place
      if reading words (place + 1) == .operator .and then
        let (more, place) ← conjunction depth (reading words (place + 2)) (place + 2)
        return (holds && more, place)
      else return (holds, place)

/-- A condition that may be turned round, and the place where it ends. -/
def negation : (depth : Nat) → Reading → (place : Nat) → Activity (Bool × Nat)
  | 0, _, place => return (false, place)
  | depth + 1, first, place => do
      if first != .operator .not then primary depth first place
      else
        let next := reading words (place + 1)
        let place := if next == .nothing then place else place + 1
        let (holds, place) ← negation depth next place
        return (!holds, place)

/-- A condition of few words, and the place where it ends. -/
def primary : (depth : Nat) → Reading → (place : Nat) → Activity (Bool × Nat)
  | 0, _, place => return (false, place)
  | depth + 1, first, place => do
      match first with
      | .nothing => return (false, place)
      | .operator .opening =>
          let next := reading words (place + 1)
          if next == .operator .closing then return (false, place + 1)
          let (holds, place) ← disjunction depth next (place + 1)
          if reading words (place + 1) != .operator .closing then
            failWith "closing paren expected"
          return (holds, place + 1)
      | .operator .unary =>
          if words.size ≤ place + 1 then refuse (wordAt words place) "argument expected"
          return (← unary (wordAt words place) (wordAt words (place + 1)), place + 1)
      | _ =>
          if reading words (place + 1) == .operator .binary then
            let operator := wordAt words (place + 1)
            if words.size ≤ place + 2 then refuse operator "argument expected"
            return (← binary operator (wordAt words place) (wordAt words (place + 2)), place + 2)
          else return (!(wordAt words place).isEmpty, place)

end

end Words

/-- Whether all the words together spell a condition that holds. -/
def whole (words : List Bytes) (first : Option Reading) : Activity Bool := do
  let all := words.toArray
  let (holds, place) ←
    disjunction all (4 * words.length + 8) (first.getD (reading all 0)) 0
  if place + 1 < all.size then refuse (wordAt all place) "unexpected operator"
  return holds

/-- Whether words spell a condition that holds. Few words are taken apart by their number. -/
def evaluate : (most : Nat) → List Bytes → Activity Bool
  | 0, _ => return false
  | most + 1, words => do
      let negated := words.head? == some [33]
      let grouped := words.head? == some [40] && words.getLast? == some [41]
      let few (goOn : Activity Bool) : Activity Bool := do
        if grouped then whole words.tail.dropLast none
        else if negated then return !(← evaluate most words.tail)
        else goOn
      match words with
      | [] => return false
      | [_, operator, _] =>
          if operator? operator == some .binary then whole words (some .operand)
          else few (whole words none)
      | [_, _, _, _] => few (whole words none)
      | words => whole words none

/-- The exit code that a truth value stands for. -/
def code (holds : Bool) : Int := if holds then 0 else 1

end Condition

/-- Tells whether a condition holds. -/
def test : Builtin := fun words => do
  return Condition.code (← Condition.evaluate (words.length + 1) words.tail)

/-- Tells whether a condition before a closing bracket holds. -/
def bracket : Builtin := fun words => do
  if words.tail.getLast? != some [93] then failWith "missing ]"
  return Condition.code (← Condition.evaluate words.length words.tail.dropLast)

end LineShell.Script
