import LineShell.Regex.Matcher
import LineShell.Utility.Base

/-!
# Sums

A sum is made of words and operators. It is computed while it is read; a part whose value does not
matter is read all the same.

- **`expr`** writes the value of the sum that its words spell.
-/

namespace LineShell.Utility

namespace Sum

/-- Why a sum has no value. -/
inductive Fault where
  /-- A word is missing behind this one. -/
  | lacking (word : Bytes)
  /-- The sum has ended before this word. -/
  | extra (word : Bytes)
  /-- A group should have been closed behind this word. -/
  | unclosed (word : Bytes)
  /-- A group should have been closed in place of this word. -/
  | notClosing (word : Bytes)
  /-- A group is closed that was not opened. -/
  | unopened
  /-- A word should be a number and is none. -/
  | notWhole
  /-- Something is divided by zero. -/
  | zeroDivision
  /-- A word should be a regular expression and is none. -/
  | pattern (fault : Regex.Fault)

/-- The text of a fault. -/
def Fault.message : Fault → Bytes
  | .lacking word => text "syntax error: missing argument after " ++ Quote.plain word
  | .extra word => text "syntax error: unexpected argument " ++ Quote.plain word
  | .unclosed word => text "syntax error: expecting ')' after " ++ Quote.plain word
  | .notClosing word => text "syntax error: expecting ')' instead of " ++ Quote.plain word
  | .unopened => text "syntax error: unexpected ')'"
  | .notWhole => text "non-integer argument"
  | .zeroDivision => text "division by zero"
  | .pattern fault => text fault.message

/-- A value. -/
inductive Value where
  /-- A number. -/
  | number (value : Int)
  /-- A word. -/
  | word (bytes : Bytes)
  deriving DecidableEq, Repr, Inhabited

namespace Value

/-- The number that a word spells: digits, perhaps behind a minus sign. -/
def whole? (word : Bytes) : Option Int :=
  let (negative, digits) := match word with
    | 45 :: rest => (true, rest)
    | rest => (false, rest)
  if digits.isEmpty || !digits.all Text.isDigit then none
  else
    let value : Int := Text.valueOf 10 digits
    some (if negative then -value else value)

/-- A value as a word. -/
def bytes : Value → Bytes
  | .number value => text (toString value)
  | .word bytes => bytes

/-- A value as a number, if it is one. -/
def number? : Value → Option Int
  | .number value => some value
  | .word bytes => whole? bytes

/-- The value stands for nothing: it is empty or zero. -/
def isVoid : Value → Bool
  | .number value => value == 0
  | .word bytes => bytes.isEmpty || whole? bytes == some 0

/-- The value of something that holds or does not. -/
def ofBool (holds : Bool) : Value := .number (if holds then 1 else 0)

end Value

/-- What is read of a sum. -/
structure Rest where
  /-- The words that are left. -/
  words : List Bytes
  /-- The word before them. -/
  before : Bytes := []

/-- Reads words. -/
abbrev Reading (α : Type) := StateT Rest (Except Fault) α

/-- Takes the next word if it is the given one. -/
def accepts (word : String) : Reading Bool := do
  match (← get).words with
  | next :: rest =>
      if next == text word then
        set { words := rest, before := next : Rest }
        return true
      else return false
  | [] => return false

/-- Takes the next of some words, if it is one of them, and tells what it means. -/
def oneOf? {α : Type} (words : List (String × α)) : Reading (Option α) := do
  match (← get).words with
  | next :: rest =>
      match words.find? fun entry => text entry.1 == next with
      | some entry =>
          set { words := rest, before := next : Rest }
          return some entry.2
      | none => return none
  | [] => return none

/-- Takes the next word, which has to be there. -/
def takeWord : Reading Bytes := do
  let rest ← get
  match rest.words with
  | next :: words =>
      set { words := words, before := next : Rest }
      return next
  | [] => throw (.lacking rest.before)

/-- The numbers that two values are. -/
def bothNumbers (a b : Value) : Reading (Int × Int) :=
  match a.number?, b.number? with
  | some m, some n => return (m, n)
  | _, _ => throw .notWhole

/-- What a regular expression finds at the beginning of a word: the group in it, or how much it
matches if there is none. -/
def matched (word pattern : Bytes) : Reading Value := do
  match Regex.compile {} pattern with
  | .error fault => throw (.pattern fault)
  | .ok program =>
      match program.matchAt? { bytes := word.toArray } 0 with
      | some found =>
          if program.groups = 0 then return .number (found.stop - found.start : Nat)
          else
            match found.group? 1 with
            | some (start, stop) => return .word ((word.take stop).drop start)
            | none => return .word []
      | none => return if program.groups = 0 then .number 0 else .word []

/-- The part of a word from a position on, counted from one, of the given length at most. -/
def part (word : Bytes) (position length : Value) : Value :=
  match position.number?, length.number? with
  | some position, some length =>
      if position ≤ 0 || length ≤ 0 then .word []
      else .word ((word.drop (position.toNat - 1)).take length.toNat)
  | _, _ => .word []

/-- The position, counted from one, of the first byte of a word that is one of some bytes, or
zero. -/
def firstOf (word members : Bytes) : Value :=
  match word.findIdx? members.contains with
  | some index => .number (index + 1)
  | none => .number 0

/-- The operators that multiply and divide. -/
def products : List (String × (Int → Int → Except Fault Int)) :=
  [("*", fun a b => .ok (a * b)),
   ("/", fun a b => if b = 0 then .error .zeroDivision else .ok (a.tdiv b)),
   ("%", fun a b => if b = 0 then .error .zeroDivision else .ok (a.tmod b))]

/-- The operators that add and subtract. -/
def additions : List (String × (Int → Int → Except Fault Int)) :=
  [("+", fun a b => .ok (a + b)), ("-", fun a b => .ok (a - b))]

/-- The operators that compare. -/
def comparisons : List (String × (Ordering → Bool)) :=
  [("<", fun o => o == .lt), ("<=", fun o => o != .gt), ("=", fun o => o == .eq),
   ("==", fun o => o == .eq), ("!=", fun o => o != .eq), (">=", fun o => o != .lt),
   (">", fun o => o == .gt)]

/-- The order of two values: of the numbers, if both are numbers, or else of the words. -/
def order (a b : Value) : Ordering :=
  match a.number?, b.number? with
  | some m, some n => compare m n
  | _, _ =>
      if a.bytes == b.bytes then .eq
      else if Text.bytesLe a.bytes b.bytes then .lt
      else .gt

/-- Applies an operator to numbers, if the value matters. -/
def compute (matters : Bool) (operator : Int → Int → Except Fault Int) (a b : Value) :
    Reading Value := do
  if !matters then return a
  let (m, n) ← bothNumbers a b
  return .number (← liftM (operator m n))

mutual

/-- Values of which the first that is not void counts. -/
def alternatives : (depth : Nat) → (matters : Bool) → Reading Value
  | 0, _ => return default
  | depth + 1, matters => do
      let first ← conjunction depth matters
      moreAlternatives depth matters first

/-- Goes on behind a value that counts unless it is void. -/
def moreAlternatives : (depth : Nat) → (matters : Bool) → Value → Reading Value
  | 0, _, value => return value
  | depth + 1, matters, value => do
      if !(← accepts "|") then return value
      let other ← conjunction depth (matters && value.isVoid)
      moreAlternatives depth matters
        (if !value.isVoid then value else if other.isVoid then .number 0 else other)

/-- Values of which the first counts unless one of them is void. -/
def conjunction : (depth : Nat) → (matters : Bool) → Reading Value
  | 0, _ => return default
  | depth + 1, matters => do
      let first ← comparison depth matters
      moreConjunction depth matters first

/-- Goes on behind a value that counts unless one behind it is void. -/
def moreConjunction : (depth : Nat) → (matters : Bool) → Value → Reading Value
  | 0, _, value => return value
  | depth + 1, matters, value => do
      if !(← accepts "&") then return value
      let other ← comparison depth (matters && !value.isVoid)
      moreConjunction depth matters
        (if value.isVoid || other.isVoid then .number 0 else value)

/-- Values that are compared. -/
def comparison : (depth : Nat) → (matters : Bool) → Reading Value
  | 0, _ => return default
  | depth + 1, matters => do
      let first ← addition depth matters
      moreComparison depth matters first

/-- Goes on behind a value that is compared. -/
def moreComparison : (depth : Nat) → (matters : Bool) → Value → Reading Value
  | 0, _, value => return value
  | depth + 1, matters, value => do
      match ← oneOf? comparisons with
      | none => return value
      | some holds =>
          let other ← addition depth matters
          moreComparison depth matters
            (if matters then .ofBool (holds (order value other)) else .number 0)

/-- Values that are added or subtracted. -/
def addition : (depth : Nat) → (matters : Bool) → Reading Value
  | 0, _ => return default
  | depth + 1, matters => do
      let first ← product depth matters
      moreAddition depth matters first

/-- Goes on behind a value to which others are added. -/
def moreAddition : (depth : Nat) → (matters : Bool) → Value → Reading Value
  | 0, _, value => return value
  | depth + 1, matters, value => do
      match ← oneOf? additions with
      | none => return value
      | some operator =>
          let other ← product depth matters
          moreAddition depth matters (← compute matters operator value other)

/-- Values that are multiplied or divided. -/
def product : (depth : Nat) → (matters : Bool) → Reading Value
  | 0, _ => return default
  | depth + 1, matters => do
      let first ← matching depth matters
      moreProduct depth matters first

/-- Goes on behind a value that is multiplied or divided. -/
def moreProduct : (depth : Nat) → (matters : Bool) → Value → Reading Value
  | 0, _, value => return value
  | depth + 1, matters, value => do
      match ← oneOf? products with
      | none => return value
      | some operator =>
          let other ← matching depth matters
          moreProduct depth matters (← compute matters operator value other)

/-- Values in which regular expressions are sought. -/
def matching : (depth : Nat) → (matters : Bool) → Reading Value
  | 0, _ => return default
  | depth + 1, matters => do
      let first ← call depth matters
      moreMatching depth matters first

/-- Goes on behind a value in which a regular expression may be sought. -/
def moreMatching : (depth : Nat) → (matters : Bool) → Value → Reading Value
  | 0, _, value => return value
  | depth + 1, matters, value => do
      if !(← accepts ":") then return value
      let pattern ← call depth matters
      let next ← if matters then matched value.bytes pattern.bytes else pure value
      moreMatching depth matters next

/-- A value that a word before it asks for, or a plain one. -/
def call : (depth : Nat) → (matters : Bool) → Reading Value
  | 0, _ => return default
  | depth + 1, matters => do
      if ← accepts "+" then return .word (← takeWord)
      else if ← accepts "length" then
        return .number (← call depth matters).bytes.length
      else if ← accepts "match" then
        let value ← call depth matters
        let pattern ← call depth matters
        if matters then matched value.bytes pattern.bytes else return value
      else if ← accepts "index" then
        let value ← call depth matters
        let members ← call depth matters
        return firstOf value.bytes members.bytes
      else if ← accepts "substr" then
        let value ← call depth matters
        let position ← call depth matters
        let length ← call depth matters
        return part value.bytes position length
      else operand depth matters

/-- A word or a group. -/
def operand : (depth : Nat) → (matters : Bool) → Reading Value
  | 0, _ => return default
  | depth + 1, matters => do
      if ← accepts "(" then
        let value ← alternatives depth matters
        let rest ← get
        match rest.words with
        | [] => throw (.unclosed rest.before)
        | next :: _ =>
            if ← accepts ")" then return value else throw (.notClosing next)
      else if ← accepts ")" then throw .unopened
      else return .word (← takeWord)

end

/-- The value of a whole sum. -/
def whole (words : List Bytes) : Except Fault Value := do
  let (value, rest) ← (alternatives (8 * words.length + 16) true).run { words := words }
  match rest.words with
  | [] => return value
  | word :: _ => throw (.extra word)

end Sum

/-- Writes the value of a sum. -/
def expr : Utility := fun arguments => do
  let name := nameOf arguments
  let words := match arguments.tail with
    | first :: rest => if first == text "--" then rest else first :: rest
    | [] => []
  if words.isEmpty then
    complain name (text "missing operand")
    pointToHelp name
    return 2
  match Sum.whole words with
  | .ok value => emit name (value.bytes ++ [newline]) (if value.isVoid then 1 else 0) (.plain 3)
  | .error fault =>
      complain name fault.message
      return 2

end LineShell.Utility
