import LineShell.Text.Ascii

/-!
# Regular expressions

- **`Regex`** is the structure of a regular expression.
- **`ByteSet`** is a set of bytes that is tested in one step.
- **`Regex.Fault`** says why a text is no regular expression.
-/

namespace LineShell

/-- A set of bytes, as one truth value for each of them. -/
structure ByteSet where
  /-- The truth values in the order of the bytes. -/
  members : Array Bool
  deriving DecidableEq, Repr, Inhabited

namespace ByteSet

/-- The byte is in the set. -/
def contains (set : ByteSet) (b : UInt8) : Bool := set.members.getD b.toNat false

/-- The set of the bytes that pass a test. -/
def ofTest (test : UInt8 → Bool) : ByteSet := ⟨(Text.allBytes.map test).toArray⟩

/-- The set of one byte. -/
def single (b : UInt8) : ByteSet := ofTest (· == b)

/-- The set of all bytes that are not in a set. -/
def complement (set : ByteSet) : ByteSet := ofTest fun b => !set.contains b

/-- The set of the bytes in either of two sets. -/
def union (a b : ByteSet) : ByteSet := ofTest fun c => a.contains c || b.contains c

/-- The set without a byte. -/
def remove (set : ByteSet) (b : UInt8) : ByteSet := ofTest fun c => set.contains c && c != b

/-- The set with each letter in both cases. -/
def foldCase (set : ByteSet) : ByteSet :=
  ofTest fun b => set.contains b || set.contains (Text.upper b) || set.contains (Text.lower b)

/-- The empty set. -/
def empty : ByteSet := ofTest fun _ => false

end ByteSet

/-- Where a regular expression may be asked to stand. -/
inductive Anchor where
  /-- At the beginning of a line. -/
  | lineStart
  /-- At the end of a line. -/
  | lineEnd
  /-- At the beginning of the text. -/
  | textStart
  /-- At the end of the text. -/
  | textEnd
  /-- At the beginning of a word. -/
  | wordStart
  /-- At the end of a word. -/
  | wordEnd
  /-- At the beginning or the end of a word. -/
  | wordEdge
  /-- Neither at the beginning nor at the end of a word. -/
  | noWordEdge
  /-- Where no word character comes before. -/
  | noWordBefore
  /-- Where no word character comes behind. -/
  | noWordBehind
  deriving DecidableEq, Repr, Inhabited

/-- The structure of a regular expression. -/
inductive Regex where
  /-- Nothing. -/
  | empty
  /-- One byte of a set. -/
  | set (members : ByteSet)
  /-- Nothing, at a certain place. -/
  | anchor (place : Anchor)
  /-- A part whose place is remembered under a number. -/
  | group (number : Nat) (body : Regex)
  /-- What the part with a number stands for. -/
  | back (number : Nat)
  /-- One after the other. -/
  | seq (first second : Regex)
  /-- One or the other. -/
  | alt (first second : Regex)
  /-- So many times at least, and at most, if there is a bound. -/
  | times (body : Regex) (least : Nat) (most : Option Nat)
  deriving Repr, Inhabited

namespace Regex

/-- Why a text is no regular expression. -/
inductive Fault where
  /-- It is none at all. -/
  | invalid
  /-- A name of a collating element is unknown. -/
  | collation
  /-- A name of a class is unknown. -/
  | className
  /-- A backslash comes last. -/
  | trailingBackslash
  /-- A part is meant that has not ended before. -/
  | backReference
  /-- A bracket is not closed. -/
  | unmatchedBracket
  /-- A group is not closed. -/
  | unmatchedGroup
  /-- The bounds of a repetition are not closed. -/
  | unmatchedBrace
  /-- The bounds of a repetition make no sense. -/
  | braceContent
  /-- The end of a range comes before its beginning. -/
  | range
  /-- It is too big. -/
  | tooBig
  /-- There is nothing to repeat. -/
  | repetition
  /-- A group is closed that was not opened. -/
  | unmatchedClose
  /-- A class stands where a list of bytes was meant. -/
  | classSyntax
  deriving DecidableEq, Repr, Inhabited

/-- The text of a fault. -/
def Fault.message : Fault → String
  | .invalid => "Invalid regular expression"
  | .collation => "Invalid collation character"
  | .className => "Invalid character class name"
  | .trailingBackslash => "Trailing backslash"
  | .backReference => "Invalid back reference"
  | .unmatchedBracket => "Unmatched [, [^, [:, [., or [="
  | .unmatchedGroup => "Unmatched ( or \\("
  | .unmatchedBrace => "Unmatched \\\x7b"
  | .braceContent => "Invalid content of \\\x7b\\\x7d"
  | .range => "Invalid range end"
  | .tooBig => "Regular expression too big"
  | .repetition => "Invalid preceding regular expression"
  | .unmatchedClose => "Unmatched ) or \\)"
  | .classSyntax => "character class syntax is [[:space:]], not [:space:]"

end Regex

end LineShell
