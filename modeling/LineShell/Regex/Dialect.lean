import LineShell.Regex.Basic

/-!
# Dialects of regular expressions

Utilities differ in which characters have a meaning and in what they refuse.

- **`Dialect`** says how a text is read.
- **`Dialect.tokenAt`** tells what stands at a place of the text.
-/

namespace LineShell.Regex

/-- How the text of a regular expression is read. -/
structure Dialect where
  /-- Groups, bars and bounds need no backslash. -/
  extended : Bool := false
  /-- The case of letters does not matter. -/
  foldCase : Bool := false
  /-- A repetition sign in first place repeats nothing; otherwise it stands for itself, or is
  refused. -/
  leadingRepeats : Bool := false
  /-- Repetitions must not follow each other where groups need a backslash. -/
  singleRepeats : Bool := false
  /-- Bounds that make no sense stand for themselves. -/
  looseBounds : Bool := false
  /-- The end of a group that was not opened stands for itself. -/
  looseClose : Bool := false
  /-- A line feed separates alternatives. -/
  lineFeedParts : Bool := false
  /-- Line feeds within the text end lines, and only they themselves match them. -/
  manyLines : Bool := false
  /-- The point does not match NUL. -/
  sparesNul : Bool := false
  /-- The signs for once or more often and at most once need no backslash. -/
  bareRepeats : Bool := false
  /-- Further letters have a meaning behind a backslash. -/
  perl : Bool := false
  deriving DecidableEq, Repr, Inhabited

/-- What stands at a place of a regular expression. -/
inductive Token where
  /-- A byte that stands for itself. -/
  | byte (b : UInt8)
  /-- Any of some bytes. -/
  | members (set : ByteSet)
  /-- The beginning of a list of bytes. -/
  | bracket
  /-- The beginning of a group. -/
  | openGroup
  /-- The end of a group. -/
  | closeGroup
  /-- The sign between alternatives. -/
  | bar
  /-- The sign for any number of times. -/
  | star
  /-- The sign for once or more often. -/
  | plus
  /-- The sign for at most once. -/
  | question
  /-- The beginning of bounds. -/
  | openBrace
  /-- The end of bounds. -/
  | closeBrace
  /-- A place that is asked for. -/
  | anchor (place : Anchor)
  /-- What a group stands for. -/
  | back (number : Nat)
  /-- A backslash at the end. -/
  | lastBackslash
  /-- Nothing is left. -/
  | finish
  deriving DecidableEq, Repr, Inhabited

namespace Dialect

/-- The bytes that a point stands for. -/
def anyByte (dialect : Dialect) : ByteSet :=
  ByteSet.ofTest fun b => !(dialect.manyLines && b == 10) && !(dialect.sparesNul && b == 0)

/-- What a byte behind a backslash stands for. -/
def escaped (dialect : Dialect) (b : UInt8) : Token :=
  let basic := !dialect.extended
  match Char.ofNat b.toNat with
  | '|' => if basic then .bar else .byte b
  | '<' => .anchor .wordStart
  | '>' => .anchor .wordEnd
  | 'b' => .anchor .wordEdge
  | 'B' => .anchor .noWordEdge
  | '\x60' => .anchor .textStart
  | '\x27' => .anchor .textEnd
  | 'w' => .members (.ofTest Text.isWordByte)
  | 'W' => .members (.ofTest fun c => !Text.isWordByte c)
  | 's' => .members (.ofTest Text.isSpace)
  | 'S' => .members (.ofTest fun c => !Text.isSpace c)
  | '(' => if basic then .openGroup else .byte b
  | ')' => if basic then .closeGroup else .byte b
  | '+' => if basic && !dialect.bareRepeats then .plus else .byte b
  | '?' => if basic && !dialect.bareRepeats then .question else .byte b
  | '\x7b' => if basic then .openBrace else .byte b
  | '\x7d' => if basic then .closeBrace else .byte b
  | _ => if 49 ≤ b ∧ b ≤ 57 then .back (b.toNat - 48) else .byte b

/-- The end of an alternative begins with the given byte, or comes at the end of the text. -/
def endsPart (dialect : Dialect) (text : Array UInt8) (place : Nat) : Bool :=
  match text[place]? with
  | none => true
  | some b =>
      if dialect.lineFeedParts && b == 10 then true
      else if dialect.extended then b == 124 || b == 41
      else b == 92 && (text[place + 1]?).any fun next => next == 124 || next == 41

/-- What stands at a place, and how many bytes it takes. A caret is an anchor where an alternative
begins. -/
def tokenAt (dialect : Dialect) (text : Array UInt8) (place : Nat) (beginning : Bool) :
    Token × Nat :=
  match text[place]? with
  | none => (.finish, 0)
  | some b =>
      let extended (token : Token) : Token × Nat := (if dialect.extended then token else .byte b, 1)
      match Char.ofNat b.toNat with
      | '\\' =>
          match text[place + 1]? with
          | none => (.lastBackslash, 1)
          | some next => (dialect.escaped next, 2)
      | '\n' => (if dialect.lineFeedParts then .bar else .byte b, 1)
      | '|' => extended .bar
      | '*' => (.star, 1)
      | '+' => (if dialect.extended || dialect.bareRepeats then .plus else .byte b, 1)
      | '?' => (if dialect.extended || dialect.bareRepeats then .question else .byte b, 1)
      | '\x7b' => extended .openBrace
      | '\x7d' => extended .closeBrace
      | '(' => extended .openGroup
      | ')' => extended .closeGroup
      | '[' => (.bracket, 1)
      | '.' => (.members dialect.anyByte, 1)
      | '^' =>
          (if dialect.extended || beginning || place == 0 then .anchor .lineStart else .byte b, 1)
      | '$' =>
          (if dialect.extended || dialect.endsPart text (place + 1) then .anchor .lineEnd
           else .byte b, 1)
      | _ => (.byte b, 1)

end Dialect

end LineShell.Regex
