import LineShell.Text.Bytes

/-!
# Terminals

What is typed at a terminal is handed on line by line, and until a line has ended some keys change
it: one erases a character, one a word, one the whole line.

- **`Terminal.pieces`** lists what a terminal hands on, one piece for each line. The key for the
  end of input ends a piece too, without leaving a trace in it; at the beginning of a line it makes
  an empty piece.
-/

namespace LineShell.Terminal

/-- The keys with a meaning of their own. -/
inductive Key where
  /-- Ends the line. -/
  | enter
  /-- Ends the piece that has been typed so far. -/
  | endOfInput
  /-- Takes the last character back. -/
  | erase
  /-- Takes the last word back. -/
  | eraseWord
  /-- Takes the line back. -/
  | eraseLine
  /-- Lets the next key stand for itself. -/
  | literal
  /-- Takes everything back that has not been read. -/
  | discard
  /-- Does nothing to the line. -/
  | idle
  /-- Stands for itself. -/
  | plain
  deriving DecidableEq, Repr, Inhabited

/-- The meaning of a key. -/
def key (b : UInt8) : Key :=
  if b = 10 ∨ b = 13 then .enter
  else if b = 4 then .endOfInput
  else if b = 0x7F then .erase
  else if b = 0x17 then .eraseWord
  else if b = 0x15 then .eraseLine
  else if b = 0x16 then .literal
  else if b = 3 ∨ b = 0x1A ∨ b = 0x1C then .discard
  else if b = 0x11 ∨ b = 0x12 ∨ b = 0x13 then .idle
  else .plain

/-- A byte that belongs to a word: a digit, a letter of the Latin alphabet or a low line. -/
def isWordByte (b : UInt8) : Bool :=
  (48 ≤ b && b ≤ 57) || (65 ≤ b && b ≤ 90) || (97 ≤ b && b ≤ 122) || b == 95
    || (0xC0 ≤ b && b != 0xD7 && b != 0xF7)

/-- What is being typed. -/
structure Typing where
  /-- The pieces that are finished, the last one first. -/
  pieces : List Bytes := []
  /-- The bytes of the piece under way, the last one first. -/
  line : Bytes := []
  /-- The next key stands for itself. -/
  literal : Bool := false

namespace Typing

/-- The piece under way is finished. -/
def finish (typing : Typing) : Typing :=
  { typing with pieces := typing.line.reverse :: typing.pieces, line := [] }

/-- A line without its last word. -/
def withoutWord (line : Bytes) : Bytes :=
  (line.dropWhile fun b => !isWordByte b).dropWhile isWordByte

/-- The effect of a key. -/
def press (typing : Typing) (b : UInt8) : Typing :=
  if typing.literal then { typing with line := b :: typing.line, literal := false }
  else match key b with
    | .enter => { typing with line := 10 :: typing.line }.finish
    | .endOfInput => typing.finish
    | .erase => { typing with line := typing.line.tail }
    | .eraseWord => { typing with line := withoutWord typing.line }
    | .eraseLine => { typing with line := [] }
    | .literal => { typing with literal := true }
    | .discard => {}
    | .idle => typing
    | .plain => { typing with line := b :: typing.line }

end Typing

/-- What a terminal hands on when some keys are pressed, and then the one for the end of input. -/
def pieces (keys : Bytes) : List Bytes :=
  ((keys ++ [4]).foldl Typing.press {}).pieces.reverse

end LineShell.Terminal
