import LineShell.Line.Token

/-!
# Scanning by bytes

How the tokens of a line are read where a character takes one to four bytes. A scanner counts the
bytes that it has read. It looks at the character that begins behind them, and goes on by as many
bytes as that character takes. A count that ends within a character, or behind the text, leaves it
nothing to look at.

- **`cutAt?`** cuts a text at a byte.
- **`Stretch`** is what is read at one go, and **`Station`** says where a scanner is in its work.
- **`Scanner.move`** is one move of a scanner: it looks at one character, or puts an end to a
  stretch.
-/

namespace LineShell

/-- The text up to a byte and the text from there on, if a character begins at the byte or the text
ends there. -/
def cutAt? : List Char → (position : Nat) → Option (List Char × List Char)
  | text, 0 => some ([], text)
  | [], _ + 1 => none
  | c :: rest, position + 1 =>
      if c.utf8Size ≤ position + 1 then
        (cutAt? rest (position + 1 - c.utf8Size)).map fun cut => (c :: cut.1, cut.2)
      else none

/-- Characters that are read at one go, up to the first one that does not belong to them. -/
inductive Stretch where
  /-- The blanks in front of a token. -/
  | blanks
  /-- A word. -/
  | word
  /-- What the target of a redirection is cut from. -/
  | target (mode : WriteMode)
  deriving DecidableEq, Repr, Inhabited

namespace Stretch

/-- The characters that belong to a stretch. -/
def holds : Stretch → Char → Bool
  | .blanks => Text.isBlank
  | .word => Token.isWordChar
  | .target _ => Token.isTargetChar

/-- The token that a stretch becomes. Blanks become none. -/
def token? : Stretch → List Char → Option Token
  | .blanks, _ => none
  | .word, text => some (.word (String.ofList text))
  | .target mode, text => some (.redirect mode (String.ofList (Text.trim text)))

end Stretch

/-- Where a scanner is in its work. -/
inductive Station where
  /-- A turn of its loop begins. -/
  | turn
  /-- It reads a stretch that begins at a byte. -/
  | reading (stretch : Stretch) (start : Nat)
  /-- It is behind the blanks, and the next character tells which token comes. -/
  | choice
  /-- It is behind a `>`, and another one may come. -/
  | operator
  /-- It has left its loop. -/
  | finished
  deriving DecidableEq, Repr, Inhabited

/-- A text that is being scanned. -/
structure Scanner where
  /-- The text. -/
  text : List Char
  /-- How many bytes of it have been read. -/
  position : Nat := 0
  /-- What comes next. -/
  station : Station := .turn
  /-- The tokens that have been read, in their order. -/
  tokens : List Token := []
  deriving DecidableEq, Repr, Inhabited

namespace Scanner

/-- A scanner that has read nothing of a line yet. -/
def ofLine (line : String) : Scanner where
  text := line.toList

/-- The next character, if there is one. No answer is had from within a character. -/
def peek? (s : Scanner) : Option (Option Char) :=
  (cutAt? s.text s.position).map fun cut => cut.2.head?

/-- The characters between a byte and the position, if both are at the ends of characters. -/
def slice? (s : Scanner) (start : Nat) : Option (List Char) :=
  (cutAt? s.text s.position).bind fun cut => (cutAt? cut.1 start).map Prod.snd

/-- Goes on by as many bytes as a character takes. -/
def advance (s : Scanner) (c : Char) (station : Station) : Scanner :=
  { s with position := s.position + c.utf8Size, station := station }

/-- Ends a turn with a token. -/
def push (s : Scanner) (token : Token) : Scanner :=
  { s with station := .turn, tokens := s.tokens ++ [token] }

/-- Puts an end to a stretch. Behind blanks the turn goes on. -/
def close (s : Scanner) (stretch : Stretch) (text : List Char) : Scanner :=
  match stretch.token? text with
  | none => { s with station := .choice }
  | some token => s.push token

/-- Reads one more character of a stretch, or puts an end to it. -/
def read? (s : Scanner) (stretch : Stretch) (start : Nat) : Option Scanner := do
  match (← s.peek?).filter stretch.holds with
  | some c => return s.advance c (.reading stretch start)
  | none => return s.close stretch (← s.slice? start)

/-- Sees from the next character which token comes. -/
def choose? (s : Scanner) : Option Scanner := do
  match ← s.peek? with
  | none => return { s with station := .finished }
  | some '|' => return (s.advance '|' .turn).push .pipe
  | some '>' => return s.advance '>' .operator
  -- the character is looked at again as the first one of the word
  | some _ => return { s with station := .reading .word s.position }

/-- Behind a `>`, sees which operator it is. -/
def double? (s : Scanner) : Option Scanner := do
  match ← s.peek? with
  | some '>' => return s.advance '>' (.reading (.target .append) (s.position + '>'.utf8Size))
  | _ => return { s with station := .reading (.target .truncate) s.position }

/-- The scanner after one move, unless it cannot look at what it has to. One that has finished
stays as it is. -/
def move (s : Scanner) : Option Scanner :=
  match s.station with
  | .turn => some { s with station := .reading .blanks s.position }
  | .reading stretch start => s.read? stretch start
  | .choice => s.choose?
  | .operator => s.double?
  | .finished => some s

end Scanner

end LineShell
