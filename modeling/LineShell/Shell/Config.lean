/-!
# Settings

The limits of a line, the prompt, and whether lines are echoed.

- **`boundaryBelow`** looks backwards for a place where a text may be cut without splitting a
  character.
- **`Config.clamp`** cuts a line that exceeds its limit of bytes there.
-/

namespace LineShell

/-- Whether each line that was read is written back. -/
inductive EchoMode where
  /-- Lines are echoed unless they come from a terminal. -/
  | auto
  /-- Lines are always echoed. -/
  | always
  /-- Lines are never echoed. -/
  | never
  deriving DecidableEq, Repr, Inhabited

/-- Lines are echoed, given whether they come from a terminal. -/
def EchoMode.echoes : EchoMode → (terminal : Bool) → Bool
  | .auto, terminal => !terminal
  | .always, _ => true
  | .never, _ => false

/-- The settings of a shell. -/
structure Config where
  /-- What is written before a line is read. -/
  prompt : String := "sshell@ucd$ "
  /-- How many bytes a line may have, the line feed included. -/
  maxLineLength : Nat := 512
  /-- How many words a stage may have, the name of the program included. -/
  maxArguments : Nat := 16
  /-- Whether lines are echoed. -/
  echo : EchoMode := .auto
  deriving DecidableEq, Repr, Inhabited

namespace Config

/-- How many bytes a text takes. -/
def byteLength : List Char → Nat
  | [] => 0
  | c :: rest => c.utf8Size + byteLength rest

/-- A character of the text begins at the given byte, or the text ends there. -/
def isBoundary : List Char → (position : Nat) → Bool
  | _, 0 => true
  | [], _ => false
  | c :: rest, position => c.utf8Size ≤ position && isBoundary rest (position - c.utf8Size)

/-- The greatest boundary of the text that is not above the given byte. -/
def boundaryBelow (text : List Char) : (position : Nat) → Nat
  | 0 => 0
  | position + 1 =>
      if isBoundary text (position + 1) then position + 1 else boundaryBelow text position

/-- The characters that lie before the given byte. -/
def takeBytes : List Char → (position : Nat) → List Char
  | [], _ => []
  | c :: rest, position =>
      if c.utf8Size ≤ position then c :: takeBytes rest (position - c.utf8Size) else []

/-- What is left of a text that may have so many bytes. -/
def clampTo (limit : Nat) (text : List Char) : List Char :=
  if byteLength text ≤ limit then text else takeBytes text (boundaryBelow text limit)

/-- What is left of a line, and whether something was dropped. -/
def clamp (config : Config) (line : String) : String × Bool :=
  let limit := config.maxLineLength - 1
  (String.ofList (clampTo limit line.toList), !(byteLength line.toList ≤ limit))

end Config

end LineShell
