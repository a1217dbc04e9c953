import LineShell.Text.Ascii

/-!
# Scripts

The commands that `sh` runs, as they are read.

- **`Part`** is a part of a word: text, or something that text takes the place of.
- **`Command`** is a command with the commands inside it.
-/

namespace LineShell.Script

/-- What is done with the value of a parameter. -/
inductive Treatment where
  /-- It stands as it is. -/
  | value
  /-- A word stands in for a missing one. -/
  | orElse
  /-- A word stands in for one that is not missing. -/
  | ifSet
  /-- A missing one is an error. -/
  | orError
  /-- A missing one is replaced by a word for good. -/
  | orAssign
  /-- What a pattern fits at the end is cut off, as much as possible if `longest` holds. -/
  | cutEnd (longest : Bool)
  /-- What a pattern fits at the beginning is cut off, as much as possible if `longest` holds. -/
  | cutStart (longest : Bool)
  /-- It is counted. -/
  | length
  /-- Nothing that makes sense. -/
  | unknown
  deriving DecidableEq, Repr, Inhabited

/-- How a file is opened. -/
inductive FileUse where
  /-- It is read. -/
  | input
  /-- It is emptied and written, if that is allowed. -/
  | output
  /-- It is emptied and written. -/
  | overwrite
  /-- It is written behind its end. -/
  | append
  /-- It is read and written. -/
  | both
  deriving DecidableEq, Repr, Inhabited

mutual

/-- A part of a word. -/
inductive Part where
  /-- Text as it stands. -/
  | text (bytes : Bytes)
  /-- Text that has lost every other meaning. -/
  | quoted (bytes : Bytes)
  /-- The mark at the beginning or the end of a quotation. -/
  | mark
  /-- What becomes of the value of a parameter, one that is empty counting as missing if `orEmpty`
  holds. -/
  | parameter (name : Bytes) (treatment : Treatment) (orEmpty : Bool) (word : List Part)
  /-- What a command writes. -/
  | output (command : Command)
  /-- The value of an expression. -/
  | arithmetic (expression : List Part)

/-- Where a stream of a command leads. -/
inductive Route where
  /-- To a file. -/
  | file (use : FileUse) (path : List Part)
  /-- Where another stream leads, or nowhere. -/
  | same (source : Option Nat)
  /-- Where the stream leads that a word names. -/
  | sameAs (source : List Part)
  /-- From a document, known by its number. -/
  | document (number : Nat)

/-- A command, some with the line where they begin. -/
inductive Command where
  /-- No command at all. -/
  | nothing
  /-- Assignments, words and redirections. -/
  | simple (line : Nat) (assignments : List (Bytes × List Part)) (words : List (List Part))
      (routes : List (Nat × Route))
  /-- Commands joined by pipes, which are not waited for if `apart` holds. -/
  | pipeline (stages : List Command) (apart : Bool)
  /-- A command with redirections. -/
  | redirected (line : Nat) (body : Command) (routes : List (Nat × Route))
  /-- A command in a process of its own, which is not waited for if `apart` holds. -/
  | subshell (line : Nat) (body : Command) (routes : List (Nat × Route)) (apart : Bool)
  /-- One command after another. -/
  | sequence (first second : Command)
  /-- The second command runs if the first one succeeds. -/
  | both (first second : Command)
  /-- The second command runs if the first one fails. -/
  | either (first second : Command)
  /-- The result of a command is turned round. -/
  | negated (body : Command)
  /-- The second command runs if the first one succeeds, else the third one. -/
  | conditional (condition consequence alternative : Command)
  /-- The second command runs again and again while the first one succeeds, or while it fails when
  `inverted` holds. -/
  | loop (inverted : Bool) (condition body : Command)
  /-- A command runs once for each of some words. -/
  | each (line : Nat) (name : Bytes) (words : List (List Part)) (body : Command)
  /-- The first command runs one of whose patterns fits a word. -/
  | choose (line : Nat) (word : List Part) (cases : List (List (List Part) × Command))
  /-- A command gets a name. -/
  | define (line : Nat) (name : Bytes) (body : Command)

end

/-- A word: its parts in order. -/
abbrev Word := List Part

/-- A stream of a command and where it leads. -/
abbrev Redirection := Nat × Route

/-- The patterns of a choice and the command that belongs to them. -/
abbrev Alternative := List Word × Command

instance : Inhabited Part := ⟨.mark⟩

instance : Inhabited Command := ⟨.nothing⟩

instance : Inhabited Route := ⟨.same none⟩

/-- The byte may begin the name of a variable. -/
def startsName (b : UInt8) : Bool := Text.isAlpha b || b == 95

/-- The bytes are the name of a variable. -/
def isName (bytes : Bytes) : Bool := bytes.head?.any startsName && bytes.all Text.isWordByte

/-- The text of a word in which nothing is quoted and no value has a place. -/
def plain? : Word → Option Bytes
  | [] => some []
  | [.text bytes] => some bytes
  | _ => none

/-- The assignment that a word is: a name, an equals sign, and the value. -/
def assignment? : Word → Option (Bytes × Word)
  | .text bytes :: rest =>
      let name := bytes.takeWhile (· != 61)
      if name.length < bytes.length && isName name then
        let value := bytes.drop (name.length + 1)
        some (name, if value.isEmpty then rest else .text value :: rest)
      else none
  | _ => none

/-- The text of a word in which no value has a place, with the quotations taken off. -/
def unquoted (word : Word) : Bytes :=
  word.flatMap fun
    | .text bytes | .quoted bytes => bytes
    | _ => []

end LineShell.Script
