import LineShell.Script.Syntax

/-!
# Reading a script

A script is read byte by byte, and only as far as it takes to find the end of a command, since
what follows may not be there yet, or may be meant for somebody else.

- **`Reader`** is the state of reading, and **`Reading`** an activity that reads.
- **`next`** takes a byte, and **`nextJoined`** one behind lines that are joined to one.
-/

namespace LineShell.Script

/-- A piece of a script. -/
inductive Token where
  /-- Nothing is left. -/
  | endOfFile
  /-- The end of a line. -/
  | newline
  /-- A sign made of other bytes than words are. -/
  | operator (spelling : String)
  /-- A redirection, up to its target. -/
  | redirection
  /-- A word. -/
  | word
  /-- A word with a meaning of its own. -/
  | keyword (spelling : String)
  deriving DecidableEq, Repr, Inhabited

namespace Token

/-- How a piece is named in a complaint. -/
def shown : Token → String
  | endOfFile => "end of file"
  | newline => "newline"
  | redirection => "redirection"
  | word => "word"
  | operator spelling | keyword spelling => "\"" ++ spelling ++ "\""

/-- The words with a meaning of their own. -/
def keywords : List String :=
  ["!", "case", "do", "done", "elif", "else", "esac", "fi", "for", "if", "in", "then", "until",
   "while", "\x7b", "\x7d"]

/-- The signs and words that end a list of commands. -/
def closers : List Token :=
  [endOfFile, operator ")", operator ";;", keyword "do", keyword "done", keyword "elif",
   keyword "else", keyword "esac", keyword "fi", keyword "then", keyword "\x7d"]

end Token

/-- What has meaning where a piece is read. -/
structure Expect where
  /-- Ends of lines have none. -/
  overLines : Bool := false
  /-- Some words are keywords. -/
  keywords : Bool := false
  /-- Some words stand for others. -/
  aliases : Bool := false
  /-- Dollar signs and backquotes have none. -/
  verbatim : Bool := false
  deriving DecidableEq, Repr, Inhabited

/-- A document that is to come behind the end of the line. -/
structure Awaited where
  /-- Its number. -/
  number : Nat
  /-- The line that ends it. -/
  mark : Bytes
  /-- It stands as it is. -/
  literal : Bool
  /-- Tabs at the beginning of its lines are taken off. -/
  outdented : Bool
  deriving DecidableEq, Repr, Inhabited

/-- A word that stands for others and is being read. -/
structure Substitute where
  /-- The word. -/
  name : Bytes
  /-- How many bytes are left when its text has been read. -/
  left : Nat
  /-- The word behind it may stand for others too. -/
  chains : Bool
  deriving DecidableEq, Repr, Inhabited

/-- The state of reading a script. -/
structure Reader where
  /-- What has not been read. -/
  input : Bytes
  /-- Nothing comes behind that. -/
  complete : Bool
  /-- The line. -/
  line : Nat
  /-- The last piece. -/
  token : Token := .endOfFile
  /-- The last piece is to be read again. -/
  again : Bool := false
  /-- The last word. -/
  word : Word := []
  /-- Something in the last word was quoted. -/
  quoted : Bool := false
  /-- The last redirection. -/
  route : Redirection := (0, Route.same none)
  /-- The document that the last redirection awaits. -/
  document : Option (Nat × Bool) := none
  /-- The documents that are to come. -/
  awaited : List Awaited := []
  /-- The documents by their numbers, the last one first. -/
  documents : List (Nat × Word) := []
  /-- The number of the next document. -/
  nextDocument : Nat := 0
  /-- The words that stand for others. -/
  aliases : List (Bytes × Bytes) := []
  /-- Those that are being read. -/
  substitutes : List Substitute := []
  deriving Inhabited

/-- Why reading stops. -/
inductive Halt where
  /-- It makes no sense. -/
  | fault (line : Nat) (message : Bytes)
  /-- More of the script is needed. -/
  | more
  deriving DecidableEq, Repr, Inhabited

/-- An activity that reads a script. -/
abbrev Reading := StateT Reader (Except Halt)

namespace Reading

/-- Complains about the script. -/
def complain {α : Type} (message : String) : Reading α := do
  let reader ← get
  throw (.fault reader.line (Text.bytesOf ("Syntax error: " ++ message)))

/-- Complains about the last piece, in place of which another one may have been expected. -/
def unexpected {α : Type} (expected : Option Token) : Reading α := do
  let reader ← get
  let found := reader.token.shown ++ " unexpected"
  complain (match expected with
    | some token => found ++ " (expecting " ++ token.shown ++ ")"
    | none => found)

/-- Takes a byte, if there is one. -/
def next : Reading (Option UInt8) := do
  let reader ← get
  match reader.input with
  | b :: rest =>
      set { reader with input := rest }
      return some b
  | [] => if reader.complete then return none else throw .more

/-- Puts a byte back. -/
def back (b : Option UInt8) : Reading Unit :=
  match b with
  | some b => modify fun reader => { reader with input := b :: reader.input }
  | none => pure ()

/-- What stands behind line ends that a backslash takes the meaning from, and how many there
are. -/
def behindJoints : (joints : Nat) → Bytes → Nat × Bytes
  | joints, 92 :: 10 :: rest => behindJoints (joints + 1) rest
  | joints, bytes => (joints, bytes)

/-- Passes over line ends that a backslash takes the meaning from. -/
def skipJoints : Reading Unit := do
  let reader ← get
  match reader.input with
  | 92 :: _ =>
      let (joints, rest) := behindJoints 0 reader.input
      if rest == [92] && !reader.complete then throw .more
      set { reader with input := rest, line := reader.line + joints }
  | _ => return ()

/-- Takes a byte behind line ends that a backslash takes the meaning from. -/
def nextJoined : Reading (Option UInt8) := do
  skipJoints
  next

/-- Counts a line. -/
def countLine : Reading Unit := modify fun reader => { reader with line := reader.line + 1 }

/-- The last piece is to be read again. -/
def putBack : Reading Unit := modify fun reader => { reader with again := true }

/-- Another piece has been read. -/
def found (token : Token) : Reading Token := do
  modify fun reader => { reader with token := token }
  return token

end Reading

end LineShell.Script
