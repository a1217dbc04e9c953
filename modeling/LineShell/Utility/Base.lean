import LineShell.System.Program
import LineShell.Utility.Quote

/-!
# Utility programs

A utility is a program that is given its arguments, its own name first, and ends with an exit
code.

- **`emit`** writes to standard output and reports when that fails.
- **`filterEach`** reads inputs, changes what each of them holds and writes it.
-/

namespace LineShell

/-- A utility: its arguments, its own name first, and what it does with them. -/
abbrev Utility := List Bytes → Prog Int

namespace Utility

/-- The line feed. -/
def newline : UInt8 := 10

/-- The bytes of a text. -/
abbrev text (string : String) : Bytes := Text.bytesOf string

/-- The name under which a utility was started. -/
def nameOf (arguments : List Bytes) : Bytes := arguments.headD []

/-- Writes a message behind the name of the utility. -/
def complain (name message : Bytes) : Prog Unit :=
  Prog.complain (name ++ text ": " ++ message ++ [newline])

/-- The message of an error number. -/
def reason (errno : Errno) : Bytes := text errno.message

/-- Writes a message that ends with the reason of a failure. -/
def complainOf (name subject : Bytes) (errno : Errno) : Prog Unit :=
  complain name (subject ++ text ": " ++ reason errno)

/-- Points to the help of a utility. -/
def pointToHelp (name : Bytes) : Prog Unit :=
  Prog.complain (text "Try '" ++ name ++ text " --help' for more information.\n")

/-- How many bytes a utility holds back before it writes them. -/
def outputBuffer : Nat := 4096

/-- What a utility says when it cannot write, and what it ends with. -/
structure WriteFault where
  /-- The messages, given the error number and how many bytes were to be written. -/
  messages : Errno → (length : Nat) → List Bytes
  /-- The exit code. -/
  code : Int

/-- One message with the reason, which most utilities have. -/
def WriteFault.plain (code : Int) : WriteFault where
  messages errno _ := [text "write error: " ++ reason errno]
  code := code

/-- One message, from which the reason is missing when much was to be written at once. -/
def WriteFault.brief (code : Int) : WriteFault where
  messages errno length :=
    if length ≤ outputBuffer then [text "write error: " ++ reason errno] else [text "write error"]
  code := code

/-- Writes several messages behind the name of the utility. -/
def complainEach (name : Bytes) : List Bytes → Prog Unit
  | [] => pure ()
  | message :: rest => do
      complain name message
      complainEach name rest

/-- Writes to standard output and ends with a code, unless writing fails. -/
def emit (name bytes : Bytes) (code : Int) (fault : WriteFault) : Prog Int := do
  if bytes.isEmpty then return code
  match ← Prog.write Fd.stdout bytes with
  | .ok () => return code
  | .error errno =>
      complainEach name (fault.messages errno bytes.length)
      return fault.code

/-- Writes to standard output and ends with success, unless writing fails. -/
def emitLast (name bytes : Bytes) : Prog Int := emit name bytes 0 (.plain 1)

/-- Opens a file for reading. -/
def openFile (path : Bytes) : Prog (Except Errno Fd) :=
  Prog.call (.openPath path { read := true } true)

/-- Opens a file for reading; `-` stands for standard input. -/
def openInput (path : Bytes) : Prog (Except Errno Fd) :=
  if path == text "-" then pure (.ok Fd.stdin) else openFile path

/-- Gives up a file that was opened for reading. -/
def closeInput (fd : Fd) : Prog Unit := do
  if fd != Fd.stdin then
    let _ ← Prog.call (.close fd)

/-- Everything that a file holds. -/
def readInput (path : Bytes) : Prog (Except Errno Bytes) := do
  match ← openInput path with
  | .error errno => return .error errno
  | .ok fd =>
      let bytes ← Prog.readAll fd
      closeInput fd
      return bytes

/-- Says that a file cannot be used. -/
def complainOfFile (name path : Bytes) (errno : Errno) : Prog Unit :=
  complainOf name (Quote.named path) errno

/-- The operands, or `-` when there are none. -/
def inputs (operands : List Bytes) : List Bytes :=
  if operands.isEmpty then [text "-"] else operands

/-- What each of some files holds. A file that cannot be read is reported and passed over; the
second component tells whether all could be read. -/
def gather (name : Bytes) : List Bytes → Prog (List Bytes × Bool)
  | [] => pure ([], true)
  | path :: rest => do
      match ← readInput path with
      | .ok bytes =>
          let (more, fine) ← gather name rest
          return (bytes :: more, fine)
      | .error errno =>
          complainOfFile name path errno
          let (more, _) ← gather name rest
          return (more, false)

/-- A utility that turns what each of its inputs holds into something else. -/
def filterEach (name : Bytes) (paths : List Bytes) (fault : WriteFault)
    (change : Bytes → Bytes) : Prog Int := do
  let (contents, fine) ← gather name (inputs paths)
  emit name (contents.flatMap change) (if fine then 0 else 1) fault

/-- Ends with the code of some work, unless one of its inputs was standard input and that cannot be
closed: then it says so. -/
def closingInput (name subject : Bytes) (paths : List Bytes) (work : Prog Int) : Prog Int := do
  let code ← work
  if !paths.contains (text "-") then return code
  match ← Prog.call (.close Fd.stdin) with
  | .ok () => return code
  | .error errno =>
      complainOf name subject errno
      return 1

/-- A line without the line feed at its end. -/
def chomp (line : Bytes) : Bytes :=
  if line.getLast? == some newline then line.dropLast else line

/-- The lines without their line feeds. -/
def rows (bytes : Bytes) : List Bytes := (Text.lines bytes).map chomp

/-- Lines, each with a line feed behind it. -/
def unrows (rows : List Bytes) : Bytes := rows.flatMap (· ++ [newline])

/-- The argument is an option: it begins with a dash and is more than that. -/
def isOption (argument : Bytes) : Bool := argument.head? == some 45 && argument.length > 1

/-- Fills a text up with blanks at its left. -/
def padLeft (width : Nat) (bytes : Bytes) : Bytes :=
  List.replicate (width - bytes.length) 32 ++ bytes

end Utility

end LineShell
