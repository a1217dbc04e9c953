import LineShell.Line.Pipeline
import LineShell.System.Program
import LineShell.Text.Blank

/-!
# Commands that run within the shell

Some commands are run by the shell itself, when a line is nothing but such a command.

- **`Environment`** is what such a command can change.
- **`CommandTable.find?`** picks the command for a stage: the first one that recognises it.
- **`Canned`** is a command that does what it has been told beforehand.
-/

namespace LineShell

/-- What lasts from one line to the next. -/
structure Environment where
  /-- The directory of the shell, as a path without links. -/
  directory : Bytes
  /-- The shell stops after the present line. -/
  exiting : Bool
  deriving DecidableEq, Repr, Inhabited

/-- A command that the shell runs itself. It comes to an exit code, or fails with a text. -/
abbrev Command := Environment → Prog (Except String Int × Environment)

/-- Commands by the stages they recognise, the earlier ones first. -/
abbrev CommandTable := List (Stage → Option Command)

/-- The command for a stage: the first one that recognises it. -/
def CommandTable.find? (table : CommandTable) (stage : Stage) : Option Command :=
  table.findSome? fun recognise => recognise stage

namespace Command

/-- Holds a line back for standard output. -/
def say (line : String) : Prog Unit := Prog.call (.put (Text.bytesOf (line ++ "\n")))

/-- Writes a line to standard error. -/
def complain (line : String) : Prog Unit := Prog.complain (Text.bytesOf (line ++ "\n"))

end Command

/-- A command that writes fixed texts and comes to a fixed end. -/
structure Canned where
  /-- The name that it answers to. -/
  name : String
  /-- What it writes to standard output. -/
  output : String := ""
  /-- What it writes to standard error. -/
  complaint : String := ""
  /-- Its exit code; without one, the number of its operands. -/
  code : Option Int := none
  /-- It makes the shell stop. -/
  exits : Bool := false
  /-- The text it fails with. -/
  failure : Option String := none
  deriving DecidableEq, Repr, Inhabited

/-- The command, for the stages that name it. -/
def Canned.recognise (canned : Canned) (stage : Stage) : Option Command :=
  if stage.program != canned.name then none
  else some fun environment => do
    Prog.call (.put (Text.bytesOf canned.output))
    Prog.complain (Text.bytesOf canned.complaint)
    let environment :=
      { environment with exiting := environment.exiting || canned.exits }
    match canned.failure with
    | some text => return (.error text, environment)
    | none => return (.ok (canned.code.getD stage.operands.length), environment)

end LineShell
