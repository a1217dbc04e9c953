import LineShell.Shell.Command
import LineShell.Usage.Help

/-!
# The shell's own commands

- **`pwd`** writes the directory of the shell.
- **`cd`** moves the shell to another directory.
- **`exit`** makes the shell stop.
- **`sls`** lists the visible entries of the directory with their sizes.
-/

namespace LineShell.Builtin

/-- Runs a command for the stages that bear its name. Its arguments are read by its grammar; a
request for help is answered and a fault reported in its place. -/
def recognise (grammar : Usage.Grammar) (run : Usage.Parsed → Command) (stage : Stage) :
    Option Command :=
  if stage.program != grammar.command then none
  else some (match grammar.parse stage.operands with
    | .understood parsed => run parsed
    | .help => fun environment => do
        Command.say (String.ofList (Text.trimRight grammar.help.toList))
        return (.ok 0, environment)
    | .refused fault => fun environment => do
        Command.complain (String.ofList (Text.trimRight fault.message.toList))
        return (.ok 1, environment))

/-! ## `pwd` -/

/-- What `pwd` accepts. -/
def pwdGrammar : Usage.Grammar where
  command := "pwd"
  description := "Print the current working directory to standard output."

/-- Writes the directory of the shell. -/
def pwd : Command := fun environment => do
  Command.say (Text.textOf environment.directory)
  return (.ok 0, environment)

/-! ## `cd` -/

/-- What `cd` accepts. -/
def cdGrammar : Usage.Grammar where
  command := "cd"
  description :=
    "Change the current working directory. If no target is provided, changes to the directory " ++
    "specified by the HOME environment variable."
  operands := .optional "target"
    ("directory to switch to; absolute or relative to the current directory. " ++
     "Defaults to $HOME when omitted.")

/-- The variable that names the home directory. -/
def homeVariable : Bytes := Text.bytesOf "HOME"

/-- The path that `cd` is to follow: its operand, or the home directory when the operand is
missing or empty. -/
def destination (operand : Option String) : Prog (Option Bytes) :=
  match operand with
  | some text => if text.isEmpty then Prog.valueOf homeVariable else pure (some (Text.bytesOf text))
  | none => Prog.valueOf homeVariable

/-- Moves to a path, counted from the recorded directory, and records its form without links. -/
def move (environment : Environment) (path : Bytes) : Prog (Except Errno Environment) := do
  let joined := Path.join environment.directory path
  -- no request can carry such a path
  if joined.contains 0 then return .error .invalid
  match ← Prog.call (.canonical joined) with
  | .error errno => return .error errno
  | .ok canonical =>
      match ← Prog.call (.changeDirectory canonical) with
      | .error errno => return .error errno
      | .ok () => return .ok { environment with directory := canonical }

/-- Moves the shell to another directory. A failure is reported, and the command completes. -/
def cd (operand : Option String) : Command := fun environment => do
  let refuse : Prog (Except String Int × Environment) := do
    Command.complain "Error: cannot cd into directory"
    return (.ok 1, environment)
  match ← destination operand with
  | none => refuse
  | some path =>
      match ← move environment path with
      | .error _ => refuse
      | .ok environment => return (.ok 0, environment)

/-! ## `exit` -/

/-- What `exit` accepts. -/
def exitGrammar : Usage.Grammar where
  command := "exit"
  description := "Exit the shell."
  operands := .greedy "args"

/-- Says goodbye and makes the shell stop. -/
def exit : Command := fun environment => do
  Command.complain "Bye..."
  return (.ok 0, { environment with exiting := true })

/-! ## `sls` -/

/-- What `sls` accepts. -/
def slsGrammar : Usage.Grammar where
  command := "sls"
  description := "List the non-hidden entries of the current directory with their sizes."

/-- The order of a listing: by name, then by size. -/
def listedLe (a b : String × Nat) : Bool := a.1 < b.1 || (a.1 == b.1 && a.2 ≤ b.2)

/-- The name and the size of each visible entry, in the order in which the entries come. -/
def sizes (directory : Bytes) : List Bytes → Prog (Except String (List (String × Nat)))
  | [] => pure (.ok [])
  | name :: rest => do
      if (Text.decode name).head? == some '.' then sizes directory rest
      else match ← Prog.call (.status (Path.join directory name) true) with
        | .error _ => return .error "cannot get file information"
        | .ok status =>
            match ← sizes directory rest with
            | .error text => return .error text
            | .ok more => return .ok ((Text.textOf name, status.node.size) :: more)

/-- The line that lists an entry. -/
def listingLine (entry : String × Nat) : String :=
  entry.1 ++ " (" ++ toString entry.2 ++ " bytes)"

/-- Holds lines back for standard output. -/
def sayAll : List String → Prog Unit
  | [] => pure ()
  | line :: rest => do
      Command.say line
      sayAll rest

/-- Lists the visible entries of the directory, or nothing when one of them has no size. -/
def sls : Command := fun environment => do
  match ← Prog.call (.names environment.directory) with
  | .error _ => return (.error "cannot open directory", environment)
  | .ok names =>
      match ← sizes environment.directory names with
      | .error text => return (.error text, environment)
      | .ok entries =>
          sayAll ((entries.mergeSort listedLe).map listingLine)
          return (.ok 0, environment)

/-! ## The table -/

/-- The shell's own commands. -/
def all : CommandTable :=
  [recognise pwdGrammar fun _ => pwd,
   recognise cdGrammar fun parsed => cd parsed.operands.head?,
   recognise exitGrammar fun _ => exit,
   recognise slsGrammar fun _ => sls]

end LineShell.Builtin
