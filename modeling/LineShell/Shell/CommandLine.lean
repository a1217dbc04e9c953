import LineShell.Shell.Builtin
import LineShell.Shell.Interpreter

/-!
# The shell as a program

- **`config`** gives the settings that the arguments ask for.
- **`program`** is the whole shell: it reads its arguments, then lines from a terminal or from
  whatever else standard input is, and ends with a status.
-/

namespace LineShell.CommandLine

/-- The name of the program. -/
def name : String := "sshell"

/-- What the program accepts. -/
def grammar : Usage.Grammar where
  command := name
  description := "A simple shell: pipelines, output redirection and a few builtins."
  options :=
    [⟨"--prompt", "prompt printed before each command line", .text⟩,
     ⟨"--max-args", "maximum number of tokens per command, program included", .number⟩,
     ⟨"--max-line-len", "maximum command line length in bytes, newline included", .number⟩,
     ⟨"--echo", "echo every command line, even when reading from a terminal", .switch⟩,
     ⟨"--no-echo", "never echo command lines read from a non-terminal input", .switch⟩]

/-- The echo mode that the switches ask for; they exclude each other. -/
def echoMode (always never : Bool) : Except String EchoMode :=
  match always, never with
  | true, true => .error "--echo and --no-echo are mutually exclusive"
  | true, false => .ok .always
  | false, true => .ok .never
  | false, false => .ok .auto

/-- The settings that the arguments ask for. -/
def config (parsed : Usage.Parsed) : Except String Config := do
  let standard : Config := {}
  let echo ← echoMode (parsed.on "--echo") (parsed.on "--no-echo")
  return {
    prompt := (parsed.value? "--prompt").getD standard.prompt
    maxArguments := (parsed.number? "--max-args").getD standard.maxArguments
    maxLineLength := (parsed.number? "--max-line-len").getD standard.maxLineLength
    echo := echo }

/-- The message with which the program gives up: what went wrong, and what that is due to. -/
def lastWords (text : String) (causes : List String) : String :=
  let due := if causes.isEmpty then "" else
    "\n\nCaused by:\n" ++ String.intercalate "\n" (causes.map fun cause => "    " ++ cause)
  "Error: " ++ text ++ due ++ "\n"

/-- Ends the program after writing what is held back. -/
def finish (status : Int) : Prog Empty := do
  let _ ← Prog.call .flush
  Prog.exit status

/-- Ends the program after a message. -/
def giveUp (message : String) : Prog Empty := do
  Prog.complain (Text.bytesOf message)
  finish 1

/-- Standard input is a terminal. -/
def fromTerminal : Prog Bool := do
  match ← Prog.call (.kind Fd.stdin) with
  | .ok .terminal => return true
  | _ => return false

/-- Reads lines from standard input and runs them. -/
def readAndRun (shell : Shell) (environment : Environment) :
    Prog (Except Breakdown Unit × Environment) := do
  if ← fromTerminal then shell.converse environment
  else match ← Prog.readAll Fd.stdin with
    | .ok script => shell.runScript environment script
    | .error errno => return (.error (.stream errno), environment)

/-- Runs a shell with the given settings to its end. -/
def serve (config : Config) : Prog Empty := do
  let environment ← Environment.capture
  match ← readAndRun ⟨config, Builtin.all⟩ environment with
  | (.ok (), _) => finish 0
  | (.error breakdown, _) => giveUp (lastWords breakdown.message breakdown.causes)

/-- The whole program. -/
def program (arguments : List String) : Prog Empty :=
  match grammar.parse arguments with
  | .help => do
      Command.say grammar.help
      finish 0
  | .refused fault =>
      giveUp (fault.message ++ "\nRun " ++ name ++ " --help for more information.\n")
  | .understood parsed =>
      match config parsed with
      | .error text => giveUp (lastWords text [])
      | .ok config => serve config

end LineShell.CommandLine
