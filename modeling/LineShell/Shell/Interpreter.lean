import LineShell.Shell.Command
import LineShell.Shell.Config
import LineShell.Shell.Execute
import LineShell.Text.Cluster

/-!
# Reading and running lines

- **`runLine`** runs one line and says what came of it.
- **`runScript`** reads lines from a byte string until it ends or the shell is told to stop.
- **`converseWith`** does the same with lines that an editor hands over, and **`converse`** with
  lines typed at a terminal that can do nothing but print.
-/

namespace LineShell

/-- What came of a line. -/
inductive Verdict where
  /-- It is blank. -/
  | blank
  /-- It was refused, and a line says why. -/
  | rejected
  /-- It was run, and a line reports the exit codes. -/
  | completed (report : Report)
  deriving DecidableEq, Repr, Inhabited

/-- A shell: its settings and its own commands. -/
structure Shell where
  /-- The settings. -/
  config : Config := {}
  /-- The commands that the shell runs itself. -/
  commands : CommandTable

/-- Why no line can be had from a terminal. -/
inductive TypingFailure where
  /-- The terminal can be neither read nor written. -/
  | stream (errno : Errno)
  /-- The line is not text. -/
  | notText
  deriving DecidableEq, Repr, Inhabited

/-- The text of the reason. -/
def TypingFailure.message : TypingFailure → String
  | .stream errno => errno.report
  | .notText => "stream did not contain valid UTF-8"

/-- What makes a shell stop before its time. -/
inductive Breakdown where
  /-- A pipeline failed in a way that leaves nothing to go on with. -/
  | exec (failure : ExecFailure)
  /-- Standard output cannot be written, or standard input cannot be read. -/
  | stream (errno : Errno)
  /-- No line can be had from the terminal. -/
  | typing (failure : TypingFailure)
  deriving DecidableEq, Repr, Inhabited

/-- The text of a breakdown. -/
def Breakdown.message : Breakdown → String
  | .exec failure => failure.message
  | .stream errno => errno.report
  | .typing failure => failure.message

/-- What a breakdown is due to, when that is told besides its text. -/
def Breakdown.causes : Breakdown → List String
  | .exec failure => (failure.cause?.map Errno.describe).toList
  | .stream _ => []
  | .typing failure => [failure.message]

namespace Environment

/-- The environment of a shell that begins in the directory of its process. -/
def capture : Prog Environment := do
  match ← Prog.call .currentDirectory with
  | .ok directory => return ⟨directory, false⟩
  | .error _ => return ⟨Path.here, false⟩

end Environment

namespace Shell

/-- Refuses a line. -/
def reject (text : String) : Prog Verdict := do
  Command.complain ("Error: " ++ text)
  return .rejected

/-- Reports that a line has been run. -/
def complete (report : Report) : Prog Verdict := do
  Prog.complain (Text.bytesOf report.emitted)
  return .completed report

/-- The pipeline of a line that passes every check. -/
def readLine (config : Config) (tokens : List Token) : Prog (Except LineFault Pipeline) := do
  match ← inspect tokens with
  | .error fault => return .error fault
  | .ok () => return Pipeline.ofTokens config.maxArguments tokens

/-- Runs one of the shell's own commands. -/
def runCommand (command : Command) (environment : Environment) (text : String) :
    Prog (Verdict × Environment) := do
  let _ ← Prog.call .flush
  match ← command environment with
  | (.ok code, environment) => return (← complete ⟨text, [code]⟩, environment)
  | (.error message, environment) => return (← reject message, environment)

/-- Runs a pipeline of programs. A failure that leaves the shell in working order is reported as
a fault of the line. -/
def runPipeline (pipeline : Pipeline) (text : String) : Prog (Except ExecFailure Verdict) := do
  let _ ← Prog.call .flush
  match ← execute pipeline text with
  | .ok report => return .ok (← complete report)
  | .error failure =>
      if failure.fatal then return .error failure
      else match failure with
        | .target .. => return .ok (← reject LineFault.cannotOpenFile.message)
        | _ => return .ok (← reject failure.message)

/-- Runs one line. -/
def runLine (shell : Shell) (environment : Environment) (line : String) :
    Prog (Except ExecFailure Verdict × Environment) := do
  let text := Text.trimString line
  if text.isEmpty then return (.ok .blank, environment)
  match ← readLine shell.config (Token.ofLine text) with
  | .error fault => return (.ok (← reject fault.message), environment)
  | .ok pipeline =>
      match pipeline.simple?.bind shell.commands.find? with
      | some command =>
          let (verdict, environment) ← runCommand command environment text
          return (.ok verdict, environment)
      | none => return (← runPipeline pipeline text, environment)

/-! ## Scripts -/

/-- Holds text back for standard output and writes all that is held back. -/
def display (text : String) : Prog (Except Errno Unit) := do
  Prog.call (.put (Text.bytesOf text))
  Prog.call .flush

/-- The characters that end a line. -/
def isLineEnd (c : Char) : Bool := c == '\n' || c == '\r'

/-- The text without the line ends behind it. -/
def stripEnds (text : List Char) : List Char := (text.reverse.dropWhile isLineEnd).reverse

/-- The line that bytes stand for, cut to the limit. -/
def scriptLine (config : Config) (bytes : Bytes) : String :=
  (config.clamp (String.ofList (stripEnds (Text.decode bytes)))).1

/-- Writes a line back if the settings ask for it. At a terminal it is held back until something
else makes it come out. -/
def echo (config : Config) (terminal : Bool) (line : String) : Prog (Except Errno Unit) := do
  if !config.echo.echoes terminal then return .ok ()
  if terminal then
    Prog.call (.put (Text.bytesOf (line ++ "\n")))
    return .ok ()
  display (line ++ "\n")

/-- Stops if the shell has been told to; otherwise writes the prompt and goes on. -/
def prompted (shell : Shell) (environment : Environment)
    (goOn : Prog (Except Breakdown Unit × Environment)) :
    Prog (Except Breakdown Unit × Environment) := do
  if environment.exiting then return (.ok (), environment)
  match ← display shell.config.prompt with
  | .error errno => return (.error (.stream errno), environment)
  | .ok () => goOn

/-- Writes a line back if the settings ask for it, and runs it. -/
def echoAndRun (shell : Shell) (environment : Environment) (terminal : Bool) (line : String) :
    Prog (Except Breakdown Unit × Environment) := do
  match ← echo shell.config terminal line with
  | .error errno => return (.error (.stream errno), environment)
  | .ok () =>
      match ← shell.runLine environment line with
      | (.error failure, environment) => return (.error (.exec failure), environment)
      | (.ok _, environment) => return (.ok (), environment)

/-- Runs lines until none is left or the shell is told to stop. -/
def runLines (shell : Shell) : Environment → List Bytes → Prog (Except Breakdown Unit × Environment)
  | environment, [] => shell.prompted environment (pure (.ok (), environment))
  | environment, bytes :: rest =>
      shell.prompted environment do
        match ← shell.echoAndRun environment false (scriptLine shell.config bytes) with
        | (.error breakdown, environment) => return (.error breakdown, environment)
        | (.ok (), environment) => runLines shell environment rest

/-- Runs every line of a script. -/
def runScript (shell : Shell) (environment : Environment) (script : Bytes) :
    Prog (Except Breakdown Unit × Environment) :=
  shell.runLines environment (Text.lines script)

/-! ## Terminals -/

/-- How many bytes are asked for at once. -/
def readSize : Nat := 8192

/-- The bytes up to the end of the first line, and those behind it. -/
def cutLine (bytes : Bytes) : Bytes × Bytes :=
  let line := bytes.takeWhile (· != 10)
  match bytes.drop line.length with
  | [] => (line, [])
  | _ :: rest => (line ++ [10], rest)

/-- Reads from standard input up to the end of a line, given what has been read before and
belongs to it. What was read beyond the line comes back with it. -/
def typedLine : (read : Bytes) → Prog (Except Errno (Bytes × Bytes)) :=
  Prog.iterate fun read => do
    if read.contains 10 then return .inr (.ok (cutLine read))
    match ← Prog.call (.read Fd.stdin readSize) with
    | .error errno => return .inr (.error errno)
    -- what stands behind the last line end is a line as well
    | .ok [] => return .inr (.ok (read, []))
    | .ok chunk => return .inl (read ++ chunk)

/-- A line without the line end behind it. -/
def withoutLineEnd (line : List Char) : List Char :=
  match line.reverse with
  | '\n' :: '\r' :: rest => rest.reverse
  | '\n' :: rest => rest.reverse
  | _ => line

/-- The text of a typed line, if it is text. Backspaces in it are carried out. -/
def typedText? (bytes : Bytes) : Option String :=
  let text := Text.decode bytes
  -- bytes that are no text are decoded to a mark that is encoded in another way
  if Text.encode text != bytes then none
  else some (String.ofList (Text.applyBackspaces (withoutLineEnd text)))

/-- What comes of asking for a typed line. -/
inductive Reading where
  /-- A line, without the line end behind it. -/
  | line (text : String)
  /-- The line has been given up; another one is to be asked for. -/
  | interrupted
  /-- No more lines come. -/
  | ended
  /-- No line can be had. -/
  | failed (failure : TypingFailure)
  deriving DecidableEq, Repr, Inhabited

/-- What a shell at a terminal leaves to the editor of its lines. -/
structure Editor (ρ : Type) where
  /-- Writes a prompt and has a line typed. -/
  read : (prompt : String) → ρ → Prog (Reading × ρ)
  /-- Adds a line to those that can be called back. -/
  remember : (line : String) → ρ → Prog (Except TypingFailure ρ)

/-- The editor of a terminal that can do nothing but print. It keeps what was read and belongs to
later lines. -/
def plainEditor : Editor Bytes where
  read prompt read := do
    match ← display prompt with
    | .error errno => return (.failed (.stream errno), read)
    | .ok () =>
        match ← typedLine read with
        | .error errno => return (.failed (.stream errno), read)
        | .ok ([], rest) => return (.ended, rest)
        | .ok (line, rest) =>
            match typedText? line with
            | none => return (.failed .notText, rest)
            | some typed => return (.line typed, rest)
  remember _ read := return .ok read

/-- Has a line typed and runs it, unless the shell has been told to stop. -/
def converseOnce {ρ : Type} (shell : Shell) (editor : Editor ρ) :
    Environment × ρ → Prog ((Environment × ρ) ⊕ (Except Breakdown Unit × Environment))
  | (environment, state) => do
      if environment.exiting then return .inr (.ok (), environment)
      match ← editor.read shell.config.prompt state with
      | (.ended, _) => return .inr (.ok (), environment)
      | (.failed failure, _) => return .inr (.error (.typing failure), environment)
      | (.interrupted, state) => return .inl (environment, state)
      | (.line typed, state) =>
          match ← editor.remember typed state with
          | .error failure => return .inr (.error (.typing failure), environment)
          | .ok state =>
              match ← shell.echoAndRun environment true (shell.config.clamp typed).1 with
              | (.error breakdown, environment) => return .inr (.error breakdown, environment)
              | (.ok (), environment) => return .inl (environment, state)

/-- Runs typed lines until there are no more of them or the shell is told to stop. -/
def converseWith {ρ : Type} (shell : Shell) (editor : Editor ρ) (environment : Environment)
    (state : ρ) : Prog (Except Breakdown Unit × Environment) :=
  Prog.iterate (shell.converseOnce editor) (environment, state)

/-- Runs the lines typed at a terminal that can do nothing but print. -/
def converse (shell : Shell) (environment : Environment) :
    Prog (Except Breakdown Unit × Environment) :=
  shell.converseWith plainEditor environment []

end Shell

end LineShell
