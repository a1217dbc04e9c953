import LineShell.Edit.Run

/-!
# The stream editor

- **`sed`** edits the lines of files by a script.
-/

namespace LineShell.Utility

open Edit

namespace StreamEditor

/-- The options. -/
def table : OptionTable where
  letters := "bsnrzuEe:f:l:i::"
  names :=
    [("binary", "b"), ("regexp-extended", "r"), ("debug", "debug"), ("in-place::", "i"),
     ("expression:", "e"), ("file:", "f"), ("line-length:", "l"), ("null-data", "z"),
     ("zero-terminated", "z"), ("quiet", "n"), ("posix", "posix"), ("silent", "n"),
     ("sandbox", "sandbox"), ("separate", "s"), ("unbuffered", "u"),
     ("follow-symlinks", "follow-symlinks")]

/-- What the options have said so far. -/
structure State where
  /-- What was asked for. -/
  settings : Settings
  /-- The script. -/
  draft : Draft := {}
  /-- Some of the script has been given. -/
  isGiven : Bool := false
  /-- The files that steps write to. -/
  writings : List (Bytes × Writing) := []
  deriving Repr, Inhabited

/-- What was asked for, with an option that takes no text of the script. -/
def withOption (settings : Settings) (key : String) (value : Option Bytes) : Settings :=
  match key with
  | "s" => { settings with separate := true }
  | "n" => { settings with silent := true }
  | "r" | "E" => { settings with manner := { settings.manner with extended := true } }
  | "z" => { settings with manner := { settings.manner with delimiter := 0 } }
  | "u" => { settings with prompt := true }
  | "l" => { settings with width := Text.valueOf 10 ((value.getD []).takeWhile Text.isDigit) }
  | "i" => { settings with separate := true, inPlace := some (value.getD []) }
  | "sandbox" => { settings with manner := { settings.manner with confined := true } }
  | "follow-symlinks" => { settings with followsLinks := true }
  | _ => settings

/-- Says how the editor is called. -/
def complainOfUsage : Prog Int := do
  Prog.complain (text
    "Usage: sed [OPTION]... \x7bscript-only-if-no-other-script\x7d [input-file]...\n")
  return 1

/-- Opens the files that a text of the script wants to write, unless one cannot be opened. -/
def openWritings (name : Bytes) : List (Bytes × Writing) → List Bytes →
    Prog (Except Int (List (Bytes × Writing)))
  | opened, [] => pure (.ok opened)
  | opened, path :: rest => do
      if (opened.lookup path).isSome then openWritings name opened rest
      else if path == text "/dev/stdout" then
        openWritings name (opened ++ [(path, { outlet := none })]) rest
      else if path == text "/dev/stderr" then
        let outlet : Outlet := { fd := Fd.stderr, name := text "stderr", prompt := true }
        openWritings name (opened ++ [(path, { outlet := some outlet })]) rest
      else
        let access : Access := { write := true, create := true, truncate := true }
        match ← Prog.call (.openPath path access true) with
        | .ok fd =>
            let outlet : Outlet := { fd := fd, name := path, prompt := true }
            openWritings name (opened ++ [(path, { outlet := some outlet })]) rest
        | .error errno =>
            complain name (text "couldn't open file " ++ path ++ text ": " ++ reason errno)
            return .error Work.panicCode

/-- Says what is wrong with the script. -/
def complainOfScript (name : Bytes) (wrong : Spot × Fault) : Prog Int := do
  complain name (wrong.1.shown ++ text ": " ++ wrong.2.message)
  return 1

/-- Reads a text of the script. -/
def readText (state : State) (source : Source) (bytes : Bytes) : Prog (Except Int State) := do
  let name := state.settings.name
  let (draft, wrong) := state.draft.read state.settings.manner source bytes
  match ← openWritings name state.writings draft.outputs.reverse with
  | .error code => return .error code
  | .ok writings =>
      match wrong with
      | some wrong => return .error (← complainOfScript name wrong)
      | none => return .ok { state with draft := draft, isGiven := true, writings := writings }

/-- Reads a text of the script that is given as an argument. -/
def readArgument (state : State) (bytes : Bytes) : Prog (Except Int State) :=
  let number := state.settings.expressions + 1
  readText { state with settings := { state.settings with expressions := number } }
    (.expression number) bytes

/-- Reads a text of the script that is held in a file. -/
def readFile (state : State) (path : Bytes) : Prog (Except Int State) := do
  match ← openInput path with
  | .error errno =>
      complain state.settings.name (text "couldn't open file " ++ path ++ text ": " ++ reason errno)
      return .error Work.panicCode
  | .ok fd =>
      let bytes ← Prog.readAll fd
      closeInput fd
      readText state (.file path) (bytes.toOption.getD [])

/-- Follows the options one after the other. -/
def follow : State → List GivenOption → Prog (Except Int State)
  | state, [] => pure (.ok state)
  | state, (key, value) :: rest => do
      let next ← match key with
        | "e" => readArgument state (value.getD [])
        | "f" => readFile state (value.getD [])
        | _ => pure (.ok { state with settings := withOption state.settings key value })
      match next with
      | .ok state => follow state rest
      | .error code => return .error code

/-- Runs the script when that is complete. -/
def editFiles (state : State) (paths : List Bytes) : Prog Int := do
  let name := state.settings.name
  match state.draft.unfinished?, state.draft.missingLabel? with
  | some wrong, _ => complainOfScript name wrong
  | none, some label =>
      complain name (text "can't find label for jump to `" ++ label ++ text "'")
      return Work.panicCode
  | none, none =>
      if state.settings.inPlace.isSome && paths.isEmpty then
        complain name (text "no input files")
        return Work.panicCode
      let settings := { state.settings with
        silent := state.settings.silent || state.draft.silent }
      edit
        { settings := settings
          script := state.draft.script
          phases := state.draft.script.steps.map fun step => step.selector.start
          stdout := { fd := Fd.stdout, name := text "stdout", prompt := settings.prompt }
          writings := state.writings
          input := { rest := inputs paths } }

end StreamEditor

open StreamEditor in
/-- Edits the lines of files by a script. -/
def sed : Utility := fun arguments => do
  let name := nameOf arguments
  let given := table.parse arguments.tail
  match ← follow { settings := { name := name, expressions := 0 } } given.options with
  | .error code => return code
  | .ok state =>
      match given.fault with
      | some fault =>
          complain name fault.message
          complainOfUsage
      | none =>
          if state.isGiven then editFiles state given.operands
          else match given.operands with
            | [] => complainOfUsage
            | script :: paths =>
                match ← readArgument state script with
                | .error code => return code
                | .ok state => editFiles state paths

end LineShell.Utility
