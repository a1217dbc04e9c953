import LineShell.Line.Structure
import LineShell.Shell.Failure
import LineShell.System.Program

/-!
# Opening the file of a redirection

- **`Target.openFile`** opens the file for writing. It is made when it is missing.
- **`Target.preflight`** opens it and gives it up again, to find out whether that is possible.
- **`Target.deposit`** opens it and writes a text to it.
- **`inspect`** is the whole check of a line: its structure first, then its file.
-/

namespace LineShell

/-- The bytes of a text that holds no NUL. -/
def cleanBytes (text : String) : Except NulWord Bytes :=
  let bytes := Text.bytesOf text
  if bytes.contains 0 then .error ⟨bytes.idxOf 0⟩ else .ok bytes

/-- How a redirection opens its file. -/
def WriteMode.access : WriteMode → Access
  | .truncate => { write := true, create := true, truncate := true }
  | .append => { write := true, append := true, create := true }

namespace Target

/-- Opens the file, after any interruption once more. The programs that are started do not
inherit the number. -/
def openFile (target : Target) : Prog (Except OpenFailure Fd) :=
  match cleanBytes target.path with
  | .error _ => pure (.error .nul)
  | .ok path => do
      match ← Prog.callUntil (.openPath path target.mode.access true) fun
          | .error errno => errno == .interrupted
          | .ok _ => false with
      | .ok fd => return .ok fd
      | .error errno => return .error (.system errno)

/-- Opens the file and gives it up again. -/
def preflight (target : Target) : Prog (Except LineFault Unit) := do
  match ← target.openFile with
  | .ok fd =>
      let _ ← Prog.call (.close fd)
      return .ok ()
  | .error _ => return .error .cannotOpenFile

/-- Writes text to the file and gives it up again. Nothing is written of an empty text. -/
def deposit (target : Target) (text : String) : Prog (Except OpenFailure Unit) := do
  match ← target.openFile with
  | .error failure => return .error failure
  | .ok fd =>
      -- the file is opened and given up even if there is nothing to write
      let written ←
        if text.isEmpty then pure (.ok ()) else Prog.write fd (Text.bytesOf text)
      let _ ← Prog.call (.close fd)
      match written with
      | .ok () => return .ok ()
      | .error errno => return .error (.system errno)

end Target

/-- Checks the structure of a line, and then that the file it ends with can be opened. -/
def inspect (tokens : List Token) : Prog (Except LineFault Unit) :=
  match Structure.check tokens with
  | .error fault => pure (.error fault)
  | .ok () =>
      match Structure.target? tokens with
      | some target => target.preflight
      | none => pure (.ok ())

end LineShell
