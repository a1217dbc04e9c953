import LineShell.System.Search

/-!
# Commands that are run for what they write

- **`Prog.outputOf`** gives a command to a shell and takes in what it writes.
-/

namespace LineShell.Prog

/-- What a command writes to standard output until it ends. -/
def outputOf (command : Bytes) : Prog Bytes := do
  match ← call .pipe with
  | .error _ => return []
  | .ok (reader, writer) =>
      match ← call .fork with
      | .error _ =>
          let _ ← call (.close reader)
          let _ ← call (.close writer)
          return []
      | .ok .child =>
          let _ ← call (.duplicate writer Fd.stdout)
          let arguments := [Text.bytesOf "sh", Text.bytesOf "-c", command]
          let _ ← call (.exec Search.scriptShell arguments (← call .bindings))
          exit 127
      | .ok (.parent child) =>
          let _ ← call (.close writer)
          let written ← readAll reader
          let _ ← call (.close reader)
          let _ ← waitFor child
          return written.toOption.getD []

end LineShell.Prog
