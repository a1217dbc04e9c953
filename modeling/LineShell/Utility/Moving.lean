import LineShell.Utility.Transfer

/-!
# Moving files

- **`mv`** moves and renames files and directories.
-/

namespace LineShell.Utility

namespace Moving

open Transfer

/-- The options. -/
def table : OptionTable where
  letters := "bfint:uvS:TZ"
  names := Backup.names ++
    [("context", "Z"), ("debug", "debug"), ("force", "f"), ("interactive", "i"),
     ("no-clobber", "n"), ("no-copy", "no-copy"), ("no-target-directory", "T"),
     ("strip-trailing-slashes", "strip"), ("target-directory:", "t"), ("update::", "u"),
     ("verbose", "v")]

/-- The effect of an option. -/
def effect : OptionEffect Options := fun options key value => do
  let settings := options.settings
  let withReplacing (replacing : Replacing) : Options :=
    { options with settings := { settings with replacing := replacing } }
  match key with
  | "f" => return withReplacing .always
  | "i" => return withReplacing .asked
  | "n" => return withReplacing .refused
  | key => sharedEffect options key value

/-- The options before any has been read. -/
def unasked : Options :=
  { settings := { moves := true, recursive := true, following := .never, asRegular := false } }

/-- Moves sources into a directory, given how it has gone so far. -/
def moveInto (name : Bytes) (settings : Settings) (directory : Bytes) :
    (code : Int) → Memory → List Bytes → Prog Int
  | code, _, [] => pure code
  | code, memory, source :: rest => do
      let pair : Pair := ⟨source, Path.join directory (Path.entryName source)⟩
      let (fine, memory) ← (do
        let renamed ← renameAfresh settings pair
        move name settings rest.isEmpty pair renamed : Work Bool).run memory
      moveInto name settings directory (if fine then code else 1) memory rest

/-- The settings with how backups are made, or the exit code after a complaint. -/
def planned (name : Bytes) (settings : Settings) : Prog (Except Int Settings) := do
  if settings.backup.isGiven && settings.replacing == .refused then
    return .error (← report name 1
      (.usage (text "options --backup and --no-clobber are mutually exclusive")))
  match Backup.choose settings.backup (← Prog.call .bindings) with
  | .error complaint => return .error (← report name 1 complaint)
  | .ok plan =>
      return .ok { settings with
        plan := plan
        onlyOlder := settings.onlyOlder && settings.replacing != .refused }

/-- Moves what operands ask for. Options that make no sense together are found out only after a
single file has been tried to be renamed. -/
def run (name : Bytes) (settings : Settings) (goal : Goal) (operands : List Bytes) :
    Prog Int := do
  match ← requestOf name goal operands with
  | .error code => return code
  | .ok (.into directory sources) =>
      match ← planned name settings with
      | .error code => return code
      | .ok settings =>
          moveInto name { settings with goal := some directory } directory 0
            { compares := 2 ≤ sources.length } sources
  | .ok (.to pair) =>
      let pair : Pair := if goal.stripsSlashes then
        ⟨Path.bare pair.source, Path.bare pair.target⟩ else pair
      let (renamed, memory) ← (renameAfresh settings pair).run {}
      match ← planned name settings with
      | .error code => return code
      | .ok settings =>
          let (fine, _) ← (move name settings true pair renamed).run memory
          return if fine then 0 else 1

end Moving

open Moving in
/-- Moves and renames files and directories. -/
def mv : Utility := fun arguments =>
  withOptions table 1 unasked effect arguments fun name options operands => do
    flushed name (← run name options.settings options.goal operands)

end LineShell.Utility
