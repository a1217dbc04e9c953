import LineShell.System.Mode
import LineShell.Utility.Making

/-!
# Changing permissions

- **`chmod`** changes the permissions of files.
-/

namespace LineShell.Utility

namespace Permission

/-- Which changes are announced. -/
inductive Telling where
  /-- None. -/
  | none
  /-- Those that change something. -/
  | changes
  /-- All of them. -/
  | all
  deriving DecidableEq, Repr, Inhabited

/-- How permissions are changed. -/
structure Settings where
  /-- What is in directories is changed too. -/
  recursive : Bool := false
  /-- Nothing is said about failures. -/
  silent : Bool := false
  /-- Which changes are announced. -/
  telling : Telling := .none
  /-- The file whose permissions are taken. -/
  reference : Option Bytes := none
  /-- The changes that were given in the way of options. -/
  mode : Option Bytes := none
  deriving Repr, Inhabited

/-- The letters with which changes begin that look like options. -/
def modeLetters : String := "rwxXstugoa,+=01234567"

/-- The options. -/
def table : OptionTable where
  letters := "Rcfv" ++ String.join (modeLetters.toList.map fun c => String.singleton c ++ "::")
  names :=
    [("changes", "c"), ("recursive", "R"), ("no-preserve-root", "anyroot"),
     ("preserve-root", "root"), ("quiet", "f"), ("reference:", "reference"), ("silent", "f"),
     ("verbose", "v")]

/-- The effect of an option. -/
def effect : OptionEffect Settings := fun settings key value =>
  match key with
  | "R" => .ok { settings with recursive := true }
  | "c" => .ok { settings with telling := .changes }
  | "f" => .ok { settings with silent := true }
  | "v" => .ok { settings with telling := .all }
  | "reference" => .ok { settings with reference := value }
  | "anyroot" | "root" => .ok settings
  | letter =>
      let given := text ("-" ++ letter) ++ value.getD []
      .ok { settings with mode := match settings.mode with
        | some before => some (before ++ text "," ++ given)
        | none => some given }

/-- A change of permissions that is to be made. -/
structure Task where
  /-- The changes. -/
  changes : List Mode.Change
  /-- The permission bits that are withheld. -/
  mask : Nat := 0
  /-- The change looks like an option, so that it may be meant in another way. -/
  doubtful : Bool := false
  deriving Repr, Inhabited

/-- Writes about a change of permissions. -/
def tell (path message : Bytes) (before : String) : Prog Unit := do
  let _ ← Prog.call (.put (text before ++ Quote.always path ++ message ++ [newline]))

/-- Permissions in both spellings. -/
def both (mode : Nat) : Bytes :=
  Mode.octal mode ++ text " (" ++ Mode.shown mode ++ text ")"

/-- Announces a change of permissions. -/
def announceChange (settings : Settings) (path : Bytes) (old new : Nat) (fine : Bool) :
    Prog Unit := do
  if !fine then
    if settings.telling == .all then
      tell path (text " from " ++ both old ++ text " to " ++ both new)
        "failed to change mode of "
  else if old != new then
    if settings.telling != .none then
      tell path (text " changed from " ++ both old ++ text " to " ++ both new) "mode of "
  else if settings.telling == .all then
    tell path (text " retained as " ++ both new) "mode of "

/-- Complains unless nothing is to be said about failures. -/
def complainAloud (settings : Settings) (name subject : Bytes) (errno : Errno) : Prog Bool := do
  if !settings.silent then complainOf name subject errno
  return false

/-- Changes the permissions of a node. -/
def changeNode (name : Bytes) (settings : Settings) (task : Task) (path : Bytes) (node : Node) :
    Prog Bool := do
  let old := node.mode &&& Mode.all
  let new := Mode.change node.isDirectory task.mask old task.changes
  match ← Prog.call (.setMode path new) with
  | .error errno =>
      let fine ← complainAloud settings name
        (text "changing permissions of " ++ Quote.always path) errno
      announceChange settings path old new false
      return fine
  | .ok () =>
      announceChange settings path old new true
      let expected := Mode.change node.isDirectory 0 old task.changes
      if task.doubtful && Mode.without new expected ≠ 0 then
        complain name (Quote.named path ++ text ": new permissions are " ++ Mode.shown new
          ++ text ", not " ++ Mode.shown expected)
        return false
      return true

/-- How deep directories are changed. -/
def depth : Nat := 4096

/-- Changes the permissions of what a path leads to, and of what is in it if that is wanted. -/
def changePath (name : Bytes) (settings : Settings) (task : Task) :
    (depth : Nat) → (isOperand : Bool) → (path : Bytes) → Prog Bool
  | 0, _, _ => return false
  | depth + 1, isOperand, path => do
      match ← Prog.call (.status path isOperand) with
      | .error errno =>
          let isLink := match ← Prog.call (.status path false) with
            | .ok _ => true
            | .error _ => false
          if isLink && errno == .noEntry then
            if !settings.silent then
              complain name (text "cannot operate on dangling symlink " ++ Quote.always path)
          else
            let _ ← complainAloud settings name (text "cannot access " ++ Quote.always path) errno
          if settings.telling == .all then tell path (text " could not be accessed") ""
          return false
      | .ok status =>
          if let .link _ := status.node.content then
            if settings.telling == .all then
              tell path (text " nor referent has been changed") "neither symbolic link "
            return true
          let fine ← changeNode name settings task path status.node
          if !settings.recursive || !status.node.isDirectory then return fine
          match ← Prog.call (.names path) with
          | .error errno =>
              complainAloud settings name (text "cannot read directory " ++ Quote.always path)
                errno
          | .ok names =>
              let mut fine := fine
              for entry in names do
                let well ← changePath name settings task depth false (Path.join path entry)
                fine := fine && well
              return fine

/-- Changes the permissions of operands. -/
def run (name : Bytes) (settings : Settings) (task : Task) (operands : List Bytes) : Prog Int := do
  flushed name (← eachOperand (changePath name settings task depth true) 0 operands)

end Permission

open Permission in
/-- Changes the permissions of files. -/
def chmod : Utility := fun arguments =>
  withOptions table 1 {} effect arguments fun name settings operands => do
    match settings.reference with
    | some path =>
        if settings.mode.isSome then
          report name 1 (.usage (text "cannot combine mode and --reference options"))
        else if operands.isEmpty then report name 1 .missing
        else match ← Prog.call (.status path true) with
          | .error errno =>
              complainOf name (text "failed to get attributes of " ++ Quote.always path) errno
              return 1
          | .ok status =>
              let change : Mode.Change :=
                ⟨.set, Mode.all, .bits (status.node.mode &&& Mode.all), Mode.all⟩
              run name settings { changes := [change] } operands
    | none =>
        let (mode, files) := match settings.mode, operands with
          | some mode, operands => (some mode, operands)
          | none, mode :: rest => (some mode, rest)
          | none, [] => (none, [])
        match mode with
        | none => report name 1 .missing
        | some mode =>
            if files.isEmpty then
              report name 1
                (if settings.mode.isSome then .missing else .missingAfter mode)
            else match Mode.parse? mode with
              | none => report name 1 (.usage (text "invalid mode: " ++ Quote.plain mode))
              | some changes =>
                  let mask ← Making.currentMask
                  run name settings
                    { changes := changes, mask := mask, doubtful := settings.mode.isSome } files

end LineShell.Utility
