import LineShell.System.Mode
import LineShell.Utility.Options

/-!
# Making files and directories

- **`mkdir`** makes directories.
- **`touch`** makes files, and lets those that are there count as changed.
-/

namespace LineShell.Utility

/-- Does something with each of some operands, and fails if that fails for one of them. -/
def eachOperand (run : Bytes → Prog Bool) : (code : Int) → List Bytes → Prog Int
  | code, [] => pure code
  | code, operand :: rest => do
      let fine ← run operand
      eachOperand run (if fine then code else 1) rest

/-- Says that something cannot be done, and that this is a failure. -/
def failedWith (name subject : Bytes) (errno : Errno) : Prog Bool := do
  complainOf name subject errno
  return false

/-- Says what has been done. -/
def announce (name message : Bytes) : Prog Unit := do
  let _ ← Prog.call (.put (name ++ text ": " ++ message ++ [newline]))
  return ()

/-- Ends with a code when everything that was held back has been written. -/
def flushed (name : Bytes) (code : Int) : Prog Int := do
  match ← Prog.call .flush with
  | .ok () => return code
  | .error errno =>
      complainOf name (text "write error") errno
      return 1

/-! ## `mkdir` -/

namespace Making

/-- How directories are made. -/
structure Settings where
  /-- Those on the way are made too, and those that are there are left alone. -/
  parents : Bool := false
  /-- Each of them is announced. -/
  verbose : Bool := false
  /-- Their permissions. -/
  mode : Option (List Mode.Change) := none
  deriving Repr, Inhabited

/-- The options of `mkdir`. -/
def table : OptionTable where
  letters := "pm:vZ"
  names := [("context::", "context"), ("mode:", "m"), ("parents", "p"), ("verbose", "v")]

/-- The effect of an option of `mkdir`. -/
def effect : OptionEffect Settings := fun settings key value =>
  match key with
  | "p" => .ok { settings with parents := true }
  | "v" => .ok { settings with verbose := true }
  | "m" =>
      match Mode.parse? (value.getD []) with
      | some changes => .ok { settings with mode := some changes }
      | none => refuse (text "invalid mode " ++ Quote.plain (value.getD []))
  | _ => .ok settings

/-- The permission bits that are withheld from new files. -/
def currentMask : Prog Nat := do
  let mask ← Prog.call (.setMask 0)
  let _ ← Prog.call (.setMask mask)
  return mask

/-- Announces a directory. -/
def announceDirectory (name : Bytes) (settings : Settings) (path : Bytes) : Prog Unit :=
  if settings.verbose then announce name (text "created directory " ++ Quote.always path)
  else pure ()

/-- Says that a directory cannot be made. -/
def failed (name path : Bytes) (errno : Errno) : Prog Bool :=
  failedWith name (text "cannot create directory " ++ Quote.plain path) errno

/-- Makes the last directory of a path. -/
def makeLast (name : Bytes) (settings : Settings) (path : Bytes) : Prog Bool := do
  let mode ← match settings.mode with
    | none => pure Files.freshDirectoryMode
    | some changes => pure (Mode.change true (← currentMask) Files.freshDirectoryMode changes)
  match ← Prog.call (.makeDirectory path mode) with
  | .ok () =>
      if settings.mode.isSome then
        let _ ← Prog.call (.setMode path mode)
      announceDirectory name settings path
      return true
  | .error errno =>
      if !settings.parents || errno != .alreadyThere then failed name path errno
      else match ← Prog.call (.status path true) with
        | .ok status =>
            if status.node.isDirectory then return true else failed name path errno
        | .error _ => failed name path errno

/-- The parts of a path that lead to directories on the way to it. -/
def waypoints (path : Bytes) : List Bytes :=
  let bare := Path.bare path
  ((List.range bare.length).filter fun place =>
    place ≠ 0 && bare[place]? == some Path.slash && bare[place - 1]? != some Path.slash).map
      fun place => bare.take place

/-- Makes the directories on the way to a path, and tells whether they are all there. -/
def makeWay (name : Bytes) (settings : Settings) : List Bytes → Prog Bool
  | [] => pure true
  | path :: rest => do
      match ← Prog.call (.makeDirectory path Files.freshDirectoryMode) with
      | .ok () =>
          announceDirectory name settings path
          makeWay name settings rest
      | .error errno =>
          match ← Prog.call (.status path true) with
          | .ok status =>
              if status.node.isDirectory then makeWay name settings rest
              else failed name path .notDirectory
          | .error _ => failed name path errno

/-- Makes a directory. -/
def make (name : Bytes) (settings : Settings) (path : Bytes) : Prog Bool := do
  if settings.parents then
    if !(← makeWay name settings (waypoints path)) then return false
  makeLast name settings path

end Making

open Making in
/-- Makes directories. -/
def mkdir : Utility := fun arguments =>
  withOptions table 1 {} effect arguments fun name settings operands => do
    if operands.isEmpty then report name 1 .missing
    else flushed name (← eachOperand (make name settings) 0 operands)

/-! ## `touch` -/

namespace Touching

/-- How files are touched. -/
structure Settings where
  /-- None is made. -/
  makesNone : Bool := false
  /-- A symbolic link is meant itself. -/
  ownLink : Bool := false
  /-- The file whose time is taken. -/
  reference : Option Bytes := none
  deriving Repr, Inhabited

/-- The options of `touch`. -/
def table : OptionTable where
  letters := "acd:fhmr:t:"
  names :=
    [("time:", "time"), ("no-create", "c"), ("date:", "d"), ("reference:", "r"),
     ("no-dereference", "h")]

/-- The words for the times of a file. -/
def times : List (String × Bool) :=
  [("atime", true), ("access", true), ("use", true), ("mtime", false), ("modify", false)]

/-- The effect of an option of `touch`. -/
def effect : OptionEffect Settings := fun settings key value =>
  match key with
  | "c" => .ok { settings with makesNone := true }
  | "h" => .ok { settings with ownLink := true }
  | "r" => .ok { settings with reference := value }
  | "time" => do
      let _ ← choice "--time" times (value.getD [])
      return settings
  | _ => .ok settings

/-- Touches a file. -/
def touchFile (name : Bytes) (settings : Settings) (time : Option Nat) (path : Bytes) :
    Prog Bool := do
  if path == text "-" then return true
  let made ← if settings.makesNone || settings.ownLink then pure none else do
    match ← Prog.call (.openPath path { write := true, create := true } true) with
    | .ok fd =>
        let _ ← Prog.call (.close fd)
        pure none
    | .error errno => pure (if errno == .isDirectory then none else some errno)
  match ← Prog.call (.setTime path (!settings.ownLink) time) with
  | .ok () => return true
  | .error errno =>
      match made with
      | some errno => failedWith name (text "cannot touch " ++ Quote.always path) errno
      | none =>
          if settings.makesNone && errno == .noEntry then return true
          failedWith name (text "setting times of " ++ Quote.always path) errno

end Touching

open Touching in
/-- Makes files, and lets those that are there count as changed. -/
def touch : Utility := fun arguments =>
  withOptions table 1 {} effect arguments fun name settings operands => do
    let time ← match settings.reference with
      | none => pure (some none)
      | some path =>
          match ← Prog.call (.status path (!settings.ownLink)) with
          | .ok status => pure (some (some status.node.changed))
          | .error errno =>
              let _ ← failedWith name
                (text "failed to get attributes of " ++ Quote.always path) errno
              pure none
    match time with
    | none => return 1
    | some time =>
        if operands.isEmpty then report name 1 (.usage (text "missing file operand"))
        else eachOperand (touchFile name settings time) 0 operands

end LineShell.Utility
