import LineShell.Script.Activity
import LineShell.System.Search

/-!
# Finding commands

A name stands for a function, for a command that the script runs by itself, or for a program.

- **`ownCommands`** lists the commands that the script runs by itself.
- **`locate`** finds out what a name stands for.
-/

namespace LineShell.Script

open Activity

/-! ## Commands that scripts run by themselves -/

/-- How a command that a script runs by itself stands to others. -/
inductive Standing where
  /-- When something is wrong with it, the script ends. -/
  | special
  /-- It is run wherever programs are looked for. -/
  | regular
  /-- It takes the place of a program of the same name. -/
  | stand
  deriving DecidableEq, Repr, Inhabited

/-- The commands that a script runs by itself. -/
def ownCommands : List (String × Standing) :=
  [(".", .special), (":", .special), ("[", .stand), ("alias", .regular), ("bg", .regular),
   ("break", .special), ("cd", .regular), ("chdir", .regular), ("command", .regular),
   ("continue", .special), ("echo", .stand), ("eval", .special), ("exec", .special),
   ("exit", .special), ("export", .special), ("false", .regular), ("fg", .regular),
   ("getopts", .regular), ("hash", .stand), ("jobs", .regular), ("kill", .regular),
   ("local", .special), ("printf", .stand), ("pwd", .regular), ("read", .regular),
   ("readonly", .special), ("return", .special), ("set", .special), ("shift", .special),
   ("test", .stand), ("times", .special), ("trap", .special), ("true", .regular), ("type", .stand),
   ("ulimit", .stand), ("umask", .regular), ("unalias", .regular), ("unset", .special),
   ("wait", .regular)]

/-- How the command with a name stands to others, if the script runs it by itself. -/
def standing? (name : Bytes) : Option Standing :=
  (ownCommands.find? fun entry => Text.bytesOf entry.1 == name).map Prod.snd

/-! ## Programs -/

/-- The paths under which a program of that name may be found. -/
def candidates (path name : Bytes) : List Bytes := Search.candidates (some path) name

/-- The first of some paths, counting from a place, that leads to a program, and else what stands
in the way. -/
def findProgram : (place : Nat) → (hindrance : Errno) → List Bytes → Activity (Except Errno Nat)
  | _, hindrance, [] => return .error hindrance
  | place, hindrance, path :: rest => do
      match ← ask (.status path true) with
      | .error errno =>
          let plain := errno == .noEntry || errno == .notDirectory
          findProgram (place + 1) (if plain then hindrance else errno) rest
      | .ok status =>
          if status.node.isRegular then
            match ← ask (.mayUse path Files.searchBit) with
            | .ok () => return .ok place
            | .error _ => findProgram (place + 1) .accessDenied rest
          else findProgram (place + 1) .accessDenied rest

/-- Remembers where a program has been found. -/
def remember (name : Bytes) (place : Nat) : Activity Unit :=
  modify fun known =>
    let entry : Located := { name := name, place := place }
    if known.located.any fun other => other.name == name then
      { known with located := known.located.map fun other =>
          if other.name == name then entry else other }
    else { known with located := known.located ++ [entry] }

/-- Forgets where a program has been found. -/
def forgetProgram (name : Bytes) : Activity Unit :=
  modify fun known =>
    { known with located := known.located.filter fun other => other.name != name }

/-- Programs have to be looked for again, since the directory has changed. -/
def doubtPrograms : Activity Unit :=
  modify fun known =>
    { known with located := known.located.map fun entry => { entry with stale := true } }

/-! ## Names -/

/-- What a name stands for. -/
inductive Found where
  /-- A command that the script runs by itself. -/
  | own (standing : Standing)
  /-- A function. -/
  | function (function : Function)
  /-- A program at a place among the paths to try. -/
  | program (place : Nat)
  deriving Inhabited

/-- Looks for a program of that name, in the usual directories if no others are given. -/
def locateProgram (path : Option Bytes) (name : Bytes) : Activity (Except Errno Found) := do
  let known ← get
  let before := known.located.find? fun entry => entry.name == name && !entry.stale
  match path, before with
  | none, some entry => return .ok (.program entry.place)
  | path, _ =>
      match ← findProgram 0 .noEntry (candidates (path.getD known.searchPath) name) with
      | .ok place =>
          if path.isNone then remember name place
          return .ok (.program place)
      | .error errno =>
          if path.isNone then forgetProgram name
          return .error errno

/-- Finds out what a name stands for: a function if these count, a command that the script runs by
itself, or a program. -/
def locate (functions : Bool) (path : Option Bytes) (name : Bytes) :
    Activity (Except Errno Found) := do
  if name.contains Path.slash then return .ok (.program 0)
  let function := (← get).function? name
  match if functions then function else none, standing? name with
  | some function, _ => return .ok (.function function)
  | none, some standing => return .ok (.own standing)
  | none, none => locateProgram path name

/-- The words for what stands in the way of a program. -/
def hindranceText (errno : Errno) : Bytes :=
  Text.bytesOf (if errno == .noEntry || errno == .notDirectory then "not found"
    else errno.message)

/-- Finds out what a name stands for, and complains if it stands for nothing. -/
def locateOrWarn (functions : Bool) (path : Option Bytes) (name : Bytes) :
    Activity (Option Found) := do
  match ← locate functions path name with
  | .ok found => return some found
  | .error errno =>
      warn (name ++ Text.bytesOf ": " ++ hindranceText errno)
      return none

end LineShell.Script
