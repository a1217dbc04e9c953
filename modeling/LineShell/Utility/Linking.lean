import LineShell.Utility.Backup
import LineShell.Utility.Removing

/-!
# Further names and symbolic links

- **`ln`** gives files further names, or makes symbolic links.
-/

namespace LineShell.Utility

namespace Linking

/-- How links are made. -/
structure Settings where
  /-- Symbolic links are made. -/
  symbolic : Bool := false
  /-- What a symbolic link leads to is named as seen from the link. -/
  relative : Bool := false
  /-- What is there is replaced. -/
  replaces : Bool := false
  /-- The user is asked before something is replaced. -/
  asks : Bool := false
  /-- A symbolic link to a directory is not taken for the directory. -/
  ownLink : Bool := false
  /-- What a symbolic link leads to gets the name, not the link. -/
  logical : Bool := false
  /-- Directories may get further names, as far as the system lets them. -/
  directories : Bool := false
  /-- The last operand is no directory for links. -/
  plainTarget : Bool := false
  /-- The directory for links. -/
  directory : Option Bytes := none
  /-- Each link is announced. -/
  verbose : Bool := false
  /-- What is said about backups. -/
  backup : Backup.Wish := {}
  /-- How backups are made. -/
  plan : Backup.Plan := {}
  deriving Repr, Inhabited

/-- The options. -/
def table : OptionTable where
  letters := "bdfinrst:vFLPS:T"
  names := Backup.names ++
    [("directory", "F"), ("no-dereference", "n"), ("no-target-directory", "T"),
     ("interactive", "i"), ("force", "f"), ("logical", "L"), ("physical", "P"),
     ("relative", "r"), ("target-directory:", "t"), ("symbolic", "s"), ("verbose", "v")]

/-- The effect of an option. -/
def effect : OptionEffect Settings := fun settings key value =>
  match key with
  | "d" | "F" => .ok { settings with directories := true }
  | "f" => .ok { settings with replaces := true, asks := false }
  | "i" => .ok { settings with replaces := false, asks := true }
  | "n" => .ok { settings with ownLink := true }
  | "r" => .ok { settings with relative := true }
  | "s" => .ok { settings with symbolic := true }
  | "t" =>
      if settings.directory.isSome then refuse (text "multiple target directories specified")
      else .ok { settings with directory := value }
  | "v" => .ok { settings with verbose := true }
  | "L" => .ok { settings with logical := true }
  | "P" => .ok { settings with logical := false }
  | "T" => .ok { settings with plainTarget := true }
  | key =>
      match settings.backup.with? key value with
      | some wish => .ok { settings with backup := wish }
      | none => .ok settings

/-- The part of a path that leads to the directory of its last name. -/
def directoryPart (path : Bytes) : Bytes :=
  let bare := Path.bare path
  let start := bare.take (bare.length - (Path.entryName path).length)
  if start.isEmpty then Path.here else Path.bare start

/-- Both paths spell the same entry of the same directory. Symbolic links to directories are not
taken for those, but for one that everything goes into. -/
def sameEntry (goal : Option Bytes) (first second : Bytes) : Prog Bool := do
  if Path.entryName first != Path.entryName second then return false
  let directory (path : Bytes) : Prog (Except Errno Status) :=
    let start := directoryPart path
    Prog.call (.status start (goal.map Path.bare == some start))
  match ← directory first, ← directory second with
  | .ok a, .ok b => return a.id == b.id
  | _, _ => return false

/-- The names that lead from one directory to another place. -/
def steps : List Bytes → List Bytes → List Bytes
  | a :: start, b :: goal => if a == b then steps start goal
      else (a :: start).map (fun _ => Path.up) ++ b :: goal
  | start, goal => start.map (fun _ => Path.up) ++ goal

/-- The path without links of what may not be there, if its directory is there. -/
def canonical? (path : Bytes) : Prog (Option Bytes) := do
  match ← Prog.call (.canonical path) with
  | .ok path => return some path
  | .error _ =>
      match ← Prog.call (.canonical (directoryPart path)) with
      | .ok directory => return some (Path.join directory (Path.entryName path))
      | .error _ => return none

/-- What a symbolic link has to hold to lead to a path as seen from the link. -/
def seenFrom (link path : Bytes) : Prog Bytes := do
  match ← canonical? path, ← canonical? (directoryPart link) with
  | some goal, some start =>
      let way := steps (Path.parse start).names (Path.parse goal).names
      return if way.isEmpty then Path.here else List.intercalate [Path.slash] way
  | _, _ => return path

/-- Makes a link. -/
def attempt (settings : Settings) (source path : Bytes) : Prog (Except Errno Unit) := do
  if settings.symbolic then Prog.call (.makeLink source path)
  else if settings.logical then
    match ← Prog.call (.canonical source) with
    | .ok source => Prog.call (.hardLink source path)
    | .error errno => return .error errno
  else Prog.call (.hardLink source path)

/-- The complaint about a link that cannot be made. -/
def failure (settings : Settings) (source path : Bytes) (errno : Errno) : Bytes :=
  if settings.symbolic then
    text "failed to create symbolic link " ++ Quote.always path
      ++ if errno != .nameTooLong && !source.isEmpty then []
        else text " -> " ++ Quote.always source
  else
    text "failed to create hard link " ++ Quote.always path
      ++ if errno == .alreadyThere || errno == .noSpace then []
        else text " => " ++ Quote.always source

/-- What has to be done with what has the name of a link. -/
inductive Clearance where
  /-- It is in the way. -/
  | stays
  /-- It is taken away, and there may be a backup of it. -/
  | goes (backup : Option Bytes)
  /-- No link is made. -/
  | refused
  deriving DecidableEq, Repr, Inhabited

/-- Finds out what has to be done with what has the name of a link. -/
def clearance (name : Bytes) (settings : Settings) (made : List (NodeId × Bytes))
    (source path : Bytes) : Prog Clearance := do
  if !settings.replaces && !settings.asks && settings.plan.manner == .none then return .stays
  match ← Prog.call (.status path false) with
  | .error errno =>
      if errno == .noEntry then return .stays
      complainOf name (text "failed to access " ++ Quote.always path) errno
      return .refused
  | .ok old =>
      if old.node.isDirectory then
        complain name (Quote.named path ++ text ": cannot overwrite directory")
        return .refused
      if ← made.anyM fun (id, other) => do
          if id == old.id then sameEntry settings.directory other path else pure false then
        complain name (text "will not overwrite just-created " ++ Quote.always path
          ++ text " with " ++ Quote.always source)
        return .refused
      if let .ok status ← Prog.call (.status source (settings.symbolic || settings.logical)) then
        let isSame ← if status.id != old.id then pure false
          else if status.links == 1 then pure true
          else sameEntry settings.directory source path
        if isSame then
          complain name (Quote.always source ++ text " and " ++ Quote.always path
            ++ text " are the same file")
          return .refused
      if settings.asks then
        if !(← Removal.confirm name (text "replace " ++ Quote.always path ++ text "? ")) then
          return .refused
      if settings.plan.manner == .none then return .goes none
      let backup ← Backup.nameFor settings.plan path
      match ← Prog.call (.rename path backup) with
      | .ok () => return .goes (some backup)
      | .error errno =>
          complainOf name (text "cannot backup " ++ Quote.always path) errno
          return .refused

/-- Announces a link. -/
def announceLink (settings : Settings) (source path : Bytes) (backup : Option Bytes) :
    Prog Unit := do
  if settings.verbose then
    let before := backup.elim [] fun backup => Quote.always backup ++ text " ~ "
    let arrow := if settings.symbolic then " -> " else " => "
    let _ ← Prog.call (.put (before ++ Quote.always path ++ text arrow ++ Quote.always source
      ++ [newline]))

/-- Makes a link, in place of something else if that may be. The links that have been made before
are given, and those afterwards come back. -/
def make (name : Bytes) (settings : Settings) (made : List (NodeId × Bytes))
    (source path : Bytes) : Prog (Bool × List (NodeId × Bytes)) := do
  let first ← if settings.relative then pure (.error .alreadyThere)
    else attempt settings source path
  let status ← if settings.symbolic then pure none else do
    match ← Prog.call (.status source settings.logical) with
    | .ok status => pure (some status)
    | .error errno =>
        complainOf name (text "failed to access " ++ Quote.always source) errno
        return (false, made)
  let remembered := (status.map fun status => (status.id, path)).toList ++ made
  match first with
  | .ok () =>
      announceLink settings source path none
      return (true, remembered)
  | .error errno =>
      if !settings.directories && status.any (·.node.isDirectory) then
        complain name (Quote.named source ++ text ": hard link not allowed for directory")
        return (false, made)
      let source ← if settings.relative then seenFrom path source else pure source
      let again (backup : Option Bytes) : Prog (Bool × List (NodeId × Bytes)) := do
        match ← attempt settings source path with
        | .ok () =>
            announceLink settings source path backup
            return (true, remembered)
        | .error errno =>
            complainOf name (failure settings source path errno) errno
            return (false, made)
      match ← clearance name settings made source path with
      | .refused => return (false, made)
      | .stays => again none
      | .goes backup =>
          if backup.isNone && errno == .alreadyThere then
            let _ ← Prog.call (.unlink path)
          again backup

/-- Makes links in a directory, given how it has gone so far. -/
def makeIn (name : Bytes) (settings : Settings) (directory : Bytes) :
    (code : Int) → List (NodeId × Bytes) → List Bytes → Prog Int
  | code, _, [] => pure code
  | code, made, source :: rest => do
      let path := Path.join directory (Path.entryName source)
      let (fine, made) ← make name { settings with directory := some directory } made source path
      makeIn name settings directory (if fine then code else 1) made rest

/-- A path leads to a directory. -/
def leadsToDirectory (path : Bytes) (follow : Bool) : Prog (Except Errno Unit) := do
  match ← Prog.call (.status path follow) with
  | .error errno => return .error errno
  | .ok status => return if status.node.isDirectory then .ok () else .error .notDirectory

/-- Makes the links that operands ask for. -/
def run (name : Bytes) (settings : Settings) (operands : List Bytes) : Prog Int := do
  let one (source path : Bytes) : Prog Int := do
    let (fine, _) ← make name settings [] source path
    return if fine then 0 else 1
  match settings.directory, operands with
  | some directory, operands =>
      if settings.plainTarget then
        complain name (text "cannot combine --target-directory and --no-target-directory")
        return 1
      match ← leadsToDirectory directory true with
      | .ok () => makeIn name settings directory 0 [] operands
      | .error errno =>
          if errno == .notDirectory then
            complain name (text "target " ++ Quote.always directory
              ++ text " is not a directory")
          else complainOf name (text "failed to access " ++ Quote.always directory) errno
          return 1
  | none, [source] =>
      if settings.plainTarget then
        report name 1 (.usage (text "missing destination file operand after "
          ++ Quote.always source))
      else makeIn name settings Path.here 0 [] [source]
  | none, operands =>
      let last := operands.getLast?.getD []
      if settings.plainTarget then
        match operands with
        | [source, path] => one source path
        | operands =>
            report name 1 (.usage (text "extra operand " ++ Quote.always (operands.getD 2 [])))
      else
        match ← leadsToDirectory last (!settings.ownLink) with
        | .ok () => makeIn name settings last 0 [] operands.dropLast
        | .error errno =>
            match operands with
            | [source, path] => one source path
            | _ =>
                complainOf name (text "target " ++ Quote.always last) errno
                return 1

end Linking

open Linking in
/-- Gives files further names, or makes symbolic links. -/
def ln : Utility := fun arguments =>
  withOptions table 1 {} effect arguments fun name settings operands => do
    if operands.isEmpty then report name 1 (.usage (text "missing file operand"))
    else if settings.relative && !settings.symbolic then
      report name 1 { message := text "cannot do --relative without --symbolic" }
    else match Backup.choose settings.backup (← Prog.call .bindings) with
      | .error complaint => report name 1 complaint
      | .ok plan => flushed name (← run name { settings with plan := plan } operands)

end LineShell.Utility
