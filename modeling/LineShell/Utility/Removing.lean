import LineShell.Utility.Making

/-!
# Removing files and directories

- **`rmdir`** removes empty directories.
- **`rm`** removes files, and directories with everything in them.
-/

namespace LineShell.Utility

/-! ## `rmdir` -/

namespace EmptyDirectory

/-- How directories are removed. -/
structure Settings where
  /-- Those on the way are removed too. -/
  parents : Bool := false
  /-- Those that hold something are left alone. -/
  passesFull : Bool := false
  /-- Each of them is announced. -/
  verbose : Bool := false
  deriving Repr, Inhabited

/-- The options of `rmdir`. -/
def table : OptionTable where
  letters := "pv"
  names :=
    [("ignore-fail-on-non-empty", "ignore"), ("path", "p"), ("parents", "p"), ("verbose", "v")]

/-- The effect of an option of `rmdir`. -/
def effect : OptionEffect Settings := fun settings key _ =>
  match key with
  | "p" => .ok { settings with parents := true }
  | "v" => .ok { settings with verbose := true }
  | "ignore" => .ok { settings with passesFull := true }
  | _ => .ok settings

/-- Removes a directory; a phrase tells what has failed. -/
def removeOne (name : Bytes) (settings : Settings) (phrase : String) (path : Bytes) :
    Prog (Bool × Bool) := do
  if settings.verbose then announce name (text "removing directory, " ++ Quote.always path)
  match ← Prog.call (.removeDirectory path) with
  | .ok () => return (true, true)
  | .error errno =>
      if settings.passesFull && (errno == .notEmpty || errno == .alreadyThere) then
        return (false, true)
      let _ ← failedWith name (text phrase ++ Quote.always path) errno
      return (false, false)

/-- Removes directories one after the other as long as that is possible. -/
def removeWay (name : Bytes) (settings : Settings) : List Bytes → Prog Bool
  | [] => pure true
  | path :: rest => do
      let (removed, fine) ← removeOne name settings "failed to remove directory " path
      if removed then removeWay name settings rest else return fine

/-- Removes a directory, and those on the way to it. -/
def remove (name : Bytes) (settings : Settings) (path : Bytes) : Prog Bool := do
  let (removed, fine) ← removeOne name settings "failed to remove " path
  if !removed || !settings.parents then return fine
  removeWay name settings (Making.waypoints path).reverse

end EmptyDirectory

open EmptyDirectory in
/-- Removes empty directories. -/
def rmdir : Utility := fun arguments =>
  withOptions table 1 {} effect arguments fun name settings operands => do
    if operands.isEmpty then report name 1 .missing
    else flushed name (← eachOperand (remove name settings) 0 operands)

/-! ## `rm` -/

namespace Removal

/-- When the user is asked. -/
inductive Asking where
  /-- Before what is protected, if there is a terminal. -/
  | guarded
  /-- Never; what is not there is no failure. -/
  | never
  /-- Once, before much is removed. -/
  | once
  /-- Each time. -/
  | always
  deriving DecidableEq, Repr, Inhabited

/-- How files are removed. -/
structure Settings where
  /-- When the user is asked. -/
  asking : Asking := .guarded
  /-- What is not there is no failure. -/
  passesMissing : Bool := false
  /-- Directories are removed with everything in them. -/
  recursive : Bool := false
  /-- Empty directories are removed. -/
  emptyDirectories : Bool := false
  /-- Each removal is announced. -/
  verbose : Bool := false
  /-- The root directory is not spared. -/
  anyRoot : Bool := false
  deriving Repr, Inhabited

/-- The options of `rm`. -/
def table : OptionTable where
  letters := "dfirvIR"
  names :=
    [("force", "f"), ("interactive::", "interactive"), ("one-file-system", "one"),
     ("no-preserve-root", "anyroot"), ("preserve-root::", "root"),
     ("-presume-input-tty", "tty"), ("recursive", "r"), ("dir", "d"), ("verbose", "v")]

/-- The words for when the user is asked. -/
def askings : List (String × Asking) :=
  [("never", .never), ("no", .never), ("none", .never), ("once", .once), ("always", .always),
   ("yes", .always)]

/-- The effect of an option of `rm`. -/
def effect : OptionEffect Settings := fun settings key value =>
  match key with
  | "d" => .ok { settings with emptyDirectories := true }
  | "f" => .ok { settings with asking := .never, passesMissing := true }
  | "i" => .ok { settings with asking := .always, passesMissing := false }
  | "I" => .ok { settings with asking := .once, passesMissing := false }
  | "r" | "R" => .ok { settings with recursive := true }
  | "v" => .ok { settings with verbose := true }
  | "anyroot" => .ok { settings with anyRoot := true }
  | "interactive" =>
      match value with
      | none => .ok { settings with asking := .always, passesMissing := false }
      | some word => do
          let asking ← choice "--interactive" askings word
          return { settings with
            asking := asking
            passesMissing := settings.passesMissing && asking == .never }
  | _ => .ok settings

/-- Asks a question and tells whether the answer begins with a yes. -/
def confirm (name question : Bytes) : Prog Bool := do
  Prog.complain (name ++ text ": " ++ question)
  let answer ← Prog.iterate (fun (sofar : Bytes) => do
    match ← Prog.call (.read Fd.stdin 1) with
    | .ok [b] => return if b == newline then .inr sofar else .inl (sofar ++ [b])
    | _ => return .inr sofar) []
  return answer.head? == some 121 || answer.head? == some 89

/-- What kind of file a node is, in words. -/
def kindOf (node : Node) : String :=
  match node.content with
  | .regular bytes => if bytes.isEmpty then "regular empty file" else "regular file"
  | .directory .. => "directory"
  | .link _ => "symbolic link"
  | .device .terminal => "character special file"
  | .device _ => "character special file"
  | .pipe => "fifo"

/-- Asks whether something is to be removed, if that has to be asked. A phrase tells what is to be
done. -/
def mayRemove (name : Bytes) (settings : Settings) (phrase : String) (path : Bytes)
    (node : Node) : Prog Bool := do
  let isLink := match node.content with
    | .link _ => true
    | _ => false
  let guarded ← match settings.asking with
    | .never | .once => pure false
    | .always => pure (!isLink)
    | .guarded => do
        match ← Prog.call (.kind Fd.stdin) with
        | .ok .terminal => pure (!isLink)
        | _ => pure false
  let isProtected ← if !guarded then pure false else do
    match ← Prog.call (.mayUse path Files.writeBit) with
    | .ok () => pure false
    | .error _ => pure true
  if settings.asking == .always || isProtected then
    let kind := if phrase == "descend into " then "" else kindOf node ++ " "
    confirm name (text (phrase ++ (if isProtected then "write-protected " else "")
      ++ (if phrase == "descend into " then "directory " else kind)) ++ Quote.always path
      ++ text "? ")
  else return true

/-- Says that something cannot be removed. -/
def failed (name : Bytes) (settings : Settings) (path : Bytes) (errno : Errno) : Prog Bool := do
  if settings.passesMissing && (errno == .noEntry || errno == .notDirectory) then return true
  failedWith name (text "cannot remove " ++ Quote.always path) errno

/-- Announces a removal. -/
def done (settings : Settings) (phrase : String) (path : Bytes) : Prog Bool := do
  if settings.verbose then
    let _ ← Prog.call (.put (text phrase ++ Quote.always path ++ [newline]))
  return true

/-- How deep directories are removed. -/
def depth : Nat := 4096

/-- Removes what a path leads to, down to a depth, and tells whether that went well and whether
the directory above it may be removed too, as far as this is concerned. -/
def removeTree (name : Bytes) (settings : Settings) : (depth : Nat) → Bytes → Prog (Bool × Bool)
  | 0, path => do return (← failed name settings path .nameTooLong, false)
  | depth + 1, path => do
      match ← Prog.call (.status path false) with
      | .error errno =>
          let fine ← failed name settings path errno
          return (fine, fine)
      | .ok status =>
          if !status.node.isDirectory then
            if !(← mayRemove name settings "remove " path status.node) then return (true, true)
            match ← Prog.call (.unlink path) with
            | .ok () => return (← done settings "removed " path, true)
            | .error errno => return (← failed name settings path errno, false)
          else if !settings.recursive && !settings.emptyDirectories then
            return (← failed name settings path .isDirectory, false)
          else
            match ← Prog.call (.names path) with
            | .error errno =>
                match ← Prog.call (.removeDirectory path) with
                | .ok () => return (← done settings "removed directory " path, true)
                | .error _ => return (← failed name settings path errno, false)
            | .ok names =>
                if !names.isEmpty && !settings.recursive then
                  return (← failed name settings path .notEmpty, false)
                if !names.isEmpty then
                  if !(← mayRemove name settings "descend into " path status.node) then
                    return (true, true)
                let mut fine := true
                let mut empty := true
                for entry in names do
                  let (well, gone) ← removeTree name settings depth (Path.join path entry)
                  fine := fine && well
                  empty := empty && gone
                if !empty then return (fine, false)
                if !(← mayRemove name settings "remove " path status.node) then
                  return (fine, true)
                match ← Prog.call (.removeDirectory path) with
                | .ok () => return (fine && (← done settings "removed directory " path), true)
                | .error errno =>
                    let _ ← failed name settings path errno
                    return (false, false)

/-- A directory is one that may be removed, as far as the options go. -/
def enters (settings : Settings) (path : Bytes) : Prog Bool := do
  if settings.recursive then return true
  if !settings.emptyDirectories then return false
  match ← Prog.call (.names path) with
  | .ok names => return names.isEmpty
  | .error _ => return false

/-- Why the directory that an operand leads to is spared. -/
def spared (settings : Settings) (path : Bytes) (status : Status) : Prog (List Bytes) := do
  let last := Path.entryName path
  if last == Path.here || last == Path.up then
    return [text "refusing to remove '.' or '..' directory: skipping " ++ Quote.always path]
  let root : Bytes := [Path.slash]
  match ← Prog.call (.status root true) with
  | .ok top =>
      if settings.anyRoot || status.id != top.id then return []
      let same := if path == root then [] else text " (same as '/')"
      return [text "it is dangerous to operate recursively on " ++ Quote.always path ++ same,
        text "use --no-preserve-root to override this failsafe"]
  | .error _ => return []

/-- Removes an operand. -/
def removeOperand (name : Bytes) (settings : Settings) (path : Bytes) : Prog Bool := do
  if let .ok status ← Prog.call (.status path false) then
    if status.node.isDirectory then
      if ← enters settings path then
        let reasons ← spared settings path status
        if !reasons.isEmpty then
          complainEach name reasons
          return false
  let (fine, _) ← removeTree name settings depth path
  return fine

/-- Asks once before much is removed. -/
def confirmOnce (name : Bytes) (settings : Settings) (operands : List Bytes) : Prog Bool := do
  let count := operands.length
  if settings.asking != .once || !(settings.recursive || 3 < count) then return true
  let arguments := if count = 1 then "argument" else "arguments"
  confirm name (text (s!"remove {count} {arguments}"
    ++ if settings.recursive then " recursively? " else "? "))

end Removal

open Removal in
/-- Removes files, and directories with everything in them. -/
def rm : Utility := fun arguments =>
  withOptions table 1 {} effect arguments fun name settings operands => do
    if operands.isEmpty then
      if settings.passesMissing then return 0 else report name 1 .missing
    else if !(← confirmOnce name settings operands) then return 0
    else flushed name (← eachOperand (removeOperand name settings) 0 operands)

end LineShell.Utility
