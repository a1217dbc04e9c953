import LineShell.Utility.Transfer

/-!
# Copying files

- **`cp`** copies files and directories.
-/

namespace LineShell.Utility

namespace Copying

open Transfer

/-- The options. -/
def table : OptionTable where
  letters := "abdfHilLnprst:uvxPRS:TZ"
  names := Backup.names ++
    [("archive", "a"), ("attributes-only", "attributes-only"), ("context::", "context"),
     ("copy-contents", "contents"), ("debug", "debug"), ("dereference", "L"), ("force", "f"),
     ("interactive", "i"), ("link", "l"), ("no-clobber", "n"), ("no-dereference", "P"),
     ("no-preserve:", "no-preserve"), ("no-target-directory", "T"), ("one-file-system", "x"),
     ("parents", "parents"), ("path", "parents"), ("preserve::", "preserve"),
     ("recursive", "R"), ("reflink::", "reflink"), ("remove-destination", "remove"),
     ("sparse:", "sparse"), ("strip-trailing-slashes", "strip"), ("symbolic-link", "s"),
     ("target-directory:", "t"), ("update::", "u"), ("verbose", "v"), ("keep-directory-symlink",
     "keep-directory-symlink")]

/-- What can be kept of a file. -/
inductive Attribute where
  /-- The permissions. -/
  | mode
  /-- The time. -/
  | time
  /-- Names of the same file. -/
  | links
  /-- Something that no file has. -/
  | other
  /-- Everything. -/
  | all
  deriving DecidableEq, Repr, Inhabited

/-- The words for what can be kept. -/
def attributes : List (String × Attribute) :=
  [("mode", .mode), ("timestamps", .time), ("ownership", .other), ("links", .links),
   ("context", .other), ("xattr", .other), ("all", .all)]

/-- Settings under which something is kept, or is not kept. -/
def keeping (keeps : Bool) (settings : Settings) : Attribute → Settings
  | .mode => { settings with keepsMode := keeps, dropsMode := !keeps }
  | .time => { settings with keepsTime := keeps }
  | .links => { settings with keepsLinks := keeps }
  | .other => settings
  | .all =>
      { settings with
        keepsMode := keeps
        dropsMode := !keeps
        keepsTime := keeps
        keepsLinks := keeps }

/-- Settings under which some things are kept, or are not kept. -/
def keepingEach (option : String) (keeps : Bool) (settings : Settings) (value : Bytes) :
    Except Complaint Settings :=
  (Text.cut 44 value).foldlM (fun settings word => do
    return keeping keeps settings (← choice option attributes word)) settings

/-- The words for when files with holes are made. -/
def holes : List (String × Nat) := [("never", 0), ("auto", 1), ("always", 2)]

/-- The effect of an option. -/
def effect : OptionEffect Options := fun options key value => do
  let settings := options.settings
  let withSettings (settings : Settings) : Options := { options with settings := settings }
  match key with
  | "a" =>
      return withSettings { keeping true settings .all with
        following := .never
        recursive := true }
  | "attributes-only" => return withSettings { settings with onlyAttributes := true }
  | "contents" => return withSettings { settings with asRegular := true }
  | "d" => return withSettings { settings with following := .never, keepsLinks := true }
  | "f" => return withSettings { settings with forces := true }
  | "H" => return withSettings { settings with following := .operands }
  | "i" => return withSettings { settings with replacing := .asked }
  | "l" => return withSettings { settings with hardLinks := true }
  | "L" => return withSettings { settings with following := .always }
  | "n" => return { withSettings { settings with replacing := .skipped } with warns := true }
  | "P" => return withSettings { settings with following := .never }
  | "p" => return withSettings { settings with keepsMode := true, keepsTime := true }
  | "preserve" =>
      match value with
      | none => return withSettings { settings with keepsMode := true, keepsTime := true }
      | some value => return withSettings (← keepingEach "--preserve" true settings value)
  | "no-preserve" =>
      return withSettings (← keepingEach "--no-preserve" false settings (value.getD []))
  | "parents" => return { options with parents := true }
  | "r" | "R" => return withSettings { settings with recursive := true }
  | "remove" => return withSettings { settings with removesFirst := true }
  | "s" => return withSettings { settings with symbolicLinks := true }
  | "sparse" =>
      let _ ← choice "--sparse" holes (value.getD [])
      return options
  | "reflink" =>
      let _ ← choice "--reflink" [("auto", 0), ("always", 1), ("never", 2)]
        (value.getD (text "always"))
      return options
  | key => sharedEffect options key value

/-- The options before any has been read. Which links are followed is not said then, which counts
as following those that are operands until that is settled. -/
def unasked : Options := { settings := { asRegular := false } }

/-- Which links are followed, if options say so. -/
def following? (given : Given) : Option Following :=
  given.options.foldl (fun before option =>
    match option.1 with
    | "a" | "d" | "P" => some .never
    | "H" => some .operands
    | "L" => some .always
    | _ => before) none

/-- The settings when all options have been read. -/
def settle (given : Given) (settings : Settings) : Settings :=
  { settings with
    following := (following? given).getD
      (if settings.recursive && !settings.hardLinks then .never else .always)
    asRegular := settings.asRegular || !settings.recursive }

/-- Makes the directories on the way to a source in the target too, and tells whether they are all
there. -/
def makeParents (name : Bytes) (settings : Settings) (directory : Bytes) :
    List Bytes → Prog Bool
  | [] => pure true
  | way :: rest => do
      let path := Path.join directory way
      match ← Prog.call (.status path true) with
      | .ok status =>
          if status.node.isDirectory then makeParents name settings directory rest
          else
            complain name (Quote.always path ++ text " exists but is not a directory")
            return false
      | .error _ =>
          match ← Prog.call (.status way true) with
          | .error errno =>
              complainOf name (text "failed to get attributes of " ++ Quote.always way) errno
              return false
          | .ok status =>
              match ← Prog.call (.makeDirectory path (status.node.mode ||| 0o700)) with
              | .error errno =>
                  complainOf name (text "cannot make directory " ++ Quote.always path) errno
                  return false
              | .ok () =>
                  if settings.verbose then
                    let _ ← Prog.call (.put (way ++ text " -> " ++ path ++ [newline]))
                  makeParents name settings directory rest

/-- Copies sources into a directory, given how it has gone so far. -/
def copyInto (name : Bytes) (options : Options) (directory : Bytes) :
    (code : Int) → Memory → List Bytes → Prog Int
  | code, _, [] => pure code
  | code, memory, source :: rest => do
      let settings := options.settings
      let last := Path.entryName source
      let inside :=
        if options.parents then (Path.bare source).dropWhile (· == Path.slash)
        else if last == Path.up then Path.here
        else last
      let pair : Pair := ⟨source, Path.join directory inside⟩
      let ready ← if options.parents then
          makeParents name settings directory (Making.waypoints inside)
        else pure true
      if !ready then copyInto name options directory 1 memory rest
      else
        let (outcome, memory) ← (copy name settings depth true { top := pair } pair).run memory
        copyInto name options directory (if outcome.fine then code else 1) memory rest

/-- Copies what operands ask for. -/
def run (name : Bytes) (options : Options) (operands : List Bytes) : Prog Int := do
  match ← requestOf name options.goal operands with
  | .error code => return code
  | .ok (.into directory sources) =>
      let settings := { options.settings with goal := some directory }
      copyInto name { options with settings := settings } directory 0
        { compares := 2 ≤ sources.length } sources
  | .ok (.to pair) =>
      if options.parents then
        report name 1
          (.usage (text "with --parents, the destination must be a directory"))
      else
        let settings := options.settings
        let backsItself := settings.forces && settings.plan.manner != .none
          && pair.source == pair.target
        let pair ← match backsItself, ← Prog.call (.status pair.target true) with
          | true, .ok _ => pure { pair with target := ← Backup.nameFor settings.plan pair.target }
          | _, _ => pure pair
        let settings := if backsItself then { settings with plan := {} } else settings
        let (outcome, _) ← (copy name settings depth true { top := pair } pair).run {}
        return if outcome.fine then 0 else 1

end Copying

open Copying in
/-- Copies files and directories. -/
def cp : Utility := fun arguments =>
  withOptions table 1 unasked effect arguments fun name options operands => do
    let settings := settle (table.parse arguments.tail) options.settings
    if options.warns then
      complain name (text "warning: behavior of -n is non-portable and may change in future; "
        ++ text "use --update=none instead")
    if settings.hardLinks && settings.symbolicLinks then
      report name 1 (.usage (text "cannot make both hard and symbolic links"))
    else match Backup.choose settings.backup (← Prog.call .bindings) with
      | .error complaint => report name 1 complaint
      | .ok plan =>
          let options := { options with settings := { settings with plan := plan } }
          flushed name (← run name options operands)

end LineShell.Utility
