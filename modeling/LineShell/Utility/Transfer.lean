import LineShell.System.Mode
import LineShell.Utility.Linking

/-!
# Copying and moving

What a path leads to can get a copy under another path, or be moved there. Before that it has to be
found out whether something is in the way, and whether both paths lead to the same file.

- **`Transfer.transfer`** copies or moves what one path leads to.
- **`Transfer.Settings`** says in which way.
-/

namespace LineShell.Utility.Transfer

/-- Which symbolic links are followed that are to be copied. -/
inductive Following where
  /-- None. -/
  | never
  /-- Those that are operands. -/
  | operands
  /-- All of them. -/
  | always
  deriving DecidableEq, Repr, Inhabited

/-- Whether something is replaced. -/
inductive Replacing where
  /-- It is, but what is protected only after the user has been asked at a terminal. -/
  | usual
  /-- It is. -/
  | always
  /-- It is not, and that is a failure. -/
  | refused
  /-- It is not. -/
  | skipped
  /-- The user is asked. -/
  | asked
  deriving DecidableEq, Repr, Inhabited

/-- In which way something is copied or moved. -/
structure Settings where
  /-- It is moved. -/
  moves : Bool := false
  /-- Directories are copied with everything in them. -/
  recursive : Bool := false
  /-- Files get further names in place of copies. -/
  hardLinks : Bool := false
  /-- Symbolic links are made in place of copies. -/
  symbolicLinks : Bool := false
  /-- Which symbolic links are followed. -/
  following : Following := .always
  /-- Everything but directories and symbolic links is copied as a regular file. -/
  asRegular : Bool := true
  /-- Whether something is replaced. -/
  replacing : Replacing := .usual
  /-- Only what is older is replaced. -/
  onlyOlder : Bool := false
  /-- What cannot be opened is removed. -/
  forces : Bool := false
  /-- What is there is removed first. -/
  removesFirst : Bool := false
  /-- Permissions are kept. -/
  keepsMode : Bool := false
  /-- Permissions are not kept, not even where that is usual. -/
  dropsMode : Bool := false
  /-- Times are kept. -/
  keepsTime : Bool := false
  /-- Names of the same file become names of the same copy. -/
  keepsLinks : Bool := false
  /-- What files hold is not copied. -/
  onlyAttributes : Bool := false
  /-- What is done is announced. -/
  verbose : Bool := false
  /-- What is said about backups. -/
  backup : Backup.Wish := {}
  /-- How backups are made. -/
  plan : Backup.Plan := {}
  /-- The directory that everything goes into. -/
  goal : Option Bytes := none
  deriving Repr, Inhabited

/-- What is remembered from one operand to the next. -/
structure Memory where
  /-- There are several operands, so that their sources and targets have to be compared. -/
  compares : Bool := false
  /-- The nodes that operands led to, with their paths. -/
  sources : List (NodeId × Bytes) := []
  /-- The nodes that have been made for operands, with their paths. -/
  targets : List (NodeId × Bytes) := []
  /-- The nodes that have been copied, with the paths of their copies. -/
  copies : List (NodeId × Bytes) := []
  deriving Repr, Inhabited

/-- Something that is done in the course of copying. -/
abbrev Work (α : Type) := StateT Memory Prog α

/-- How copying something has come out. -/
structure Outcome where
  /-- It went well. -/
  fine : Bool
  /-- A directory would have been copied or moved into itself. -/
  intoSelf : Bool := false
  deriving DecidableEq, Repr, Inhabited

/-- What is copied to where. -/
structure Pair where
  /-- The path of what is copied. -/
  source : Bytes
  /-- The path of the copy. -/
  target : Bytes
  deriving DecidableEq, Repr, Inhabited

section Transfer

variable (name : Bytes) (settings : Settings)

/-- Asks the system. -/
def ask (call : Call) : Work call.Result := liftM (Prog.call call)

/-- Says that something cannot be done. -/
def failed {α : Type} (value : α) (subject : Bytes) (errno : Errno) : Work α := do
  liftM (complainOf name subject errno)
  return value

/-- Says that something is wrong. -/
def refused {α : Type} (value : α) (message : Bytes) : Work α := do
  liftM (complain name message)
  return value

/-- The node is a symbolic link. -/
def isLink (node : Node) : Bool :=
  match node.content with
  | .link _ => true
  | _ => false

/-- Announces something. -/
def sayDone (message : Bytes) : Work Unit := do
  if settings.verbose then
    let _ ← ask (.put (message ++ [newline]))

/-- Announces a copy. -/
def sayCopied (verb : String) (pair : Pair) (backup : Option Bytes) : Work Unit :=
  sayDone settings (text verb ++ Quote.always pair.source ++ text " -> "
    ++ Quote.always pair.target
    ++ backup.elim [] fun backup => text " (backup: " ++ Quote.always backup ++ text ")")

/-! ## What is in the way -/

/-- Both paths spell the same entry of the same directory. -/
def sameEntry (first second : Bytes) : Work Bool :=
  liftM (Linking.sameEntry settings.goal first second)

/-- Where something is that a path leads to. No path at all leads to where moving begins. -/
def placeOf (path : Bytes) : Bytes :=
  if settings.moves && path.isEmpty then Path.here else path

/-- One of some remembered nodes is a node that is known by the same entry. -/
def isRemembered (remembered : List (NodeId × Bytes)) (id : NodeId) (path : Bytes) :
    Work Bool :=
  remembered.anyM fun (other, known) =>
    if other == id then sameEntry settings known path else pure false

/-- What comes of comparing a source with what is in the way. -/
inductive Comparison where
  /-- They are not the same file. -/
  | different
  /-- They are the same file, so that nothing can be done. -/
  | same
  /-- They are the same file, and nothing has to be done. -/
  | done
  deriving DecidableEq, Repr, Inhabited

/-- Compares two files neither of which is to be kept apart by a backup. -/
def compareLast (pair : Pair) (source sourceLink targetLink : Status) : Work Comparison := do
  let bothPlain := !isLink sourceLink.node && !isLink targetLink.node
  if (settings.moves || settings.removesFirst) && isLink targetLink.node then return .different
  if bothPlain && sourceLink.id != targetLink.id then return .different
  if bothPlain && settings.hardLinks then return .done
  if settings.moves && isLink source.node && 1 < targetLink.links then
    if let .ok path ← ask (.canonical pair.source) then
      return if ← sameEntry settings path pair.target then .same else .different
  if settings.symbolicLinks && isLink targetLink.node then return .different
  if settings.following == .never then
    match ← ask (.status pair.source true), ← ask (.status pair.target true) with
    | .ok a, .ok b =>
        if a.id != b.id then return .different
        else if settings.hardLinks then
          return if isLink targetLink.node then .different else .done
        else return .same
    | _, _ => return .different
  return .same

/-- Compares a source with what is in the way. -/
def compareFiles (pair : Pair) (source target : Status) : Work Comparison := do
  let same := source.id == target.id
  let backedUp := settings.plan.manner != .none
  if same && settings.hardLinks then return .done
  let sameEntry : Work Bool := sameEntry settings pair.source pair.target
  if settings.following == .never && isLink source.node && isLink target.node then
    if ← sameEntry then return .same
    else if backedUp || !same then return .different
    else return if settings.moves then .same else .done
  if settings.following != .never && !same then return .different
  let links ← if settings.following == .never then pure (some (source, target)) else do
    match ← ask (.status pair.source false), ← ask (.status pair.target false) with
    | .ok a, .ok b => pure (some (a, b))
    | _, _ => pure none
  match links with
  | none => return .different
  | some (sourceLink, targetLink) =>
      if settings.following != .never && isLink sourceLink.node && isLink targetLink.node
          && settings.removesFirst then
        return .different
      if backedUp then
        if sourceLink.id == targetLink.id then
          return if ← sameEntry then .same else .different
        else if !settings.moves && settings.following != .never && isLink sourceLink.node
            && !isLink targetLink.node then
          return .same
        else return .different
      compareLast settings pair source sourceLink targetLink

/-- The target may be written. -/
def mayWrite (target : Bytes) (status : Status) : Work Bool := do
  if isLink status.node then return true
  match ← ask (.mayUse target Files.writeBit) with
  | .ok () => return true
  | .error _ => return false

/-- Asks whether the target may be replaced. -/
def confirmReplacement (target : Bytes) (status : Status) : Work Bool := do
  let shown := Quote.always target
  let mode := status.node.mode
  let question ← if ← mayWrite target status then pure (text "overwrite " ++ shown ++ text "? ")
    else if settings.moves || settings.removesFirst || settings.forces then
      pure (text "replace " ++ shown ++ text ", overriding mode " ++ Mode.octal mode ++ text " ("
        ++ Mode.shown mode ++ text ")? ")
    else
      pure (text "unwritable " ++ shown ++ text " (mode " ++ Mode.octal mode ++ text ", "
        ++ Mode.shown mode ++ text "); try anyway? ")
  liftM (Removal.confirm name question)

/-- The target is left alone. -/
def isSpared (sourceIsDirectory : Bool) (target : Bytes) (status : Status) : Work Bool := do
  match settings.replacing with
  | .refused | .skipped => return settings.moves || !sourceIsDirectory
  | .asked =>
      if settings.moves || !sourceIsDirectory then
        return !(← confirmReplacement name settings target status)
      else return false
  | .usual =>
      if !settings.moves then return false
      match ← ask (.kind Fd.stdin) with
      | .ok .terminal =>
          if ← mayWrite target status then return false
          else return !(← confirmReplacement name settings target status)
      | _ => return false
  | .always => return false

/-- What is done about what is in the way. -/
inductive Clearing where
  /-- It ends here. -/
  | ends (fine : Bool)
  /-- It goes on; the target is not there any more, or there is a backup of it. -/
  | goesOn (isGone : Bool) (backup : Option Bytes)
  deriving DecidableEq, Repr, Inhabited

/-- Makes a backup of the target, or removes it, if that is to be done. -/
def clearAway (pair : Pair) (source target : Status) : Work Clearing := do
  let lastSource := Path.entryName pair.source
  let isPoint := lastSource == Path.here || lastSource == Path.up
  let isDirectory := target.node.isDirectory
  if settings.plan.manner != .none && !isPoint && (settings.moves || !isDirectory) then
    let backup ← liftM (Backup.nameFor settings.plan pair.target)
    if settings.plan.manner != .numbered then
      if let .ok kept ← ask (.status backup false) then
        if kept.id == source.id then
          let verb := if settings.moves then "moved" else "copied"
          return ← refused name (.ends false)
            (text "backing up " ++ Quote.always pair.target
              ++ text " might destroy source;  " ++ Quote.always pair.source
              ++ text (" not " ++ verb))
    match ← ask (.rename pair.target backup) with
    | .ok () => return .goesOn true (some backup)
    | .error errno =>
        if errno == .noEntry then return .goesOn true none
        failed name (.ends false) (text "cannot backup " ++ Quote.always pair.target) errno
  else if !isDirectory && !settings.moves
      && (settings.removesFirst
        || (!settings.onlyAttributes
          && ((settings.keepsLinks && 1 < target.links)
            || (settings.following == .never && !source.node.isRegular)))) then
    match ← ask (.unlink pair.target) with
    | .ok () =>
        sayDone settings (text "removed " ++ Quote.always pair.target)
        return .goesOn true none
    | .error errno =>
        if errno == .noEntry then return .goesOn true none
        failed name (.ends false) (text "cannot remove " ++ Quote.always pair.target) errno
  else return .goesOn false none

/-- Finds out what is to be done about what is in the way. -/
def clear (isOperand : Bool) (pair : Pair) (source target : Status) : Work Clearing := do
  let shownTarget := Quote.always pair.target
  let shownSource := Quote.always pair.source
  let fromDirectory := source.node.isDirectory
  let toDirectory := target.node.isDirectory
  let never := settings.replacing == .refused || settings.replacing == .skipped
  match ← if never then pure .different else compareFiles settings pair source target with
  | .same =>
      refused name (.ends false)
        (shownSource ++ text " and " ++ shownTarget ++ text " are the same file")
  | .done => return .ends true
  | .different =>
      if settings.onlyOlder && !fromDirectory && source.node.changed ≤ target.node.changed then
        return .ends true
      if ← isSpared name settings fromDirectory pair.target target then
        if settings.replacing == .refused then
          liftM (complain name (text "not replacing " ++ shownTarget))
        return .ends (settings.replacing == .skipped)
      let mayDiffer := settings.moves && settings.plan.manner != .none
      if fromDirectory && !toDirectory && !mayDiffer then
        return ← refused name (.ends false)
          (text "cannot overwrite non-directory " ++ shownTarget ++ text " with directory "
            ++ shownSource)
      if !toDirectory && isOperand && settings.plan.manner != .numbered then
        let memory ← get
        if memory.compares && (← isRemembered settings memory.targets target.id pair.target) then
          return ← refused name (.ends false)
            (text "will not overwrite just-created " ++ shownTarget ++ text " with "
              ++ shownSource)
      if !fromDirectory && toDirectory && !mayDiffer then
        return ← refused name (.ends false)
          (text "cannot overwrite directory " ++ shownTarget ++ text " with non-directory")
      clearAway name settings pair source target

/-! ## Copying -/

/-- Makes a further name for the source, in place of the target if that may be. -/
def linkHard (replaces follow : Bool) (source target : Bytes) : Work Bool := do
  let attempt : Work (Except Errno Unit) := do
    if follow then
      match ← ask (.canonical source) with
      | .ok path => ask (.hardLink path target)
      | .error errno => return .error errno
    else ask (.hardLink source target)
  let complaint := text "cannot create hard link " ++ Quote.always target ++ text " to "
    ++ Quote.always source
  match ← attempt with
  | .ok () => return true
  | .error errno =>
      if !replaces || errno != .alreadyThere then failed name false complaint errno
      else
        let _ ← ask (.unlink target)
        match ← attempt with
        | .ok () => return true
        | .error errno => failed name false complaint errno

/-- Makes a symbolic link, in place of the target if that may be. -/
def linkSymbolic (replaces : Bool) (content target : Bytes) : Work (Except Errno Unit) := do
  match ← ask (.makeLink content target) with
  | .error errno =>
      if replaces && errno == .alreadyThere then
        let _ ← ask (.unlink target)
        ask (.makeLink content target)
      else return .error errno
  | reply => return reply

/-- How many bytes are copied at once. -/
def blockSize : Nat := 131072

/-- Copies what an open file holds to another one. -/
def copyBytes (pair : Pair) (input output : Fd) : Prog Bool :=
  Prog.iterate (fun () => do
    match ← Prog.call (.read input blockSize) with
    | .error errno =>
        complainOf name (text "error reading " ++ Quote.always pair.source) errno
        return .inr false
    | .ok [] => return .inr true
    | .ok bytes =>
        match ← Prog.write output bytes with
        | .ok () => return .inl ()
        | .error errno =>
            complainOf name (text "error writing " ++ Quote.always pair.target) errno
            return .inr false) ()

/-- The permission bits that a copy gets when it is made. -/
def freshBits (mask : Nat) (source : Status) : Nat :=
  Files.withhold (source.node.mode &&& 0o777) mask

/-- Opens the target of a copy, given whether it is new. It comes with whether it has been
made. -/
def openTarget (isNew : Bool) (pair : Pair) (source : Status) : Work (Option (Fd × Bool)) := do
  let complaint := text "cannot create regular file " ++ Quote.always pair.target
  let access : Access := { write := true, truncate := !settings.onlyAttributes }
  let existing ← if isNew then pure (.error .noEntry) else ask (.openPath pair.target access true)
  match existing with
  | .ok fd => return some (fd, false)
  | .error errno =>
      if errno != .noEntry then
        if !settings.forces then return ← failed name none complaint errno
        match ← ask (.unlink pair.target) with
        | .ok () => sayDone settings (text "removed " ++ Quote.always pair.target)
        | .error errno =>
            if errno != .noEntry then
              return ← failed name none (text "cannot remove " ++ Quote.always pair.target) errno
      let access : Access := { write := true, create := true, exclusive := true }
      match ← ask (.openPath pair.target access true) with
      | .ok fd =>
          let mask ← liftM Making.currentMask
          let _ ← ask (.setMode pair.target (freshBits mask source))
          return some (fd, true)
      | .error errno =>
          if errno == .alreadyThere then
            if let .ok status ← ask (.status pair.target false) then
              if isLink status.node then
                return ← refused name none
                  (text "not writing through dangling symlink " ++ Quote.always pair.target)
          let slashed := pair.target.getLast? == some Path.slash
          failed name none complaint
            (if errno == .isDirectory && slashed then .notDirectory else errno)

/-- Lets a copy have the time and the permissions of the source, as far as that is wanted. -/
def keepAttributes (isMade : Bool) (pair : Pair) (source : Status) : Work Bool := do
  if settings.keepsTime then
    let _ ← ask (.setTime pair.target true (some source.node.changed))
  let mode? ← if settings.keepsMode then pure (some (source.node.mode &&& Mode.all))
    else if settings.dropsMode && isMade then do
      let mask ← liftM Making.currentMask
      let usual := if source.node.isDirectory then Files.freshDirectoryMode else Files.freshMode
      pure (some (Files.withhold usual mask))
    else pure none
  match mode? with
  | none => return true
  | some mode =>
      match ← ask (.setMode pair.target mode) with
      | .ok () => return true
      | .error errno =>
          failed name false (text "preserving permissions for " ++ Quote.always pair.target) errno

/-- Copies a file. -/
def copyFile (isNew : Bool) (pair : Pair) (source : Status) : Work Bool := do
  match ← ask (.openPath pair.source { read := true } true) with
  | .error errno =>
      failed name false
        (text "cannot open " ++ Quote.always pair.source ++ text " for reading") errno
  | .ok input =>
      match ← openTarget name settings isNew pair source with
      | none =>
          let _ ← ask (.close input)
          return false
      | some (output, isMade) =>
          let copied ← if settings.onlyAttributes then pure true
            else liftM (copyBytes name pair input output)
          let _ ← ask (.close output)
          let _ ← ask (.close input)
          let kept ← keepAttributes name settings isMade pair source
          return copied && kept

/-- Copies what is neither directory nor symbolic link, or makes a link to it. -/
def copyPlain (isOperand isNew : Bool) (pair : Pair) (source : Status) : Work Bool := do
  let shownTarget := Quote.always pair.target
  let replaces := settings.forces || settings.replacing == .asked
  let follow := settings.following == .always
    || (settings.following == .operands && isOperand)
  if settings.symbolicLinks then
    if pair.source.head? != some Path.slash && pair.target.contains Path.slash
        && !(Path.here ++ [Path.slash]).isPrefixOf pair.target then
      return ← refused name false
        (Quote.named pair.target
          ++ text ": can make relative symbolic links only in current directory")
    match ← linkSymbolic settings.forces pair.source pair.target with
    | .ok () => return true
    | .error errno =>
        failed name false (text "cannot create symbolic link " ++ shownTarget ++ text " to "
          ++ Quote.always pair.source) errno
  else if settings.hardLinks then linkHard name replaces follow pair.source pair.target
  else match source.node.content with
    | .link content =>
        match ← linkSymbolic settings.forces content pair.target with
        | .error errno =>
            failed name false (text "cannot create symbolic link " ++ shownTarget) errno
        | .ok () =>
            if settings.keepsTime then
              let _ ← ask (.setTime pair.target false (some source.node.changed))
            return true
    | .regular _ => copyFile name settings isNew pair source
    | _ =>
        if settings.asRegular then copyFile name settings isNew pair source
        else failed name false (text "cannot create special file " ++ shownTarget) .notPermitted

/-- The path under which a copy of the same file is to be found, if its names are kept together;
otherwise the copy is remembered. -/
def earlierCopy? (isOperand : Bool) (pair : Pair) (source : Status) : Work (Option Bytes) := do
  let isDirectory := source.node.isDirectory
  let follows := settings.following == .always
    || (settings.following == .operands && isOperand)
  let matters :=
    if settings.recursive && isDirectory then true
    else settings.keepsLinks && !settings.hardLinks && (1 < source.links || follows)
  if !matters then return none
  let memory ← get
  match memory.copies.lookup source.id with
  | some path => return some path
  | none =>
      if isOperand || !isDirectory then
        set { memory with copies := (source.id, pair.target) :: memory.copies }
      return none

/-- The names in a directory in the order in which the files were made. -/
def namesByAge (path : Bytes) : Work (Except Errno (List Bytes)) := do
  match ← ask (.names path) with
  | .error errno => return .error errno
  | .ok names =>
      let aged ← names.mapM fun entry => do
        match ← ask (.status (Path.join path entry) false) with
        | .ok status => return (status.id, entry)
        | .error _ => return (0, entry)
      return .ok ((aged.mergeSort fun a b => a.1 ≤ b.1).map Prod.snd)

/-- The directory that is being copied, with its copy. -/
structure Descent where
  /-- The operand and its copy. -/
  top : Pair
  /-- The directories on the way from the operand. -/
  ancestors : List NodeId := []
  /-- The first directory has been made. -/
  hasMade : Bool := false
  deriving Repr, Inhabited

/-- Copies, one after the other, the entries of a directory. It comes with whether a directory has
been copied into itself. -/
def copyEntries (copy : Pair → Work Outcome) (pair : Pair) : (fine : Bool) → List Bytes →
    Work Outcome
  | fine, [] => return ⟨fine, false⟩
  | fine, entry :: rest => do
      let outcome ← copy ⟨Path.join pair.source entry, Path.join pair.target entry⟩
      if outcome.intoSelf then return ⟨false, true⟩
      copyEntries copy pair (fine && outcome.fine) rest

/-- Lets the target directory be there. It comes with the permission bits it is to have in the end,
if it has been made. -/
def makeTarget (isNew : Bool) (pair : Pair) (source : Status) (descent : Descent) :
    Work (Option (Option Nat × Descent)) := do
  if !isNew then return some (none, descent)
  match ← ask (.makeDirectory pair.target (source.node.mode &&& Mode.all)) with
  | .error errno =>
      failed name none (text "cannot create directory " ++ Quote.always pair.target) errno
  | .ok () =>
      match ← ask (.status pair.target false) with
      | .error errno => failed name none (text "cannot stat " ++ Quote.always pair.target) errno
      | .ok made =>
          let mode := made.node.mode
          if mode &&& 0o700 ≠ 0o700 then
            let _ ← ask (.setMode pair.target (mode ||| 0o700))
          if !descent.hasMade then
            modify fun memory =>
              { memory with copies := (made.id, pair.target) :: memory.copies }
          sayCopied settings "" pair none
          return some (some mode, { descent with hasMade := true })

/-- Says why a directory that has been met before is not copied. -/
def refuseDirectory (isOperand : Bool) (pair : Pair) (descent : Descent) (earlier : Bytes) :
    Work (Option Outcome) := do
  let top := descent.top
  if ← sameEntry settings pair.source earlier then
    return some (← refused name ⟨false, true⟩
      (text "cannot copy a directory, " ++ Quote.always top.source ++ text ", into itself, "
        ++ Quote.always top.target))
  else if ← sameEntry settings pair.target earlier then
    return some (← refused name ⟨true, false⟩
      (text "warning: source directory " ++ Quote.always top.source
        ++ text " specified more than once"))
  else if settings.following == .always || (isOperand && settings.following == .operands) then
    return none
  else
    return some (← refused name ⟨false, false⟩
      (text "will not create hard link " ++ Quote.always pair.target ++ text " to directory "
        ++ Quote.always earlier))

/-- Undoes a backup when no copy has been made. -/
def putBack (pair : Pair) (backup : Option Bytes) : Work Unit := do
  match backup with
  | none => return ()
  | some backup =>
      match ← ask (.rename backup pair.target) with
      | .ok () =>
          sayDone settings (Quote.always backup ++ text " -> " ++ Quote.always pair.target
            ++ text " (unbackup)")
      | .error errno =>
          failed name () (text "cannot un-backup " ++ Quote.always pair.target) errno

/-- Finds what a path leads to that is to be copied. -/
def sourceStatus (isOperand : Bool) (path : Bytes) : Work (Option Status) := do
  let follow := settings.following == .always
    || (settings.following == .operands && isOperand)
  match ← ask (.status path follow) with
  | .error errno => failed name none (text "cannot stat " ++ Quote.always path) errno
  | .ok status =>
      if status.node.isDirectory && !settings.recursive then
        refused name none (text "-r not specified; omitting directory " ++ Quote.always path)
      else return some status

/-- Finds what is in the way of a copy, if something is. -/
def targetStatus (source : Status) (path : Bytes) : Work (Option (Option Status)) := do
  let ownLink := (!source.node.isRegular && (!settings.asRegular || source.node.isDirectory
      || isLink source.node))
    || settings.moves || settings.symbolicLinks || settings.hardLinks
    || settings.plan.manner != .none || settings.removesFirst
  match ← ask (.status (placeOf settings path) (!ownLink)) with
  | .ok status => return some (some status)
  | .error errno =>
      if errno == .noEntry then return some none
      failed name none (text "cannot stat " ++ Quote.always path) errno

/-- Remembers a node that has been made for an operand. -/
def rememberTarget (path : Bytes) : Work Unit := do
  if (← get).compares then
    if let .ok status ← ask (.status path false) then
      modify fun memory => { memory with targets := (status.id, path) :: memory.targets }

/-- The source was an operand before; from now on it is known. -/
def isRepeated (pair : Pair) (source : Status) : Work Bool := do
  let memory ← get
  if !memory.compares then return false
  if !source.node.isDirectory && settings.plan.manner == .none
      && (← isRemembered settings memory.sources source.id pair.source) then
    return ← refused name true (text "warning: source file " ++ Quote.always pair.source
      ++ text " specified more than once")
  set { memory with sources := (source.id, pair.source) :: memory.sources }
  return false

/-- The copy would go through a symbolic link that has been made for an operand. -/
def leadsThroughFresh (pair : Pair) : Work Bool := do
  let memory ← get
  if !memory.compares || settings.plan.manner != .none then return false
  match ← ask (.status pair.target false) with
  | .ok status =>
      if isLink status.node && (← isRemembered settings memory.targets status.id pair.target) then
        refused name true (text "will not copy " ++ Quote.always pair.source
          ++ text " through just-created symlink " ++ Quote.always pair.target)
      else return false
  | .error _ => return false

/-- Copies what a path leads to, and what is in it, down to a depth. -/
def copy (settings : Settings) :
    (depth : Nat) → (isOperand : Bool) → Descent → Pair → Work Outcome
  | 0, _, _, pair =>
      failed name ⟨false, false⟩ (text "cannot stat " ++ Quote.always pair.source) .nameTooLong
  | depth + 1, isOperand, descent, pair => do
      let some source ← sourceStatus name settings isOperand pair.source
        | return ⟨false, false⟩
      if isOperand then
        if ← isRepeated name settings pair source then return ⟨true, false⟩
      let some way ← targetStatus name settings source pair.target | return ⟨false, false⟩
      match ← match way with
        | none => pure (.goesOn true none)
        | some target => clear name settings isOperand pair source target with
      | .ends fine => return ⟨fine, false⟩
      | .goesOn isNew backup =>
          if isOperand then
            if ← leadsThroughFresh name settings pair then return ⟨false, false⟩
          let isDirectory := source.node.isDirectory
          if !isDirectory then sayCopied settings "" pair backup
          let stopped ← match ← earlierCopy? settings isOperand pair source with
            | none => pure none
            | some earlier =>
                if isDirectory then refuseDirectory name settings isOperand pair descent earlier
                else do
                  let fine ← linkHard name true false earlier pair.target
                  pure (some ⟨fine, false⟩)
          match stopped with
          | some outcome =>
              if !outcome.fine then putBack name settings pair backup
              return outcome
          | none =>
              if !isDirectory then
                let fine ← copyPlain name settings isOperand isNew pair source
                if !fine then putBack name settings pair backup
                if isOperand then rememberTarget pair.target
                return ⟨fine, false⟩
              else if descent.ancestors.contains source.id then
                refused name ⟨false, false⟩
                  (text "cannot copy cyclic symbolic link " ++ Quote.always pair.source)
              else
                let some (mode?, below) ← makeTarget name settings isNew pair source descent
                  | return ⟨false, false⟩
                let below := { below with ancestors := source.id :: below.ancestors }
                let inner := if settings.following == .operands then
                  { settings with following := .never } else settings
                let outcome ← match ← namesByAge pair.source with
                  | .error errno =>
                      failed name ⟨false, false⟩
                        (text "cannot access " ++ Quote.always pair.source) errno
                  | .ok names =>
                      copyEntries (copy inner depth false below) pair true names
                if isOperand then rememberTarget pair.target
                if let some mode := mode? then
                  if mode &&& 0o700 ≠ 0o700 then
                    let _ ← ask (.setMode pair.target mode)
                let kept ← keepAttributes name settings mode?.isSome pair source
                return { outcome with fine := outcome.fine && kept }

/-! ## Moving -/

/-- Gives the source another name under which nothing is known yet. -/
def renameAfresh (pair : Pair) : Work (Except Errno Unit) := do
  match ← ask (.status pair.source false) with
  | .error errno => return .error errno
  | .ok _ =>
      let place := placeOf settings pair.target
      match ← ask (.status place false) with
      | .ok _ => return .error .alreadyThere
      | .error _ => ask (.rename pair.source place)

/-- Says why something cannot be moved. -/
def refuseMove (pair : Pair) (errno : Errno) : Work Bool := do
  let shownTarget := Quote.always pair.target
  let shownSource := Quote.always pair.source
  if errno == .invalid then
    refused name false (text "cannot move " ++ shownSource ++ text " to a subdirectory of itself, "
      ++ shownTarget)
  else if [Errno.alreadyThere, .isDirectory, .noSpace, .notEmpty, .textBusy].contains errno then
    failed name false (text "cannot overwrite " ++ shownTarget) errno
  else failed name false (text "cannot move " ++ shownSource ++ text " to " ++ shownTarget) errno

/-- Notes that something has been moved. -/
def finishMove (isLast : Bool) (pair : Pair) (backup : Option Bytes) : Work Bool := do
  sayCopied settings "renamed " pair backup
  if !isLast then rememberTarget pair.target
  return true

/-- Moves what a path leads to, given how renaming it has gone. -/
def move (isLast : Bool) (pair : Pair) (renamed : Except Errno Unit) : Work Bool := do
  match renamed with
  | .ok () => finishMove settings isLast pair none
  | .error errno =>
      if errno == .alreadyThere && settings.replacing == .refused then
        return ← refused name false (text "not replacing " ++ Quote.always pair.target)
      if errno == .alreadyThere && settings.replacing == .skipped then return true
      let some source ← sourceStatus name settings true pair.source | return false
      let some way ← targetStatus name settings source pair.target | return false
      match way with
      | none => refuseMove name pair errno
      | some target =>
          match ← clear name settings true pair source target with
          | .ends fine => return fine
          | .goesOn _ backup =>
              match ← ask (.rename pair.source (placeOf settings pair.target)) with
              | .ok () => finishMove settings isLast pair backup
              | .error errno =>
                  let fine ← refuseMove name pair errno
                  putBack name settings pair backup
                  return fine

end Transfer

/-! ## Operands -/

/-- How deep directories are copied. -/
def depth : Nat := 4096

/-- What operands ask for. -/
inductive Request where
  /-- All of them go into a directory. -/
  | into (directory : Bytes) (sources : List Bytes)
  /-- One goes to a path. -/
  | to (pair : Pair)
  deriving Repr, Inhabited

/-- Which directory is meant for everything. -/
structure Goal where
  /-- The directory that an option names. -/
  directory : Option Bytes := none
  /-- The last operand is no directory for the others. -/
  isPlain : Bool := false
  /-- Slashes at the ends of what goes into a directory do not count. -/
  stripsSlashes : Bool := false
  deriving Repr, Inhabited

/-- What operands ask for, or the exit code after a complaint. -/
def requestOf (name : Bytes) (goal : Goal) (operands : List Bytes) :
    Prog (Except Int Request) := do
  let strip (path : Bytes) : Bytes := if goal.stripsSlashes then Path.bare path else path
  let stop (complaint : Complaint) : Prog (Except Int Request) := do
    return .error (← report name 1 complaint)
  match goal.directory, operands with
  | _, [] => stop (.usage (text "missing file operand"))
  | none, [source] =>
      stop (.usage (text "missing destination file operand after " ++ Quote.always source))
  | some directory, sources =>
      if goal.isPlain then
        stop ⟨text "cannot combine --target-directory (-t) and --no-target-directory (-T)",
          false, none⟩
      else match ← Linking.leadsToDirectory directory true with
        | .ok () => return .ok (.into directory (sources.map strip))
        | .error errno =>
            let message := text "target directory " ++ Quote.always directory
            stop { message := message ++ text ": " ++ reason errno }
  | none, source :: target :: rest =>
      if goal.isPlain then
        match rest with
        | [] => return .ok (.to ⟨source, target⟩)
        | extra :: _ => stop (.usage (text "extra operand " ++ Quote.always extra))
      else
        let last := operands.getLast?.getD []
        match ← Linking.leadsToDirectory last true with
        | .ok () => return .ok (.into last (operands.dropLast.map strip))
        | .error errno =>
            if rest.isEmpty then return .ok (.to ⟨source, target⟩)
            else
              stop { message := text "target " ++ Quote.always last ++ text ": " ++ reason errno }

/-! ## Options that both ways share -/

/-- The words for what is replaced. -/
def updates : List (String × (Replacing × Bool)) :=
  [("all", (.usual, false)), ("none", (.skipped, false)), ("older", (.usual, true))]

/-- Settings with what an option says that asks for what is older only. -/
def Settings.update (settings : Settings) (value : Option Bytes) : Except Complaint Settings := do
  match value with
  | none => return { settings with onlyOlder := true }
  | some word =>
      let (replacing, onlyOlder) ← choice "--update" updates word
      if settings.replacing == .refused then return settings
      return { settings with replacing := replacing, onlyOlder := onlyOlder }

/-- Options as far as they have been read. -/
structure Options where
  /-- In which way something is copied or moved. -/
  settings : Settings := {}
  /-- Where it goes. -/
  goal : Goal := {}
  /-- Directories on the way to the source are made in the target too. -/
  parents : Bool := false
  /-- A warning is due. -/
  warns : Bool := false
  deriving Repr, Inhabited

/-- The effect of an option that does not matter for copying alone. -/
def sharedEffect : OptionEffect Options := fun options key value => do
  let settings := options.settings
  let goal := options.goal
  match key with
  | "t" =>
      if goal.directory.isSome then refuse (text "multiple target directories specified")
      return { options with goal := { goal with directory := value } }
  | "T" => return { options with goal := { goal with isPlain := true } }
  | "strip" => return { options with goal := { goal with stripsSlashes := true } }
  | "u" => return { options with settings := ← settings.update value }
  | "v" | "debug" => return { options with settings := { settings with verbose := true } }
  | key =>
      match settings.backup.with? key value with
      | some wish => return { options with settings := { settings with backup := wish } }
      | none => return options

end LineShell.Utility.Transfer
