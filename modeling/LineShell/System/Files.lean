import LineShell.System.Errno
import LineShell.System.Path

/-!
# The file store

Files, directories, symbolic links and a few devices. A file is a node, known by its number; a
directory maps names to nodes. A node stays in the store when its last name goes, because a
process may still hold it.

- **`resolve`** follows a path, symbolic links included, up to forty of them.
- **`openPath`** opens a path, and makes or empties the file when it is asked to.
- **`rename`** gives a node another name, and **`hardLink`** a further one.
- **`pathOf`** and **`canonical`** name a node by its only path without links.
- **`listing`** lists what lies below a directory.
-/

namespace LineShell

/-- The number of a node. -/
abbrev NodeId := Nat

/-- The devices that programs meet. -/
inductive Device where
  /-- Takes everything and holds nothing. -/
  | null
  /-- Takes everything and holds NULs without end. -/
  | zero
  /-- Takes nothing and holds NULs without end. -/
  | full
  /-- A terminal. -/
  | terminal
  deriving DecidableEq, Repr, Inhabited

/-- What a node is. -/
inductive Content where
  /-- A file that holds bytes. -/
  | regular (bytes : Bytes)
  /-- A directory: the node of its parent, and its entries in the order they were made. -/
  | directory (parent : NodeId) (entries : List (Bytes × NodeId))
  /-- A symbolic link. -/
  | link (target : Bytes)
  /-- A device. -/
  | device (kind : Device)
  /-- A pipe, which has no name of its own. -/
  | pipe
  deriving DecidableEq, Repr, Inhabited

/-- A node: what it is, and who may do what with it. -/
structure Node where
  /-- What it is. -/
  content : Content
  /-- The permission bits. -/
  mode : Nat
  /-- It belongs to the user whose processes run. -/
  owned : Bool := true
  /-- When it was last changed, in milliseconds. -/
  changed : Nat := 0
  deriving DecidableEq, Repr, Inhabited

namespace Node

/-- The bytes of a regular file. -/
def bytes? (node : Node) : Option Bytes :=
  match node.content with
  | .regular bytes => some bytes
  | _ => none

/-- The node is a directory. -/
def isDirectory (node : Node) : Bool :=
  match node.content with
  | .directory .. => true
  | _ => false

/-- The node is a regular file. -/
def isRegular (node : Node) : Bool := node.bytes?.isSome

/-- The size that the system reports for a node. -/
def size (node : Node) : Nat :=
  match node.content with
  | .regular bytes => bytes.length
  | .directory .. => 4096
  | .link target => target.length
  | .device _ | .pipe => 0

/-- Some permission bit allows the node to be run. -/
def runnable (node : Node) : Bool := node.mode &&& 0o111 != 0

end Node

/-- How a file is to be opened. -/
structure Access where
  /-- It will be read. -/
  read : Bool := false
  /-- It will be written. -/
  write : Bool := false
  /-- Every write goes to the end. -/
  append : Bool := false
  /-- It is made when it is missing. -/
  create : Bool := false
  /-- It loses what it holds. -/
  truncate : Bool := false
  /-- It must not be there before. -/
  exclusive : Bool := false
  deriving DecidableEq, Repr, Inhabited

/-- Where a path leads: the directory and the name of its last step, and the node found there. -/
structure Place where
  /-- The directory of the last step. -/
  directory : NodeId
  /-- The name of the last step. -/
  name : Bytes
  /-- The node with that name, if there is one. -/
  node? : Option NodeId
  deriving DecidableEq, Repr, Inhabited

/-- Nodes by number, the root being the first, and whether permission bits bind. -/
structure Files where
  /-- The nodes. -/
  nodes : List Node
  /-- The directories in which no names can be made. -/
  fixed : List NodeId := []
  /-- Permission bits bind; for a superuser they do not. -/
  guarded : Bool := false
  /-- The present time, in milliseconds. -/
  time : Nat := 0
  deriving DecidableEq, Repr, Inhabited

namespace Files

/-! ## Nodes -/

/-- The root directory. -/
def root : NodeId := 0

/-- The permission bits that programs ask for when a file is opened into being. -/
def freshMode : Nat := 0o666

/-- The permission bits that programs ask for when a directory is made. -/
def freshDirectoryMode : Nat := 0o777

/-- The permission bits that are withheld from everything new if nothing else is said. -/
def usualMask : Nat := 0o022

/-- What is left of permission bits when some are withheld. -/
def withhold (mode mask : Nat) : Nat := mode &&& (0o7777 ^^^ (mask &&& 0o777))

/-- The permission to read. -/
def readBit : Nat := 0o400

/-- The permission to write. -/
def writeBit : Nat := 0o200

/-- The permission to search a directory. -/
def searchBit : Nat := 0o100

/-- The store with a root directory only. -/
def empty : Files :=
  { nodes := [{ content := .directory root [], mode := withhold freshDirectoryMode usualMask }] }

/-- A permission, given by its bit for the owner, is granted. -/
def permits (files : Files) (node : Node) (bit : Nat) : Bool :=
  !files.guarded || node.mode &&& (if node.owned then bit else bit >>> 6) != 0

/-- The user may change what belongs to the owner of a node alone. -/
def commands (files : Files) (node : Node) : Bool := !files.guarded || node.owned

/-- The bit that keeps the entries of a directory from all but their owners. -/
def stickyBit : Nat := 0o1000

/-- The user may take the entry of a node out of a directory. -/
def mayRemove (files : Files) (directory node : Node) : Bool :=
  directory.mode &&& stickyBit == 0 || files.commands directory || files.commands node

/-- The node with a number. -/
def node? (files : Files) (id : NodeId) : Option Node := files.nodes[id]?

/-- The store with a node replaced. -/
def put (files : Files) (id : NodeId) (node : Node) : Files :=
  { files with nodes := files.nodes.set id node }

/-- The store with a node added under a fresh number. -/
def add (files : Files) (node : Node) : NodeId × Files :=
  (files.nodes.length, { files with nodes := files.nodes ++ [node] })

/-- The bytes of a regular file; nothing else holds any. -/
def bytesAt (files : Files) (id : NodeId) : Bytes := ((files.node? id).bind Node.bytes?).getD []

/-- The store after bytes have been put into a regular file. -/
def setBytes (files : Files) (id : NodeId) (bytes : Bytes) : Files :=
  match files.node? id with
  | some node =>
      if node.isRegular then
        files.put id { node with content := .regular bytes, changed := files.time }
      else files
  | none => files

/-- The entries of a directory. -/
def entriesOf (files : Files) (id : NodeId) : List (Bytes × NodeId) :=
  match (files.node? id).map Node.content with
  | some (.directory _ entries) => entries
  | _ => []

/-- The parent of a directory. -/
def parentOf (files : Files) (id : NodeId) : NodeId :=
  match (files.node? id).map Node.content with
  | some (.directory parent _) => parent
  | _ => root

/-- The store after the entries of a directory have changed. -/
def setEntries (files : Files) (id : NodeId) (entries : List (Bytes × NodeId)) : Files :=
  match files.node? id with
  | some node =>
      if node.isDirectory then
        files.put id { node with
          content := .directory (files.parentOf id) entries
          changed := files.time }
      else files
  | none => files

/-- The store after a directory has got another parent. -/
def setParent (files : Files) (id parent : NodeId) : Files :=
  match files.node? id with
  | some node =>
      if node.isDirectory then
        files.put id { node with content := .directory parent (files.entriesOf id) }
      else files
  | none => files

/-- How many names a node has. -/
def linkCount (files : Files) (id : NodeId) : Nat :=
  files.nodes.foldl (fun count node =>
    match node.content with
    | .directory _ entries => count + (entries.filter fun entry => entry.2 == id).length
    | _ => count) 0

/-- The name under which a directory lists a node. -/
def nameIn? (files : Files) (directory id : NodeId) : Option Bytes :=
  ((files.entriesOf directory).find? fun entry => entry.2 == id).map (·.1)

/-- A directory that still has a name, or is the root. -/
def isLive (files : Files) (id : NodeId) : Bool :=
  id == root || (files.nameIn? (files.parentOf id) id).isSome

/-! ## Paths -/

/-- How many symbolic links one path may lead through. -/
def linkBudget : Nat := 40

/-- Follows names from a directory. A symbolic link in the last place is followed when `follow`
holds. When a file is to be made, a slash behind the last name is refused. -/
def resolve (files : Files) (creating follow : Bool) (budget : Nat) (here : NodeId)
    (names : List Bytes) : Except Errno Place :=
  match names with
  | [] => .ok ⟨here, Path.here, some here⟩
  | name :: rest =>
      match files.node? here with
      | none => .error .notDirectory
      | some directory =>
          let parent := files.parentOf here
          let entries := files.entriesOf here
          if !directory.isDirectory then .error .notDirectory
          else if !files.permits directory searchBit then .error .accessDenied
          else if Path.longestName < name.length then .error .nameTooLong
          else if name == [] || name == Path.here then
            if rest.isEmpty then .ok ⟨here, Path.here, some here⟩
            else resolve files creating follow budget here rest
          else if name == Path.up then
            if rest.isEmpty then .ok ⟨parent, Path.up, some parent⟩
            else resolve files creating follow budget parent rest
          -- a file that is to be made cannot have a slash behind its name
          else if creating && rest == [[]] then .error .isDirectory
          else match entries.lookup name with
            | none => if rest.isEmpty then .ok ⟨here, name, none⟩ else .error .noEntry
            | some id =>
                match (files.node? id).map Node.content with
                | some (.link target) =>
                    if rest.isEmpty && !follow then .ok ⟨here, name, some id⟩
                    else if target.isEmpty then .error .noEntry
                    else match budget with
                      | 0 => .error .linkLoop
                      | budget + 1 =>
                          -- the names of the link come in place of its own
                          let path := Path.parse target
                          resolve files creating follow budget
                            (if path.absolute then root else here) (path.names ++ rest)
                | _ =>
                    if rest.isEmpty then .ok ⟨here, name, some id⟩
                    else resolve files creating follow budget id rest
termination_by (budget, names.length)

/-- Follows a path from a directory. -/
def locate (files : Files) (here : NodeId) (path : Bytes) (follow : Bool := true)
    (creating : Bool := false) : Except Errno Place :=
  if path.isEmpty then .error .noEntry
  else if Path.longest < path.length then .error .nameTooLong
  else
    let parsed := Path.parse path
    files.resolve creating follow linkBudget (if parsed.absolute then root else here) parsed.names

/-- The node that a path leads to. -/
def find (files : Files) (here : NodeId) (path : Bytes) (follow : Bool := true) :
    Except Errno NodeId := do
  match (← files.locate here path follow).node? with
  | some id => pure id
  | none => throw .noEntry

/-- The directory that a path leads to, when it may be searched. -/
def findDirectory (files : Files) (here : NodeId) (path : Bytes) : Except Errno NodeId := do
  let id ← files.find here path
  match files.node? id with
  | some node =>
      if !node.isDirectory then throw .notDirectory
      else if !files.permits node searchBit then throw .accessDenied
      else pure id
  | none => throw .noEntry

/-- The names on the way from the root to a directory, looking at so many steps at most. -/
def trail? (files : Files) : (steps : Nat) → NodeId → Option (List Bytes)
  | 0, id => if id == root then some [] else none
  | steps + 1, id => do
      if id == root then return []
      let parent := files.parentOf id
      let name ← files.nameIn? parent id
      return (← files.trail? steps parent) ++ [name]

/-- The path of a directory, unless it has been removed. -/
def pathOf (files : Files) (directory : NodeId) : Except Errno Bytes :=
  match files.trail? files.nodes.length directory with
  | some names => .ok (Path.absoluteOf names)
  | none => .error .noEntry

/-- The path without links that leads to where a path leads. -/
def canonical (files : Files) (here : NodeId) (path : Bytes) : Except Errno Bytes := do
  if path.isEmpty then throw .noEntry
  let parsed := Path.parse path
  let place ←
    files.resolve false true linkBudget (if parsed.absolute then root else here) parsed.names
  match place.node? with
  | none => throw .noEntry
  | some id =>
      if (files.node? id).any Node.isDirectory then files.pathOf id
      else return Path.join (← files.pathOf place.directory) place.name

/-! ## Changes -/

/-- Enters a node in a directory under a free name. -/
def enterNode (files : Files) (place : Place) (id : NodeId) : Files :=
  files.setEntries place.directory (files.entriesOf place.directory ++ [(place.name, id)])

/-- Nothing stands in the way of a new name in a directory. -/
def checkEntry (files : Files) (place : Place) : Except Errno Unit :=
  match files.node? place.directory with
  | none => .error .noEntry
  | some directory =>
      if !files.isLive place.directory || files.fixed.contains place.directory then
        .error .noEntry
      else if !files.permits directory writeBit || !files.permits directory searchBit then
        .error .accessDenied
      else .ok ()

/-- Enters a new node in a directory under a free name. -/
def enter (files : Files) (place : Place) (node : Node) : Except Errno (NodeId × Files) := do
  files.checkEntry place
  let (id, grown) := files.add { node with changed := files.time }
  return (id, grown.enterNode place id)

/-- The node that a path is opened as, and the store afterwards. The permission bits of the mask
are withheld from a new file. -/
def openPath (files : Files) (here : NodeId) (path : Bytes) (access : Access) (mask : Nat) :
    Except Errno (NodeId × Files) := do
  let place ← files.locate here path (!access.exclusive) access.create
  match place.node? with
  | none =>
      if access.create then
        files.enter place { content := .regular [], mode := withhold freshMode mask }
      else throw .noEntry
  | some id =>
      match files.node? id with
      | none => throw .noEntry
      | some node =>
          if access.create && access.exclusive then throw .alreadyThere
          else if node.isDirectory && (access.create || access.write) then throw .isDirectory
          else if access.read && !files.permits node readBit then throw .accessDenied
          else if access.write && !files.permits node writeBit then throw .accessDenied
          else return (id, if access.truncate then files.setBytes id [] else files)

/-- Makes a directory, from which the permission bits of the mask are withheld. -/
def makeDirectory (files : Files) (here : NodeId) (path : Bytes) (mode mask : Nat) :
    Except Errno Files := do
  let place ← files.locate here (Path.bare path) false
  match place.node? with
  | some _ => throw .alreadyThere
  | none =>
      let (_, grown) ← files.enter place
        { content := .directory place.directory [], mode := withhold mode mask }
      return grown

/-- The place of a name that is still to be made for something that is no directory. -/
def freePlace (files : Files) (here : NodeId) (path : Bytes) : Except Errno Place := do
  let place ← files.locate here (Path.bare path) false
  if place.node?.isSome then throw .alreadyThere
  else if path.getLast? == some Path.slash then throw .noEntry
  else return place

/-- Makes a symbolic link. -/
def makeLink (files : Files) (here : NodeId) (path target : Bytes) : Except Errno Files := do
  if target.isEmpty then throw .noEntry
  else if Path.longest < target.length then throw .nameTooLong
  let place ← files.freePlace here path
  let (_, grown) ← files.enter place { content := .link target, mode := 0o777 }
  return grown

/-- Gives a node, but no directory, a further name. -/
def hardLink (files : Files) (here : NodeId) (source path : Bytes) : Except Errno Files := do
  let found ← files.find here source false
  let place ← files.freePlace here path
  match files.node? found with
  | none => throw .noEntry
  | some node =>
      if node.isDirectory then throw .notPermitted
      files.checkEntry place
      return files.enterNode place found

/-- The store in which a directory lacks a name. -/
def dropName (files : Files) (place : Place) : Files :=
  files.setEntries place.directory
    ((files.entriesOf place.directory).filter fun entry => entry.1 != place.name)

/-- Nothing stands in the way of taking the name of a node out of a directory. -/
def checkRemoval (files : Files) (place : Place) (id : NodeId) : Except Errno Unit :=
  match files.node? place.directory, files.node? id with
  | some directory, some node =>
      if !files.permits directory writeBit || !files.permits directory searchBit then
        .error .accessDenied
      else if !files.mayRemove directory node then .error .notPermitted
      else .ok ()
  | _, _ => .error .noEntry

/-- Removes the name of anything but a directory. -/
def unlink (files : Files) (here : NodeId) (path : Bytes) : Except Errno Files := do
  let place ← files.locate here path false
  match place.node? with
  | none => throw .noEntry
  | some id =>
      if place.name == Path.here || place.name == Path.up then throw .isDirectory
      files.checkRemoval place id
      if (files.node? id).any Node.isDirectory then throw .isDirectory
      else return files.dropName place

/-- Removes an empty directory. -/
def removeDirectory (files : Files) (here : NodeId) (path : Bytes) : Except Errno Files := do
  let place ← files.locate here (Path.bare path) false
  match place.node? with
  | none => throw .noEntry
  | some id =>
      if id == root then throw .busy
      else if place.name == Path.here then throw .invalid
      else if place.name == Path.up then throw .notEmpty
      files.checkRemoval place id
      if !(files.node? id).any Node.isDirectory then throw .notDirectory
      else if !(files.entriesOf id).isEmpty then throw .notEmpty
      else return files.dropName place

/-- A directory is another one or lies in it, as far as so many steps upwards tell. -/
def liesIn (files : Files) (outer : NodeId) : (steps : Nat) → NodeId → Bool
  | 0, id => id == outer
  | steps + 1, id =>
      id == outer || (id != root && files.liesIn outer steps (files.parentOf id))

/-- What keeps a node from taking over the name of another one. -/
def checkReplacement (files : Files) (node : Node) (place : Place) : Except Errno Unit :=
  match place.node? with
  | none => files.checkEntry place
  | some old => do
      files.checkRemoval place old
      let oldIsDirectory := (files.node? old).any Node.isDirectory
      if node.isDirectory && !oldIsDirectory then throw .notDirectory
      else if !node.isDirectory && oldIsDirectory then throw .isDirectory
      else if oldIsDirectory && !(files.entriesOf old).isEmpty then throw .notEmpty

/-- Lets a node have another name, which is taken from the node that has it. -/
def rename (files : Files) (here : NodeId) (source path : Bytes) : Except Errno Files := do
  let place ← files.locate here (Path.bare source) false
  let goal ← files.locate here (Path.bare path) false
  match place.node? with
  | none => throw .noEntry
  | some id =>
      let isPoint (name : Bytes) : Bool := name == Path.here || name == Path.up
      if isPoint place.name || isPoint goal.name then throw .busy
      match files.node? id with
      | none => throw .noEntry
      | some node =>
          let closed := source.getLast? == some Path.slash || path.getLast? == some Path.slash
          if closed && !node.isDirectory then throw .notDirectory
          else if goal.node? == some id then return files
          else if node.isDirectory && files.liesIn id files.nodes.length goal.directory then
            throw .invalid
          files.checkRemoval place id
          files.checkReplacement node goal
          if node.isDirectory && place.directory != goal.directory
              && !files.permits node writeBit then
            throw .accessDenied
          let moved := ((files.dropName place).dropName goal).enterNode goal id
          return if node.isDirectory then moved.setParent id goal.directory else moved

/-- Gives a node other permission bits. -/
def setMode (files : Files) (here : NodeId) (path : Bytes) (mode : Nat) :
    Except Errno Files := do
  let id ← files.find here path
  match files.node? id with
  | none => throw .noEntry
  | some node =>
      if !files.commands node then throw .notPermitted
      else return files.put id { node with mode := mode }

/-- Lets a node count as changed at a time. -/
def setTime (files : Files) (here : NodeId) (path : Bytes) (follow : Bool) (time : Nat) :
    Except Errno Files := do
  let id ← files.find here path follow
  match files.node? id with
  | none => throw .noEntry
  | some node =>
      if !files.commands node && !files.permits node writeBit then throw .accessDenied
      else return files.put id { node with changed := time }

/-- The bytes of a file after some have been written at a position; a gap is filled with NULs. -/
def overwrite (bytes : Bytes) (position : Nat) (written : Bytes) : Bytes :=
  bytes.take position ++ List.replicate (position - bytes.length) 0 ++ written
    ++ bytes.drop (position + written.length)

/-! ## Planting and listing -/

/-- Something to be put into a store under a path. -/
inductive Seed where
  /-- A file with its bytes and permission bits. -/
  | file (path : Bytes) (bytes : Bytes) (mode : Nat)
  /-- A directory. -/
  | directory (path : Bytes)
  /-- A symbolic link. -/
  | link (path target : Bytes)
  deriving DecidableEq, Repr, Inhabited

/-- The path of a seed. -/
def Seed.path : Seed → Bytes
  | .file path .. | .directory path | .link path _ => path

/-- The store after a request; a refused request changes nothing. -/
def orKeep (files : Files) : Except Errno Files → Files
  | .ok changed => changed
  | .error _ => files

/-- Makes every directory on the way to a path, and the path itself. -/
def makeDirectories (files : Files) (here : NodeId) (path : Bytes) : Files :=
  let parsed := Path.parse path
  let start := if parsed.absolute then [Path.slash] else []
  (parsed.names.foldl (fun (state : Bytes × Files) name =>
    let reached := state.1 ++ name
    (reached ++ [Path.slash], state.2.orKeep
      (state.2.makeDirectory here reached freshDirectoryMode usualMask)))
    (start, files)).2

/-- The path without its last name. -/
def directoryPart (path : Bytes) : Bytes :=
  (path.reverse.dropWhile (· != Path.slash)).reverse

/-- Puts something into the store below a directory, making the directories on the way. -/
def plant (files : Files) (here : NodeId) (seed : Seed) : Files :=
  let ready := files.makeDirectories here (directoryPart seed.path)
  match seed with
  | .directory path => files.makeDirectories here path
  | .link path target => ready.orKeep (ready.makeLink here path target)
  | .file path bytes mode =>
      let access : Access := { write := true, create := true, truncate := true }
      match ready.openPath here path access usualMask with
      | .ok (id, made) => made.put id { content := .regular bytes, mode := mode }
      | .error _ => ready

/-- What a listing says of a node. -/
inductive Listed where
  /-- A regular file with its bytes and permission bits. -/
  | file (bytes : Bytes) (mode : Nat)
  /-- A directory. -/
  | directory
  /-- A symbolic link. -/
  | link (target : Bytes)
  deriving DecidableEq, Repr, Inhabited

/-- What lies below a directory, down to a depth, each path behind the given beginning. -/
def below (files : Files) : (depth : Nat) → (start : Bytes) → NodeId → List (Bytes × Listed)
  | 0, _, _ => []
  | depth + 1, start, directory =>
      (files.entriesOf directory).flatMap fun entry =>
        let path := start ++ entry.1
        match files.node? entry.2 with
        | some node =>
            match node.content with
            | .regular bytes => [(path, .file bytes node.mode)]
            | .directory .. =>
                (path, .directory) :: files.below depth (path ++ [Path.slash]) entry.2
            | .link target => [(path, .link target)]
            | .device _ | .pipe => []
        | none => []

/-- What lies below a directory, in the order of the paths' bytes. -/
def listing (files : Files) (directory : NodeId) : List (Bytes × Listed) :=
  (files.below files.nodes.length [] directory).mergeSort fun a b => Text.bytesLe a.1 b.1

end Files

end LineShell
