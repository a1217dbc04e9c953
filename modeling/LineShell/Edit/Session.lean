import LineShell.Edit.Outlet
import LineShell.Edit.Parser
import LineShell.Edit.Range

/-!
# A stream that is being edited

- **`Session`** is what is known while lines are edited: the line, what is kept, where the input
  and the output stand.
- **`Work`** is a part of the editing. It may end all of it with an exit code.
-/

namespace LineShell.Edit

open Utility

/-- What was asked for besides the script. -/
structure Settings where
  /-- The name of the program in messages. -/
  name : Bytes
  /-- Lines are not written unless a step does so. -/
  silent : Bool := false
  /-- Each file is a stream of its own. -/
  separate : Bool := false
  /-- What is written takes the place of each file; a copy of the file is kept under a name with
  the given end, unless that is empty. -/
  inPlace : Option Bytes := none
  /-- It is the file behind a symbolic link whose place is taken. -/
  followsLinks : Bool := false
  /-- Everything is read and written as late and as soon as possible. -/
  prompt : Bool := false
  /-- How wide lines are that show everything. -/
  width : Nat := 70
  /-- How many texts of the script were given without a file. -/
  expressions : Nat := 1
  /-- How the script is read. -/
  manner : Manner := {}
  deriving Repr, Inhabited

/-- A line. -/
structure Space where
  /-- What it holds, without the delimiter at its end. -/
  bytes : Bytes := []
  /-- It has a delimiter. -/
  ended : Bool := true
  deriving DecidableEq, Repr, Inhabited

/-- What is written behind a line. -/
inductive Addition where
  /-- Some text. -/
  | text (bytes : Bytes)
  /-- What a file holds. -/
  | file (path : Bytes)
  deriving DecidableEq, Repr, Inhabited

/-- A file that steps write to. -/
structure Writing where
  /-- The open file, unless it is standard output. -/
  outlet : Option Outlet
  /-- The last line lacks its delimiter. -/
  owes : Bool := false
  deriving Repr, Inhabited

/-- What takes the place of a file in the end. -/
structure Successor where
  /-- The open file. -/
  outlet : Outlet
  /-- Its path for the time being. -/
  path : Bytes
  /-- The path of the file whose place it takes. -/
  target : Bytes
  deriving Repr, Inhabited

/-- Where the input stands. -/
structure Input where
  /-- The file that is read. -/
  reader : Option Reader := none
  /-- Its name. -/
  name : Bytes := text "-"
  /-- The files behind it. -/
  rest : List Bytes := []
  /-- The number of the last line. -/
  number : Nat := 0
  /-- The next file begins a stream of its own. -/
  renews : Bool := false
  /-- Some file could not be read. -/
  failed : Bool := false
  deriving Repr, Inhabited

/-- What is known while lines are edited. -/
structure Session where
  /-- What was asked for. -/
  settings : Settings
  /-- The script. -/
  script : Script
  /-- How far its ranges have come. -/
  phases : Array Phase
  /-- The line. -/
  space : Space := {}
  /-- What is kept. -/
  hold : Space := {}
  /-- Something has been replaced. -/
  replaced : Bool := false
  /-- What is written behind the line, the last part first. -/
  additions : List Addition := []
  /-- The regular expression that was used last. -/
  used : Pattern := none
  /-- Standard output. -/
  stdout : Outlet
  /-- The last line that was written lacks its delimiter. -/
  owes : Bool := false
  /-- What takes the place of the file that is read. -/
  successor : Option Successor := none
  /-- The files that steps write to. -/
  writings : List (Bytes × Writing) := []
  /-- The files whose lines steps read. -/
  readings : List (Bytes × Option Reader) := []
  /-- Where the input stands. -/
  input : Input
  deriving Repr, Inhabited

/-- A part of the editing. -/
abbrev Work := ExceptT Int (StateT Session Prog)

namespace Work

/-- A part that is a program. -/
def perform {α : Type} (program : Prog α) : Work α :=
  ExceptT.lift (StateT.lift program)

/-- Repeats a part until it comes to a value. -/
def iterate {σ α : Type} (body : σ → Work (σ ⊕ α)) (start : σ) : Work α :=
  ExceptT.mk fun session =>
    Prog.iterate (fun (state, session) => do
      match ← (body state).run.run session with
      | (.ok (.inl later), session) => return .inl (later, session)
      | (.ok (.inr value), session) => return .inr (.ok value, session)
      | (.error code, session) => return .inr (.error code, session)) (start, session)

/-- The exit code after a failure that ends everything. -/
def panicCode : Int := 4

/-- Says what has failed and ends everything. -/
def panic {α : Type} (message : Bytes) : Work α := do
  perform (complain (← get).settings.name message)
  throw panicCode

/-- Says what is wrong with the script and ends everything. -/
def refuse {α : Type} (fault : Fault) : Work α := do
  let settings := (← get).settings
  perform (complain settings.name
    ((Spot.expression settings.expressions 0).shown ++ text ": " ++ fault.message))
  throw 1

/-! ## Writing -/

/-- Where lines go. -/
inductive Destination where
  /-- Where all lines go. -/
  | main
  /-- A file that was named by a step. -/
  | file (path : Bytes)
  deriving DecidableEq, Repr, Inhabited

/-- The writing of a step. -/
def writing (path : Bytes) : Work Writing := do
  return ((← get).writings.lookup path).getD { outlet := none }

/-- A writing of a step has changed. -/
def setWriting (path : Bytes) (changed : Writing) : Work Unit :=
  modify fun session => { session with
    writings := session.writings.map fun entry =>
      if entry.1 == path then (path, changed) else entry }

/-- The outlet for a destination. -/
def outlet (destination : Destination) : Work Outlet := do
  let session ← get
  match destination with
  | .main => return (session.successor.map Successor.outlet).getD session.stdout
  | .file path => return (← writing path).outlet.getD session.stdout

/-- The outlet for a destination has changed. -/
def setOutlet (destination : Destination) (changed : Outlet) : Work Unit := do
  match destination with
  | .main =>
      modify fun session => match session.successor with
        | some successor => { session with successor := some { successor with outlet := changed } }
        | none => { session with stdout := changed }
  | .file path =>
      let writing ← writing path
      match writing.outlet with
      | some _ => setWriting path { writing with outlet := some changed }
      | none => modify fun session => { session with stdout := changed }

/-- The last line for a destination lacks its delimiter. -/
def owes (destination : Destination) : Work Bool := do
  match destination with
  | .main => return (← get).owes
  | .file path => return (← writing path).owes

/-- Remembers whether the last line for a destination lacks its delimiter. -/
def setOwes (destination : Destination) (value : Bool) : Work Unit := do
  match destination with
  | .main => modify fun session => { session with owes := value }
  | .file path => setWriting path { (← writing path) with owes := value }

/-- Writes bytes. -/
def put (destination : Destination) (bytes : Bytes) : Work Unit := do
  if bytes.isEmpty then return ()
  let outlet ← outlet destination
  match ← perform (outlet.put bytes) with
  | .ok outlet => setOutlet destination outlet
  | .error errno =>
      setOutlet destination outlet.emptied
      let items := if bytes.length = 1 then " item to " else " items to "
      panic (text "couldn't write " ++ Text.decimal bytes.length ++ text items ++ outlet.name
        ++ text ": " ++ reason errno)

/-- Writes what is held back for a destination. -/
def flush (destination : Destination) : Work Unit := do
  let outlet ← outlet destination
  match ← perform outlet.flush with
  | .ok outlet => setOutlet destination outlet
  | .error errno =>
      setOutlet destination outlet.emptied
      panic (text "couldn't flush " ++ outlet.name ++ text ": " ++ reason errno)

/-- The byte that ends a line. -/
def delimiter : Work UInt8 := do return (← get).settings.manner.delimiter

/-- Writes the delimiter that the last line lacks. -/
def complete (destination : Destination) : Work Unit := do
  if ← owes destination then
    put destination [← delimiter]
    setOwes destination false

/-- Lets what was written through, if it should not be held back. -/
def settle (destination : Destination) : Work Unit := do
  if (← outlet destination).prompt then flush destination

/-- Writes bytes behind whole lines. -/
def putBehind (destination : Destination) (bytes : Bytes) : Work Unit := do
  complete destination
  put destination bytes
  settle destination

/-- Writes a line. -/
def putSpace (destination : Destination) (space : Space) : Work Unit := do
  complete destination
  put destination space.bytes
  if space.ended then put destination [← delimiter] else setOwes destination true
  settle destination

/-- Writes what comes behind the line. -/
def putAdditions : Work Unit := do
  let additions := (← get).additions.reverse
  modify fun session => { session with additions := [] }
  additions.forM fun addition => do
    complete .main
    match addition with
    | .text bytes => put .main bytes
    | .file path =>
        match ← perform (openFile path) with
        | .error _ => return ()
        | .ok fd =>
            let bytes ← perform (Prog.readAll fd)
            perform (closeInput fd)
            match bytes with
            | .ok bytes => put .main bytes
            | .error errno => panic (text "read error on " ++ path ++ text ": " ++ reason errno)
    settle .main

/-! ## Reading -/

/-- How many bytes are read at once. -/
def inputBlock : Nat := 4096

/-- A reader of an open file. -/
def reader (fd : Fd) : Work Reader := do
  return { fd := fd, delimiter := ← delimiter
           block := if (← get).settings.prompt then 1 else inputBlock }

/-- The directory part of a path, with the slash at its end. -/
def directoryPart (path : Bytes) : Bytes := (path.reverse.dropWhile (· != Path.slash)).reverse

/-- The path under which a file is kept whose place is taken. -/
def keptPath (ending target : Bytes) : Bytes :=
  let directory := directoryPart target
  let name := target.drop directory.length
  let changed := if ending.contains 42 then ending.flatMap fun b => if b = 42 then name else [b]
    else name ++ ending
  if changed.contains Path.slash then changed else directory ++ changed

/-- Changes the input. -/
def setInput (change : Input → Input) : Work Unit :=
  modify fun session => { session with input := change session.input }

/-- Opens what takes the place of a file. -/
def openSuccessor (path : Bytes) (status : Status) : Work Unit := do
  let settings := (← get).settings
  let target ← if settings.followsLinks then
      perform do return (← Prog.call (.canonical path)).toOption.getD path
    else pure path
  let digits := Text.decimal (← perform (Prog.call .processId))
  let name := text "sed" ++ (List.replicate 6 48 ++ digits).drop digits.length
  let directory := directoryPart target
  let temporary := (if directory.isEmpty then text "./" else directory) ++ name
  let access : Access := { write := true, create := true, exclusive := true }
  match ← perform (Prog.call (.openPath temporary access true)) with
  | .error errno =>
      panic (text "couldn't open temporary file " ++ temporary ++ text ": " ++ reason errno)
  | .ok fd =>
      let _ ← perform (Prog.call (.setMode temporary (status.node.mode &&& 0o777)))
      modify fun session => { session with
        owes := false
        successor := some ⟨{ fd := fd, name := temporary }, temporary, target⟩ }

/-- What was written takes the place of the file. -/
def closeSuccessor : Work Unit := do
  match (← get).successor with
  | none => return ()
  | some successor =>
      flush .main
      perform do
        let _ ← Prog.call (.close successor.outlet.fd)
      match (← get).settings.inPlace with
      | some ending =>
          if !ending.isEmpty then
            let _ ← perform (Prog.call (.rename successor.target
              (keptPath ending successor.target)))
      | none => pure ()
      let _ ← perform (Prog.call (.rename successor.path successor.target))
      modify fun session => { session with successor := none, owes := false }

/-- The stream begins anew. -/
def renew : Work Unit := do
  complete .main
  modify fun session => { session with
    phases := session.script.steps.map fun step => step.selector.start
    readings := []
    input := { session.input with number := 0, renews := false } }

/-- Opens the next file, unless that cannot be read. -/
def openNext (path : Bytes) : Work Unit := do
  let session ← get
  let editsFiles := session.settings.inPlace.isSome
  if path == text "-" && !editsFiles then
    let opened ← reader Fd.stdin
    setInput fun input => { input with reader := some opened, name := path }
  else match ← perform (openFile path) with
    | .error errno =>
        perform (complain session.settings.name
          (text "can't read " ++ path ++ text ": " ++ reason errno))
        setInput fun input => { input with failed := true }
    | .ok fd =>
        if editsFiles then
          match ← perform (Prog.call (.kind fd)) with
          | .ok (.node status) =>
              if status.node.isRegular then openSuccessor path status
              else panic (text "couldn't edit " ++ path ++ text ": not a regular file")
          | .ok .terminal => panic (text "couldn't edit " ++ path ++ text ": is a terminal")
          | _ => panic (text "couldn't edit " ++ path ++ text ": not a regular file")
        let opened ← reader fd
        setInput fun input => { input with reader := some opened, name := path }

/-- Closes the file that has been read. -/
def closeReader (reader : Reader) : Work Unit := do
  perform (closeInput reader.fd)
  closeSuccessor
  setInput fun input => { input with reader := none }
  if (← get).settings.separate then setInput fun input => { input with renews := true }

/-- Moves to the next file that holds something, and tells whether there is one. -/
def findInput : Work Bool :=
  iterate (fun () => do
    let input := (← get).input
    match input.reader, input.rest with
    | some reader, _ =>
        let (ended, reader) ← perform reader.atEnd
        setInput fun input => { input with reader := some reader }
        if !ended then return .inr true
        closeReader reader
        return .inl ()
    | none, path :: rest =>
        setInput fun input => { input with rest := rest }
        openNext path
        return .inl ()
    | none, [] => return .inr false) ()

/-- No line comes behind this one. -/
def isLast : Work Bool := do
  match (← get).input.reader with
  | none => return !(← findInput)
  | some reader =>
      let (ended, reader) ← perform reader.atEnd
      setInput fun input => { input with reader := some reader }
      if !ended then return false
      if (← get).settings.separate then return true
      return !(← findInput)

/-- Reads the next line, unless there is none. -/
def readSpace : Work (Option Space) :=
  iterate (fun () => do
    let input := (← get).input
    match input.reader, input.rest with
    | some reader, _ =>
        if input.renews then renew
        let (line, reader) ← perform reader.next
        setInput fun input => { input with reader := some reader }
        match line with
        | .error errno =>
            let shown := if reader.fd == Fd.stdin then text "stdin" else input.name
            panic (text "read error on " ++ shown ++ text ": " ++ reason errno)
        | .ok none =>
            closeReader reader
            return .inl ()
        | .ok (some line) =>
            let delimiter ← delimiter
            setInput fun input => { input with number := input.number + 1 }
            return .inr (some ⟨withoutDelimiter delimiter line, hasEnded delimiter line⟩)
    | none, path :: rest =>
        setInput fun input => { input with rest := rest }
        openNext path
        return .inl ()
    | none, [] => return .inr none) ()

/-- Goes on to the next line, which is given to a function with the line so far, unless there is
none. -/
def nextSpace (join : Space → Space → Space) : Work Bool := do
  putAdditions
  modify fun session => { session with replaced := false }
  match ← readSpace with
  | none => return false
  | some space =>
      modify fun session => { session with space := join session.space space }
      return true

/-- The next line of a file whose lines are read by steps. -/
def nextReading (path : Bytes) : Work (Option Bytes) := do
  let known := (← get).readings.lookup path
  let opened ← match known with
    | some opened => pure opened
    | none => do
        let fd ← perform (if path == text "/dev/stdin" then pure (.ok Fd.stdin)
          else openFile path)
        match fd with
        | .ok fd => pure (some (← reader fd))
        | .error _ => pure none
  let set (opened : Option Reader) : Work Unit :=
    modify fun session => { session with
      readings := (path, opened) :: session.readings.filter fun entry => entry.1 != path }
  match opened with
  | none =>
      set none
      return none
  | some reader =>
      let (line, reader) ← perform reader.next
      set (some reader)
      match line with
      | .ok line => return line
      | .error errno => panic (text "read error on " ++ path ++ text ": " ++ reason errno)

end Work

end LineShell.Edit
