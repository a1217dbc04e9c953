import LineShell.System.Process

/-!
# The machine

A machine holds the file store, the pipes and the processes. It moves by answering one request
of one process.

- **`answer`** is the answer to a request that concerns the process alone.
- **`step`** lets a process get the answer to what it asks, unless it has to wait.
-/

namespace LineShell

/-- Turns the bytes of a program file and its arguments into a program, if the bytes are those of
a program. -/
abbrev Launcher := Bytes → List Bytes → Option (Prog Empty)

/-- The state of a machine. -/
structure System (α : Type) where
  /-- The file store. -/
  files : Files
  /-- The positions of open files. -/
  cells : List Nat
  /-- What waits in each pipe. -/
  pipes : List Bytes
  /-- What has been typed at the terminal and not been read, in the pieces that are handed on. -/
  typed : List Bytes
  /-- The processes, in the order they were made. -/
  processes : List (Process α)
  /-- The number of the next process. -/
  nextPid : Pid

namespace System

variable {α : Type}

/-! ## Parts -/

/-- The process with a number. -/
def process? (system : System α) (pid : Pid) : Option (Process α) :=
  system.processes.find? fun process => process.pid == pid

/-- The machine in which a process has changed. -/
def setProcess (system : System α) (changed : Process α) : System α :=
  { system with processes := system.processes.map fun process =>
      if process.pid == changed.pid then changed else process }

/-- The time, in milliseconds. -/
def clock (system : System α) : Nat := system.files.time

/-- The machine at another time. -/
def setClock (system : System α) (time : Nat) : System α :=
  { system with files := { system.files with time := time } }

/-- How many bytes a pipe holds at most. -/
def pipeCapacity : Nat := 65536

/-- What waits in a pipe. -/
def queue (system : System α) (pipe : PipeId) : Bytes := system.pipes.getD pipe []

/-- The machine in which something else waits in a pipe. -/
def setQueue (system : System α) (pipe : PipeId) (bytes : Bytes) : System α :=
  { system with pipes := system.pipes.set pipe bytes }

/-- Some process holds an open file with the given endpoint. -/
def held (system : System α) (endpoint : Endpoint) : Bool :=
  system.processes.any fun process => process.table.holds endpoint

/-- The position of an open file. -/
def position (system : System α) (handle : Handle) : Nat := system.cells.getD handle.cell 0

/-- The machine in which an open file has another position. -/
def setPosition (system : System α) (handle : Handle) (position : Nat) : System α :=
  { system with cells := system.cells.set handle.cell position }

/-- Some process has a file open for writing. -/
def beingWritten (system : System α) (id : NodeId) : Bool :=
  system.processes.any fun process => process.table.any fun entry =>
    entry.2.handle.endpoint == .node id && entry.2.handle.access.write

/-! ## Reading and writing -/

/-- Up to so many bytes from an open file, when there is no need to wait for them. -/
def readSome (system : System α) (table : Table) (fd : Fd) (count : Nat) :
    Option (Except Errno Bytes × System α) :=
  match table.get? fd with
  | none => some (.error .badDescriptor, system)
  | some descriptor =>
      let handle := descriptor.handle
      if !handle.access.read then some (.error .badDescriptor, system)
      else match handle.endpoint with
        | .pipeReader pipe =>
            let waiting := system.queue pipe
            if !waiting.isEmpty then
              some (.ok (waiting.take count), system.setQueue pipe (waiting.drop count))
            -- an empty pipe has come to its end once nobody can write to it any more
            else if system.held (.pipeWriter pipe) then none
            else some (.ok [], system)
        | .pipeWriter _ => some (.error .badDescriptor, system)
        | .terminal =>
            match system.typed with
            | [] => some (.ok [], system)
            | line :: rest =>
                -- no more than one piece is read at once, and what is left of it comes next
                let left := line.drop count
                some (.ok (line.take count),
                  { system with typed := if left.isEmpty then rest else left :: rest })
        | .node id =>
            match (system.files.node? id).map Node.content with
            | some (.regular bytes) =>
                let position := system.position handle
                let chunk := (bytes.drop position).take count
                some (.ok chunk, system.setPosition handle (position + chunk.length))
            | some (.directory ..) => some (.error .isDirectory, system)
            | some (.device .null) => some (.ok [], system)
            | some (.device _) => some (.ok (List.replicate count 0), system)
            | _ => some (.error .badDescriptor, system)

/-- What is left to be written of some bytes, when some could be written or none had to be;
nothing when the process has to wait. -/
def writeSome (system : System α) (table : Table) (fd : Fd) (bytes : Bytes) :
    Option (Except Errno Bytes × System α) :=
  match table.get? fd with
  | none => some (.error .badDescriptor, system)
  | some descriptor =>
      let handle := descriptor.handle
      if !handle.access.write then some (.error .badDescriptor, system)
      else match handle.endpoint with
        | .pipeWriter pipe =>
            let waiting := system.queue pipe
            let room := pipeCapacity - waiting.length
            -- a pipe that nobody reads refuses even to take nothing
            if !system.held (.pipeReader pipe) then some (.error .brokenPipe, system)
            else if bytes.isEmpty then some (.ok [], system)
            else if room = 0 then none
            else some (.ok (bytes.drop room), system.setQueue pipe (waiting ++ bytes.take room))
        | .pipeReader _ => some (.error .badDescriptor, system)
        | .terminal => some (.ok [], system)
        | .node id =>
            match (system.files.node? id).map Node.content with
            | some (.regular old) =>
                if bytes.isEmpty then some (.ok [], system)
                else
                  -- what is appended stands at the end, wherever the position was
                  let position :=
                    if handle.access.append then old.length else system.position handle
                  let written :=
                    { system with files :=
                        system.files.setBytes id (Files.overwrite old position bytes) }
                  some (.ok [], written.setPosition handle (position + bytes.length))
            | some (.device .full) => some (.error .noSpace, system)
            | some (.device _) => some (.ok [], system)
            | _ => some (.error .badDescriptor, system)

/-! ## Open files -/

/-- The process and the machine after a file has been opened under a number. -/
def install (system : System α) (process : Process α) (fd : Fd) (endpoint : Endpoint)
    (access : Access) (closeOnExec : Bool) : Process α × System α :=
  let handle : Handle := ⟨endpoint, access, system.cells.length⟩
  ({ process with table := process.table.set fd ⟨handle, closeOnExec⟩ },
   { system with cells := system.cells ++ [0] })

/-- The number of the open file that a path stands for in the process that uses it. -/
def ownFile? (path : Bytes) : Option Fd :=
  let parsed := Path.parse path
  if !parsed.absolute then none
  else match parsed.names.map Text.textOf with
    | ["dev", "stdin"] => some Fd.stdin
    | ["dev", "stdout"] => some Fd.stdout
    | ["dev", "stderr"] => some Fd.stderr
    | ["dev", "fd", number] | ["proc", "self", "fd", number] =>
        Text.number? (Text.bytesOf number)
    | _ => none

/-- What an open file is opened as once more, and the store afterwards. -/
def reopen (files : Files) (endpoint : Endpoint) (access : Access) :
    Except Errno (Endpoint × Files) :=
  match endpoint with
  | .terminal => .ok (.terminal, files)
  | .pipeReader pipe | .pipeWriter pipe =>
      .ok (if access.read then .pipeReader pipe else .pipeWriter pipe, files)
  | .node id =>
      match files.node? id with
      | none => .error .noEntry
      | some node =>
          if node.isDirectory && (access.create || access.write) then .error .isDirectory
          else if (access.read && !files.permits node Files.readBit)
              || (access.write && !files.permits node Files.writeBit) then
            .error .accessDenied
          else .ok (.node id, if access.truncate then files.setBytes id [] else files)

/-- What a path is opened as, and the store afterwards. -/
def endpointAt (system : System α) (process : Process α) (path : Bytes) (access : Access) :
    Except Errno (Endpoint × Files) := do
  match ownFile? path with
  | some fd =>
      match process.table.get? fd with
      | none => throw .noEntry
      | some descriptor => reopen system.files descriptor.handle.endpoint access
  | none =>
      let (id, files) ← system.files.openPath process.directory path access process.mask
      match (files.node? id).map Node.content with
      | some (.device .terminal) => throw .noDevice
      | _ => return (.node id, files)

/-- Opens a path under the least free number. A process whose numbers are used up is refused
before the path is looked at. -/
def openPath (system : System α) (process : Process α) (path : Bytes) (access : Access)
    (closeOnExec : Bool) : Except Errno Fd × Process α × System α :=
  let fd := process.table.free
  if process.limit ≤ fd then (.error .tooManyFiles, process, system)
  else match system.endpointAt process path access with
    | .error errno => (.error errno, process, system)
    | .ok (endpoint, files) =>
        let (process, system) :=
          { system with files := files }.install process fd endpoint access closeOnExec
        (.ok fd, process, system)

/-- Makes a pipe under the two least free numbers, or takes none when there are not two. -/
def openPipe (system : System α) (process : Process α) :
    Except Errno (Fd × Fd) × Process α × System α :=
  let reader := process.table.free
  let writer := Table.freeFrom (reader + 1) process.table
  if process.limit ≤ writer then (.error .tooManyFiles, process, system)
  else
    let pipe := system.pipes.length
    let system := { system with pipes := system.pipes ++ [[]] }
    let (process, system) :=
      system.install process reader (.pipeReader pipe) { read := true } true
    let (process, system) :=
      system.install process writer (.pipeWriter pipe) { write := true } true
    (.ok (reader, writer), process, system)

/-- Lets another number stand for an open file. -/
def duplicate (process : Process α) (source target : Fd) : Except Errno Unit × Process α :=
  match process.table.get? source with
  | none => (.error .badDescriptor, process)
  | some descriptor =>
      if process.limit ≤ target then (.error .badDescriptor, process)
      else if source = target then (.ok (), process)
      else (.ok (), { process with table := process.table.set target ⟨descriptor.handle, false⟩ })

/-- Lets a free number stand for an open file too, until the process becomes another program. -/
def duplicateAbove (process : Process α) (source minimum : Fd) : Except Errno Fd × Process α :=
  match process.table.get? source with
  | none => (.error .badDescriptor, process)
  | some descriptor =>
      let fd := Table.freeFrom minimum process.table
      if process.limit ≤ minimum then (.error .invalid, process)
      else if process.limit ≤ fd then (.error .tooManyFiles, process)
      else (.ok fd, { process with table := process.table.set fd ⟨descriptor.handle, true⟩ })

/-- What an open file is. -/
def kindOf (system : System α) (table : Table) (fd : Fd) : Except Errno FileKind :=
  match table.get? fd with
  | none => .error .badDescriptor
  | some descriptor =>
      match descriptor.handle.endpoint with
      | .terminal => .ok .terminal
      | .node id =>
          match system.files.node? id with
          | some node => .ok (.node ⟨id, node, system.files.linkCount id⟩)
          | none => .error .badDescriptor
      | _ => .ok .pipe

/-- The permission bits of pipes and terminals. -/
def streamMode : Nat := 0o620

/-- What an open file is, as far as it can be said in the way of a node. A pipe counts as a node
behind all others. -/
def statusOf (system : System α) (table : Table) (fd : Fd) : Except Errno Status :=
  let behind := system.files.nodes.length + 1
  match table.get? fd with
  | none => .error .noEntry
  | some descriptor =>
      match descriptor.handle.endpoint with
      | .node id =>
          match system.files.node? id with
          | some node => .ok ⟨id, node, system.files.linkCount id⟩
          | none => .error .noEntry
      | .terminal => .ok ⟨behind, { content := .device .terminal, mode := streamMode }, 1⟩
      | .pipeReader pipe | .pipeWriter pipe =>
          .ok ⟨behind + pipe, { content := .pipe, mode := streamMode }, 1⟩

/-- What a path leads to. -/
def statusAt (system : System α) (process : Process α) (path : Bytes) (follow : Bool) :
    Except Errno Status := do
  match if follow then ownFile? path else none with
  | some fd => system.statusOf process.table fd
  | none =>
      let id ← system.files.find process.directory path follow
      match system.files.node? id with
      | some node => return ⟨id, node, system.files.linkCount id⟩
      | none => throw .noEntry

/-- The names in the directory that a path leads to. -/
def namesAt (system : System α) (process : Process α) (path : Bytes) :
    Except Errno (List Bytes) := do
  let id ← system.files.find process.directory path
  match system.files.node? id with
  | some node =>
      if !node.isDirectory then throw .notDirectory
      else if !system.files.permits node Files.readBit then throw .accessDenied
      else return (system.files.entriesOf id).map (·.1)
  | none => throw .noEntry

/-- Moves the position of an open file. -/
def seek (system : System α) (table : Table) (fd : Fd) (move : Seek) :
    Except Errno Nat × System α :=
  match table.get? fd with
  | none => (.error .badDescriptor, system)
  | some descriptor =>
      match descriptor.handle.endpoint with
      | .node _ =>
          let handle := descriptor.handle
          let position := match move with
            | .start position => position
            | .back distance => system.position handle - distance
            | .ahead distance => system.position handle + distance
          (.ok position, system.setPosition handle position)
      | _ => (.error .illegalSeek, system)

/-- Lets an open file hold so many bytes. -/
def resize (system : System α) (table : Table) (fd : Fd) (size : Nat) :
    Except Errno Unit × System α :=
  match table.get? fd with
  | none => (.error .badDescriptor, system)
  | some descriptor =>
      match descriptor.handle.access.write, descriptor.handle.endpoint with
      | true, .node id =>
          match (system.files.node? id).bind Node.bytes? with
          | some bytes =>
              let sized := bytes.take size ++ List.replicate (size - bytes.length) 0
              (.ok (), { system with files := system.files.setBytes id sized })
          | none => (.error .invalid, system)
      | _, _ => (.error .invalid, system)

/-! ## Children and signals -/

/-- News of a child, which is forgotten once it has ended and that has been told. -/
def waitFor (system : System α) (parent : Pid) (child : Option Pid) :
    Option (Except Errno (Pid × ChildNews) × System α) :=
  let children := system.processes.filter fun process =>
    process.parent == parent && (child.isNone || child == some process.pid)
  match children.find? fun process => process.ending.isSome with
  | some process =>
      some (.ok (process.pid, .ended (process.ending.getD default)),
        { system with processes := system.processes.filter fun other => other.pid != process.pid })
  | none => if children.isEmpty then some (.error .noChild, system) else none

/-- Sends a signal to a process. -/
def signal (system : System α) (target : Pid) (signal : Signal) :
    Except Errno Unit × System α :=
  if Signal.last < signal then (.error .invalid, system)
  else match system.process? target with
    | none => (.error .noProcess, system)
    | some process =>
        if signal = 0 || !process.alive then (.ok (), system)
        else match process.signals.get signal with
          | .ignored => (.ok (), system)
          | .caught =>
              (.ok (), system.setProcess
                { process with signals := process.signals.note signal })
          | .default =>
              if Signal.harmless.contains signal then (.ok (), system)
              else if Signal.stopping.contains signal then
                (.ok (), system.setProcess { process with halted := true })
              else if signal = Signal.continuing then
                (.ok (), system.setProcess { process with halted := false })
              else (.ok (), system.setProcess (process.finish (.killed signal)))

/-! ## Programs -/

/-- The longest argument that a program can receive, its end mark included, in bytes. -/
def longestArgument : Nat := 131072

/-- How long it takes to start a program, in milliseconds. -/
def startingTime : Nat := 1

/-- How many interpreters may stand between a file and the program that runs it. -/
def interpreterDepth : Nat := 5

/-- How many bytes behind `#!` are searched for the end of the line that names an interpreter. -/
def interpreterSpan : Nat := 254

/-- A blank between an interpreter and its argument. -/
def isGap (b : UInt8) : Bool := b == 32 || b == 9

/-- The line behind `#!`, if it names an interpreter. When it does not end within the span, the
name has to; NULs stand for what the file lacks. -/
def interpreterLine? (rest : Bytes) : Option Bytes :=
  let span := (rest ++ List.replicate interpreterSpan 0).take interpreterSpan
  let line := span.takeWhile fun b => b != 10 && b != 0
  if (span.drop line.length).head? == some 10 then some line
  else
    let cut := span.take (interpreterSpan - 1)
    if (cut.dropWhile isGap).all fun b => !isGap b && b != 0 then none else some cut

/-- The interpreter that a file names behind `#!`, and the argument it gets before the file. -/
def interpreter? (bytes : Bytes) : Option (Option (Bytes × Option Bytes)) :=
  match bytes with
  | 35 :: 33 :: rest =>
      let trimmed := (interpreterLine? rest).map fun line =>
        (line.reverse.dropWhile isGap).reverse.dropWhile isGap
      match trimmed with
      | none | some [] => some none
      | some line =>
          let name := line.takeWhile fun b => !isGap b && b != 0
          let behind := line.drop name.length
          let argument := (behind.dropWhile isGap).takeWhile (· != 0)
          some (some (name, if (behind.head?).any isGap then some argument else none))
  | _ => none

/-- The bytes of the file that a path leads to, if it may be run and is not being written. -/
def programAt (system : System α) (directory : NodeId) (path : Bytes) : Except Errno Bytes := do
  let id ← system.files.find directory path
  match system.files.node? id with
  | none => throw .noEntry
  | some node =>
      match node.bytes? with
      | none => throw .accessDenied
      | some bytes =>
          if !node.runnable || !system.files.permits node Files.searchBit then
            throw .accessDenied
          else if system.beingWritten id then throw .textBusy
          else return bytes

/-- The program that a path leads to for a process in a directory. -/
def load (launch : Launcher) (system : System α) (directory : NodeId) :
    (depth : Nat) → (path : Bytes) → (arguments : List Bytes) → Except Errno (Prog Empty)
  | 0, _, _ => .error .linkLoop
  | depth + 1, path, arguments =>
      match system.programAt directory path with
      | .error errno => .error errno
      | .ok bytes =>
          match interpreter? bytes with
          | some none => .error .notExecutable
          | some (some (name, argument)) =>
              load launch system directory depth name
                (name :: (argument.toList ++ path :: arguments.tail))
          | none =>
              match launch bytes arguments with
              | some program => .ok program
              | none => .error .notExecutable

/-- The process as it becomes the program that a path leads to. -/
def become (launch : Launcher) (system : System α) (process : Process α) (path : Bytes)
    (arguments : List Bytes) (bindings : Variables) : Except Errno (Process α) :=
  if arguments.any fun argument => longestArgument ≤ argument.length then .error .argumentTooLong
  else match load launch system process.directory interpreterDepth path arguments with
    | .error errno => .error errno
    | .ok program =>
        .ok { process with
          program := program.bind fun never => nomatch never
          table := process.table.afterExec
          bindings := bindings
          signals := process.signals.afterExec
          pending := [] }

/-! ## Steps -/

/-- The answer to a request for a change of the file store, which is not changed when that is
refused. -/
def change (system : System α) (process : Process α) (changed : Except Errno Files) :
    Except Errno Unit × Process α × System α :=
  match changed with
  | .ok files => (.ok (), process, { system with files := files })
  | .error errno => (.error errno, process, system)

/-- The answer to a request that concerns the asking process alone, the process and the machine
afterwards. Nothing is answered while the process has to wait. -/
def answer (system : System α) (process : Process α) :
    (call : Call) → Option (call.Result × Process α × System α)
  | .openPath path access closeOnExec => some (system.openPath process path access closeOnExec)
  | .close fd =>
      match process.table.get? fd with
      | some _ => some (.ok (), { process with table := process.table.erase fd }, system)
      | none => some (.error .badDescriptor, process, system)
  | .pipe => some (system.openPipe process)
  | .duplicate source target =>
      let (reply, process) := duplicate process source target
      some (reply, process, system)
  | .duplicateAbove source minimum =>
      let (reply, process) := duplicateAbove process source minimum
      some (reply, process, system)
  | .wait child =>
      (system.waitFor process.pid child).map fun (reply, system) => (reply, process, system)
  | .read fd count =>
      (system.readSome process.table fd count).map fun (reply, system) => (reply, process, system)
  | .seek fd move =>
      let (reply, system) := system.seek process.table fd move
      some (reply, process, system)
  | .put bytes => some ((), { process with pending := process.pending ++ bytes }, system)
  | .changeDirectory path =>
      match system.files.findDirectory process.directory path with
      | .ok id => some (.ok (), { process with directory := id }, system)
      | .error errno => some (.error errno, process, system)
  | .currentDirectory => some (system.files.pathOf process.directory, process, system)
  | .canonical path => some (system.files.canonical process.directory path, process, system)
  | .names path => some (system.namesAt process path, process, system)
  | .status path follow => some (system.statusAt process path follow, process, system)
  | .kind fd => some (system.kindOf process.table fd, process, system)
  | .mayUse path bit =>
      some ((do
        let status ← system.statusAt process path true
        if system.files.permits status.node bit then return ()
        else throw .accessDenied), process, system)
  | .makeDirectory path mode =>
      some (system.change process
        (system.files.makeDirectory process.directory path mode process.mask))
  | .removeDirectory path =>
      some (system.change process (system.files.removeDirectory process.directory path))
  | .unlink path => some (system.change process (system.files.unlink process.directory path))
  | .hardLink source path =>
      some (system.change process (system.files.hardLink process.directory source path))
  | .makeLink target path =>
      some (system.change process (system.files.makeLink process.directory path target))
  | .rename source path =>
      some (system.change process (system.files.rename process.directory source path))
  | .setMode path mode =>
      some (system.change process (system.files.setMode process.directory path mode))
  | .setTime path follow time =>
      some (system.change process
        (system.files.setTime process.directory path follow (time.getD system.clock)))
  | .resize fd size =>
      let (reply, system) := system.resize process.table fd size
      some (reply, process, system)
  | .setMask mask => some (process.mask, { process with mask := mask &&& 0o777 }, system)
  | .limit => some (process.limit, process, system)
  | .setLimit limit => some ((), { process with limit := limit }, system)
  | .parentId => some (process.parent, process, system)
  | .dispose signal disposition =>
      some (process.signals.get signal,
        { process with signals := process.signals.set signal disposition }, system)
  | .arrived =>
      some (process.signals.arrived,
        { process with signals := { process.signals with arrived := [] } }, system)
  | .waitOrSignal =>
      match system.waitFor process.pid none with
      | some (reply, system) => some (reply, process, system)
      | none =>
          if process.signals.arrived.isEmpty then none
          else some (.error .interrupted, process, system)
  | .poll =>
      match system.waitFor process.pid none with
      | some (reply, system) => some (some <$> reply, process, system)
      | none => some (.ok none, process, system)
  | .processId => some (process.pid, process, system)
  | .now => some (system.clock, process, system)
  | .sleepUntil time => if time ≤ system.clock then some ((), process, system) else none
  | .bindings => some (process.bindings, process, system)
  | .fork | .exec .. | .exit _ | .readAll .. | .write .. | .flush | .kill .. => none

/-- The machine after a process has got the answer to what it asks, or part of it, or has begun
another round of a loop. There is none while the process has to wait or has been stopped, and none
when it has ended. -/
def step (launch : Launcher) (system : System α) (pid : Pid) : Option (System α) :=
  match system.process? pid with
  | none => none
  | some process =>
      if !process.active then none
      else match process.program with
        | .pure _ => none
        | .loop body state next =>
            some (system.setProcess { process with program := Prog.unroll body state next })
        | .ask .fork again next =>
            let child := system.nextPid
            let parentSide := { process with
              program := Process.proceed .fork again next (.ok (.parent child)) }
            let childSide := { process with
              pid := child
              parent := pid
              signals := process.signals.forChild
              program := Process.proceed .fork again next (.ok .child) }
            -- both sides go on from the same place, with the same open files
            let grown := system.setProcess parentSide
            some { grown with
              processes := grown.processes ++ [childSide]
              nextPid := child + 1 }
        | .ask (.exec path arguments bindings) again next =>
            match system.become launch process path arguments bindings with
            | .ok changed =>
                -- a program takes some time to begin
                some (system.setProcess { changed with
                  program := .ask (.sleepUntil (system.clock + startingTime)) (fun _ => false)
                    fun () => changed.program })
            | .error errno =>
                some (system.setProcess { process with
                  program := Process.proceed (.exec path arguments bindings) again next errno })
        | .ask (.exit code) _ _ =>
            some (system.setProcess (process.finish (.exited (code % 256).toNat)))
        -- the next three may take several steps: what is left to do stands in the request, or is
        -- what is held back
        | .ask (.readAll fd sofar) again next =>
            (system.readSome process.table fd pipeCapacity).map fun (reply, system) =>
              system.setProcess { process with program :=
                match reply with
                | .error errno => Process.proceed (.readAll fd sofar) again next (.error errno)
                | .ok [] =>
                    Process.proceed (.readAll fd sofar) again next (.ok sofar.reverse.flatten)
                | .ok chunk => .ask (.readAll fd (chunk :: sofar)) again next }
        | .ask (.write fd bytes) again next =>
            (system.writeSome process.table fd bytes).map fun (reply, system) =>
              system.setProcess { process with program :=
                match reply with
                | .error errno => Process.proceed (.write fd bytes) again next (.error errno)
                | .ok [] => Process.proceed (.write fd bytes) again next (.ok ())
                | .ok left => .ask (.write fd left) again next }
        | .ask .flush again next =>
            if process.pending.isEmpty then
              some (system.setProcess { process with
                program := Process.proceed .flush again next (.ok ()) })
            else
              (system.writeSome process.table Fd.stdout process.pending).map fun (reply, system) =>
                system.setProcess (match reply with
                  | .error errno => { process with
                      pending := []
                      program := Process.proceed .flush again next (.error errno) }
                  | .ok left => { process with
                      pending := left })
        | .ask (.kill target number) again next =>
            let (reply, signalled) := system.signal target number
            -- the signal may have met the process that sends it
            match signalled.process? pid with
            | none => some signalled
            | some after => some (signalled.setProcess { after with
                program := Process.proceed (.kill target number) again next reply })
        | .ask call again next =>
            (system.answer process call).map fun (reply, process, system) =>
              system.setProcess { process with
                program := Process.proceed call again next reply }

end System

end LineShell
