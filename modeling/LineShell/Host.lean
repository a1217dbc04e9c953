import LineShell.Shell.Builtin
import LineShell.Shell.CommandLine
import LineShell.System.Schedule
import LineShell.System.Terminal
import LineShell.Utility.Catalog

/-!
# A machine for the shell

A machine with the usual directories and utilities, on which a program runs in a directory of its
own, with given files, variables and input.

- **`Setup`** says what the program finds.
- **`run`** runs a program and says what it has left behind.
- **`session`** runs one line after another in the same shell.
-/

namespace LineShell.Host

/-- The directory in which programs run. -/
def scratch : Bytes := Text.bytesOf "/tmp/lineshell-scratch"

/-- The number of the first process. -/
def firstPid : Pid := 1000

/-- When a program begins to run, in milliseconds. -/
def startOfTime : Nat := 1000

/-- How many files a process may have open if nothing else is said. -/
def usualLimit : Nat := 1024

/-- The variables if nothing else is said. -/
def usualVariables : Variables :=
  [(Text.bytesOf "PATH", Text.bytesOf "/usr/bin:/bin"), (Text.bytesOf "HOME", scratch),
   (Text.bytesOf "LC_ALL", Text.bytesOf "C"), (Text.bytesOf "TERM", Text.bytesOf "dumb")]

/-- The directories of every machine. -/
def usualDirectories : List String :=
  ["/usr/bin", "/usr/include", "/usr/lib", "/usr/local/bin", "/usr/share", "/boot", "/dev", "/etc",
   "/home", "/media", "/mnt", "/opt", "/proc", "/root", "/run", "/srv", "/sys", "/var/log",
   "/var/tmp", "/tmp"]

/-- The symbolic links of every machine, each with its target. -/
def usualLinks : List (String × String) :=
  [("/bin", "usr/bin"), ("/lib", "usr/lib"), ("/sbin", "usr/bin"), ("/usr/sbin", "bin")]

/-- The devices of every machine. Which bytes come from the last two does not matter here. -/
def usualDevices : List (String × Device) :=
  [("null", .null), ("zero", .zero), ("full", .full), ("tty", .terminal), ("random", .zero),
   ("urandom", .zero)]

/-- The directories with permission bits of their own. Everybody may make names in the last two,
and remove what is theirs. -/
def usualModes : List (String × Nat) :=
  [("/root", 0o700), ("/proc", 0o555), ("/sys", 0o555), ("/tmp", 0o1777), ("/var/tmp", 0o1777)]

/-- The store after devices have been made. -/
def addDevices (files : Files) : Files :=
  match files.find Files.root (Text.bytesOf "/dev") with
  | .error _ => files
  | .ok directory =>
      usualDevices.foldl (fun files device =>
        match files.enter ⟨directory, Text.bytesOf device.1, none⟩
            { content := .device device.2, mode := 0o666 } with
        | .ok (_, grown) => grown
        | .error _ => files) files

/-- The store of a machine that runs the programs of an ordinary user: all is there before, and
belongs to somebody else but for the directory in which programs run. -/
def usualFiles : Files :=
  let seeds : List Files.Seed :=
    usualDirectories.map (fun path => .directory (Text.bytesOf path))
      ++ usualLinks.map (fun link => .link (Text.bytesOf link.1) (Text.bytesOf link.2))
      ++ Utility.all.map fun entry =>
          .file (Text.bytesOf ("/usr/bin/" ++ entry.1)) (Utility.image entry.1) 0o755
  let planted := seeds.foldl (fun files seed => files.plant Files.root seed) Files.empty
  let dated := usualModes.foldl (fun files entry =>
    files.orKeep (files.setMode Files.root (Text.bytesOf entry.1) entry.2)) (addDevices planted)
  let theirs : Files :=
    { dated with nodes := dated.nodes.map fun (node : Node) => { node with owned := false } }
  let fixed := match theirs.find Files.root (Text.bytesOf "/proc") with
    | .ok directory => { theirs with fixed := [directory] }
    | .error _ => theirs
  fixed.plant Files.root (.directory scratch)

/-- What a program finds. -/
structure Setup where
  /-- What is put into its directory. -/
  seeds : List Files.Seed := []
  /-- Variables that have other values than usual, or none. -/
  bindings : List (Bytes × Option Bytes) := []
  /-- What its standard input holds. -/
  input : Bytes := []
  /-- Its standard input is a terminal at which that is typed. -/
  terminal : Bool := false
  /-- How many files a process may have open. -/
  limit : Nat := usualLimit
  deriving DecidableEq, Repr, Inhabited

/-- The variables after one has been set or removed. -/
def changeVariable (bindings : Variables) (change : Bytes × Option Bytes) : Variables :=
  match change.2 with
  | some value => Utility.Environment.set bindings change.1 value
  | none => bindings.filter fun entry => entry.1 != change.1

/-- A machine on which a program runs, and where its output goes. -/
structure Machine (α : Type) where
  /-- The machine. -/
  system : System α
  /-- The file that receives standard output. -/
  output : NodeId
  /-- The file that receives standard error. -/
  errors : NodeId
  /-- The directory that was set up for the program. -/
  home : NodeId

variable {α : Type}

/-- A machine that is about to run a program. -/
def boot (setup : Setup) (program : Prog α) : Machine α :=
  let home := match usualFiles.find Files.root scratch with
    | .ok id => id
    | .error _ => Files.root
  let planted := setup.seeds.foldl (fun files seed => files.plant home seed) usualFiles
  let fresh (bytes : Bytes) : Node := { content := .regular bytes, mode := 0o644 }
  let guarded := { planted with guarded := true, time := startOfTime }
  let (input, files) := guarded.add (fresh setup.input)
  let (output, files) := files.add (fresh [])
  let (errors, files) := files.add (fresh [])
  let stdin : Handle :=
    ⟨if setup.terminal then .terminal else .node input, { read := true }, 0⟩
  let writing : Access := { write := true, append := true }
  let process : Process α :=
    { pid := firstPid
      parent := 0
      program := program
      table := [(Fd.stdin, ⟨stdin, false⟩), (Fd.stdout, ⟨⟨.node output, writing, 1⟩, false⟩),
        (Fd.stderr, ⟨⟨.node errors, writing, 2⟩, false⟩)]
      limit := setup.limit
      directory := home
      bindings := setup.bindings.foldl changeVariable usualVariables
      pending := []
      ending := none }
  { system :=
      { files := files
        cells := [0, 0, 0]
        pipes := []
        typed := if setup.terminal then Terminal.pieces setup.input else []
        processes := [process]
        nextPid := firstPid + 1 }
    output := output
    errors := errors
    home := home }

namespace Machine

/-- More rounds than any run here needs. -/
def manyRounds : Nat := Nat.pow 2 48

/-- The machine after its first process has done all it can. -/
def settle (machine : Machine α) : Machine α :=
  { machine with
    system := machine.system.run Utility.launch firstPid manyRounds firstPid }

/-- The first process. -/
def first? (machine : Machine α) : Option (Process α) := machine.system.process? firstPid

/-- The value of the first process, if it has one. -/
def value? (machine : Machine α) : Option α :=
  machine.first?.bind fun process =>
    match process.program with
    | .pure value => some value
    | _ => none

/-- How the first process has ended, if it has. -/
def ending? (machine : Machine α) : Option Ending := machine.first?.bind Process.ending

/-- What was written to standard output. -/
def written (machine : Machine α) : Bytes := machine.system.files.bytesAt machine.output

/-- What was written to standard error. -/
def complaints (machine : Machine α) : Bytes := machine.system.files.bytesAt machine.errors

/-- What lies in the directory that was set up. -/
def listing (machine : Machine α) : List (Bytes × Files.Listed) :=
  machine.system.files.listing machine.home

/-- The path of the directory of the first process, unless it has been removed. -/
def directory? (machine : Machine α) : Option Bytes :=
  machine.first?.bind fun process =>
    match machine.system.files.pathOf process.directory with
    | .ok path => some path
    | .error _ => none

/-- The machine whose first process has another program before it. -/
def resume (machine : Machine α) (program : Prog α) : Machine α :=
  match machine.first? with
  | some process =>
      { machine with system := machine.system.setProcess { process with program := program } }
  | none => machine

end Machine

/-- The machine after a program has run on it. What the program still holds back is written. -/
def run (setup : Setup) (program : Prog α) : Machine α :=
  (boot setup (do
    let value ← program
    let _ ← Prog.call .flush
    return value)).settle

/-! ## Sessions -/

/-- What came of a line of a session. -/
structure LineResult where
  /-- What the shell says of it. -/
  verdict : Except ExecFailure Verdict
  /-- What was written to standard output. -/
  written : Bytes
  /-- What was written to standard error. -/
  complaints : Bytes
  /-- The directory afterwards. -/
  directory? : Option Bytes
  /-- The shell has been told to stop. -/
  exiting : Bool

/-- What a line leaves in the first process of a session. -/
abbrev SessionValue := Except ExecFailure Verdict × Environment

/-- Runs lines one after another, whether or not the shell has been told to stop. -/
def runLines (shell : Shell) : Machine SessionValue → List String →
    List LineResult × Machine SessionValue
  | machine, [] => ([], machine)
  | machine, line :: rest =>
      let environment := match machine.value? with
        | some (_, environment) => environment
        | none => ⟨Path.here, false⟩
      let after := (machine.resume (do
        let value ← shell.runLine environment line
        let _ ← Prog.call .flush
        return value)).settle
      let result : LineResult :=
        match after.value? with
        | some (verdict, environment) =>
            { verdict := verdict
              written := after.written.drop machine.written.length
              complaints := after.complaints.drop machine.complaints.length
              directory? := after.directory?
              exiting := environment.exiting }
        | none => ⟨.ok .blank, [], [], none, true⟩
      let (more, last) := runLines shell after rest
      (result :: more, last)

/-- Runs the lines of a session. -/
def session (setup : Setup) (shell : Shell) (lines : List String) :
    List LineResult × Machine SessionValue :=
  runLines shell (run setup (do return (.ok .blank, ← Environment.capture))) lines

/-- Runs the shell as a program. -/
def commandLine (setup : Setup) (arguments : List String) : Machine Empty :=
  (boot setup (CommandLine.program arguments)).settle

/-- Runs a script in a shell with the given commands, and tells whether the shell has been told to
stop. -/
def script (setup : Setup) (shell : Shell) (input : Bytes) :
    Machine (Except Breakdown Unit × Environment) :=
  run setup (do shell.runScript (← Environment.capture) input)

end LineShell.Host
