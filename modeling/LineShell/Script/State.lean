import LineShell.Number.Total
import LineShell.Script.Grammar
import LineShell.System.Program

/-!
# What a script knows

- **`Variable`** is a variable with what is known of it, and **`Variables.environment`** lists those
  that programs receive.
- **`Knowledge`** is all that a script knows while it runs.
-/

namespace LineShell.Script

/-! ## Variables -/

/-- A variable. -/
structure Variable where
  /-- Its name. -/
  name : Bytes
  /-- Its value, if it has one. -/
  value : Option Bytes
  /-- Programs receive it. -/
  exported : Bool := false
  /-- It keeps its value. -/
  fixed : Bool := false
  deriving DecidableEq, Repr, Inhabited

/-- How many rows the table of variables has. -/
def variableRows : Nat := 39

/-- The row of a name in a table with so many rows. -/
def row (rows : Nat) (name : Bytes) : Nat :=
  ((name.headD 0).toNat * 16 + Number.total (name.map UInt8.toNat)) % rows

/-- Entries row by row, in each row those that came first before the others. -/
def byRow {α : Type} (rows : Nat) (nameOf : α → Bytes) (entries : List α) : List α :=
  (List.range rows).flatMap fun number =>
    entries.filter fun entry => row rows (nameOf entry) == number

/-- The variables of a script, in the order in which they came. -/
abbrev Store := List Variable

namespace Store

/-- A variable. -/
def find (store : Store) (name : Bytes) : Option Variable :=
  store.find? fun entry => entry.name == name

/-- The value of a variable. -/
def get? (store : Store) (name : Bytes) : Option Bytes := (store.find name).bind Variable.value

/-- The store in which a variable is as given. -/
def put (store : Store) (changed : Variable) : Store :=
  if store.any fun entry => entry.name == changed.name then
    store.map fun entry => if entry.name == changed.name then changed else entry
  else store ++ [changed]

/-- The store without a variable. -/
def erase (store : Store) (name : Bytes) : Store :=
  store.filter fun entry => entry.name != name

/-- The variables that programs receive. -/
def environment (store : Store) : LineShell.Variables :=
  (byRow variableRows Variable.name store).filterMap fun entry =>
    if entry.exported then entry.value.map fun value => (entry.name, value) else none

end Store

/-! ## Options -/

/-- The options of a script, with their letters if they have one. -/
def optionTable : List (String × Option Char) :=
  [("errexit", some 'e'), ("noglob", some 'f'), ("ignoreeof", some 'I'), ("interactive", some 'i'),
   ("monitor", some 'm'), ("noexec", some 'n'), ("stdin", some 's'), ("xtrace", some 'x'),
   ("verbose", some 'v'), ("vi", some 'V'), ("emacs", some 'E'), ("noclobber", some 'C'),
   ("allexport", some 'a'), ("notify", some 'b'), ("nounset", some 'u'), ("privileged", some 'p'),
   ("nolog", none), ("debug", none)]

/-! ## Processes -/

/-- A task of several processes. -/
structure Job where
  /-- Its number. -/
  number : Nat
  /-- Its processes, and how they have ended. -/
  members : List (Pid × Option Ending)
  /-- It is not waited for. -/
  apart : Bool
  /-- Its end has been taken account of. -/
  waited : Bool := false
  deriving DecidableEq, Repr, Inhabited

namespace Job

/-- All its processes have ended. -/
def done (job : Job) : Bool := job.members.all fun entry => entry.2.isSome

/-- What is added to the number of a signal that has killed a command. -/
def signalBase : Int := 128

/-- The exit code that an ending stands for. -/
def codeOf : Ending → Int
  | .exited code => code
  | .killed signal => signalBase + signal

/-- How its last process has ended, if it has. -/
def ending? (job : Job) : Option Ending := job.members.getLast?.bind Prod.snd

/-- The exit code of its last process. -/
def code (job : Job) : Int := (job.ending?.map codeOf).getD 0

/-- The job after one of its processes has ended. -/
def settle (job : Job) (pid : Pid) (ending : Ending) : Job :=
  { job with members := job.members.map fun entry =>
      if entry.1 == pid then (pid, some ending) else entry }

end Job

/-! ## The whole -/

/-- What is passed over. -/
inductive Skip where
  /-- Nothing is. -/
  | nothing
  /-- The rest of some loops is. -/
  | breaks (loops : Nat)
  /-- The rest of some loops is, but the last one goes on. -/
  | continues (loops : Nat)
  /-- The rest of a function or a file is. -/
  | returns (named : Bool)
  deriving DecidableEq, Repr, Inhabited

/-- A function. -/
structure Function where
  /-- Its name. -/
  name : Bytes
  /-- What it does. -/
  body : Command
  deriving Inhabited

/-- A program that has been found. -/
structure Located where
  /-- The name under which it was looked for. -/
  name : Bytes
  /-- Its place among the paths to try. -/
  place : Nat
  /-- The directory has changed since. -/
  stale : Bool := false
  deriving DecidableEq, Repr, Inhabited

/-- What a function has changed, as it was before. -/
inductive Saved where
  /-- A variable, if there was one of that name. -/
  | variable (name : Bytes) (before : Option Variable)
  /-- The options. -/
  | options (before : List String)
  deriving DecidableEq, Repr, Inhabited

/-- What a script knows. -/
structure Knowledge where
  /-- The name of the script. -/
  name : Bytes
  /-- Its arguments. -/
  arguments : List Bytes := []
  /-- The script is one of the arguments that the process has got. -/
  dictated : Bool := false
  /-- Its variables. -/
  store : Store := []
  /-- What belongs to the commands under way as it was before, for each of them. -/
  locals : List (List Saved) := []
  /-- Its functions. -/
  functions : List Function := []
  /-- The words that stand for others. -/
  aliases : List (Bytes × Bytes) := []
  /-- The options that are on. -/
  options : List String := []
  /-- The documents by their numbers. -/
  documents : List (Nat × Word) := []
  /-- The number of the next document. -/
  nextDocument : Nat := 0
  /-- How the last command ended. -/
  status : Int := 0
  /-- How the last command within a word ended. -/
  innerStatus : Int := 0
  /-- How the last command ended before something came in between. -/
  savedStatus : Option Int := none
  /-- The line of the command under way. -/
  line : Nat := 0
  /-- The line up to which the script has been read. -/
  lineRead : Nat := 0
  /-- The name of the command under way that the script runs by itself. -/
  command : Option Bytes := none
  /-- The number of the process that began to run the script. -/
  pid : Pid := 0
  /-- The number of the last process that was not waited for. -/
  lastApart : Option Pid := none
  /-- The tasks. -/
  jobs : List Job := []
  /-- How many loops are under way. -/
  loops : Nat := 0
  /-- How many functions are under way. -/
  calls : Nat := 0
  /-- What is passed over. -/
  skip : Skip := .nothing
  /-- What is done about signals, and at the end, by the number 0. -/
  traps : List (Signal × Bytes) := []
  /-- The signals about which nothing can be done. -/
  ignored : List Signal := []
  /-- The signals about which the script has said what is done. -/
  arranged : List Signal := []
  /-- Some signals may have been taken note of. -/
  catching : Bool := false
  /-- The signals that have been taken note of and call for something to be done. -/
  pending : List Signal := []
  /-- Which argument is looked at next for options, and how far the last one has been looked
  at. -/
  optionPlace : Nat × Option Nat := (1, none)
  /-- The path of the directory, as it was reached. -/
  directory : Bytes := []
  /-- The programs that have been found. -/
  located : List Located := []
  /-- What is to be written, the last piece first. -/
  output : List Bytes := []
  deriving Inhabited

namespace Knowledge

/-- An option is on. -/
def has (known : Knowledge) (option : String) : Bool := known.options.contains option

/-- The knowledge with an option on or off. -/
def setOption (known : Knowledge) (option : String) (on : Bool) : Knowledge :=
  let others := known.options.filter (· != option)
  { known with options := if on then option :: others else others }

/-- The letters of the options that are on. -/
def optionLetters (known : Knowledge) : Bytes :=
  Text.bytesOf (String.ofList (optionTable.reverse.filterMap fun (option, letter) =>
    if known.has option then letter else none))

/-- The directories that are searched for programs unless something else is said. -/
def usualPath : Bytes :=
  Text.bytesOf "/usr/local/sbin:/usr/local/bin:/usr/sbin:/usr/bin:/sbin:/bin"

/-- The bytes at which values are taken apart unless a script says otherwise. -/
def blankSeparators : Bytes := [32, 9, 10]

/-- The bytes at which values are taken apart. -/
def separators (known : Knowledge) : Bytes :=
  (known.store.get? (Text.bytesOf "IFS")).getD blankSeparators

/-- The value of a variable. -/
def get? (known : Knowledge) (name : String) : Option Bytes :=
  known.store.get? (Text.bytesOf name)

/-- The directories that are searched for programs. -/
def searchPath (known : Knowledge) : Bytes := (known.get? "PATH").getD []

/-- The knowledge after a variable has got a value or lost it, as far as something hangs on it. -/
def heed (known : Knowledge) (name : Bytes) (value : Option Bytes) : Knowledge :=
  if name == Text.bytesOf "OPTIND" then
    { known with optionPlace := (max 1 ((Text.number? (value.getD [])).getD 1), none) }
  else if name == Text.bytesOf "PATH" then { known with located := [] }
  else known

/-- The function with a name. -/
def function? (known : Knowledge) (name : Bytes) : Option Function :=
  known.functions.find? fun function => function.name == name

/-- The beginning of a complaint. -/
def complaintStart (known : Knowledge) : Bytes :=
  known.name ++ Text.bytesOf ": " ++ Text.decimal known.line ++ Text.bytesOf ": "
    ++ (match known.command with
      | some command => command ++ Text.bytesOf ": "
      | none => [])

end Knowledge

end LineShell.Script
