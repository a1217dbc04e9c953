import LineShell.System.Path
import LineShell.Text.Ascii
import LineShell.Utility.Options

/-!
# Backups

A file that would be replaced can be kept under another name: its own with a suffix, or with a
number one greater than those of all backups that are there.

- **`Backup.choose`** tells from options and variables how backups are made.
- **`Backup.nameFor`** finds the name of a backup.
-/

namespace LineShell.Utility.Backup

/-- How backups are named. -/
inductive Manner where
  /-- None are made. -/
  | none
  /-- With a suffix. -/
  | simple
  /-- With a number if there are backups with numbers, otherwise with a suffix. -/
  | existing
  /-- With a number. -/
  | numbered
  deriving DecidableEq, Repr, Inhabited

/-- What options say about backups. -/
structure Wish where
  /-- Backups are wanted. -/
  isGiven : Bool := false
  /-- The word for how they are named. -/
  control : Option Bytes := none
  /-- The suffix. -/
  suffix : Option Bytes := none
  deriving Repr, Inhabited

/-- The names of the options for backups. -/
def names : List (String × String) := [("backup::", "b"), ("suffix:", "S")]

/-- A wish with what an option says, if it is about backups. -/
def Wish.with? (wish : Wish) (key : String) (value : Option Bytes) : Option Wish :=
  match key with
  | "b" => some { wish with isGiven := true, control := value <|> wish.control }
  | "S" => some { wish with isGiven := true, suffix := value }
  | _ => none

/-- How backups are made. -/
structure Plan where
  /-- How they are named. -/
  manner : Manner := .none
  /-- The suffix. -/
  suffix : Bytes := text "~"
  deriving DecidableEq, Repr, Inhabited

/-- The words for how backups are named. -/
def words : List (String × Manner) :=
  [("none", .none), ("off", .none), ("simple", .simple), ("never", .simple),
   ("existing", .existing), ("nil", .existing), ("numbered", .numbered), ("t", .numbered)]

/-- How backups are named that are wanted: as a word tells, or else as a variable tells. -/
def mannerOf (control usual : Bytes) : Except Complaint Manner :=
  if !control.isEmpty then choice "backup type" words control
  else if !usual.isEmpty then choice "$VERSION_CONTROL" words usual
  else .ok .existing

/-- How backups are made, given the variables. -/
def choose (wish : Wish) (bindings : Variables) : Except Complaint Plan := do
  let valueOf (name : String) : Bytes := (bindings.lookup (text name)).getD []
  let manner ← if wish.isGiven then mannerOf (wish.control.getD []) (valueOf "VERSION_CONTROL")
    else pure .none
  let suffix := wish.suffix.getD (valueOf "SIMPLE_BACKUP_SUFFIX")
  return { manner, suffix := if suffix.isEmpty || suffix.contains Path.slash then text "~"
    else suffix }

/-- The number of a backup of a file with some name. -/
def number? (name entry : Bytes) : Option Nat :=
  let start := name ++ text ".~"
  if !start.isPrefixOf entry || entry.getLast? != some 126 then none
  else
    let digits := (entry.drop start.length).dropLast
    if digits.isEmpty || !digits.all Text.isDigit || digits.head? == some 48 then none
    else some (Text.valueOf 10 digits)

/-- The path of the backup of a file. -/
def nameFor (plan : Plan) (path : Bytes) : Prog Bytes := do
  let name := (path.reverse.takeWhile (· != Path.slash)).reverse
  let directory := path.take (path.length - name.length)
  let entries ← if plan.manner == .simple then pure [] else do
    match ← Prog.call (.names (if directory.isEmpty then Path.here else directory)) with
    | .ok entries => pure entries
    | .error _ => pure []
  let greatest := ((entries.filterMap (number? name)).max?).getD 0
  if plan.manner == .numbered || greatest ≠ 0 then
    return path ++ text ".~" ++ Text.decimal (greatest + 1) ++ text "~"
  else return path ++ plan.suffix

end LineShell.Utility.Backup
