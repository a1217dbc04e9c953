import LineShell.Script.Start
import LineShell.Utility.Translate
import LineShell.Utility.Columns
import LineShell.Utility.Relay
import LineShell.Utility.Copying
import LineShell.Utility.Condition
import LineShell.Utility.Count
import LineShell.Utility.Listing
import LineShell.Utility.Edit
import LineShell.Utility.Ends
import LineShell.Utility.Environment
import LineShell.Utility.Moving
import LineShell.Utility.Number
import LineShell.Utility.Permission
import LineShell.Utility.Removing
import LineShell.Utility.Reverse
import LineShell.Utility.Search
import LineShell.Utility.Sequence
import LineShell.Utility.Sort
import LineShell.Utility.Sum
import LineShell.Utility.Unique
import LineShell.Utility.Writers

/-!
# The catalogue of utilities

- **`all`** lists the utilities by name.
- **`launch`** turns the bytes of a utility's file into the utility.
-/

namespace LineShell.Utility

/-- The utilities by name. -/
def all : List (String × Utility) :=
  [("[", bracket), ("basename", basename), ("cat", cat), ("chmod", chmod), ("cp", cp),
   ("cut", cut), ("dash", Script.sh), ("dirname", dirname), ("echo", echo), ("env", env),
   ("expr", expr), ("false", fail), ("grep", grep), ("head", head), ("ln", ln), ("ls", ls),
   ("mkdir", mkdir), ("mv", mv), ("nl", nl), ("printenv", printenv), ("printf", printf),
   ("pwd", pwd), ("rev", rev), ("rm", rm), ("rmdir", rmdir), ("sed", sed), ("seq", seq),
   ("sh", Script.sh), ("sleep", sleep), ("sort", sort), ("tac", tac), ("tail", tail),
   ("tee", tee), ("test", test), ("touch", touch), ("tr", tr), ("true", succeed),
   ("uniq", uniq), ("wc", wc), ("yes", yes)]

/-- What the file of a utility begins with. -/
def mark : Bytes := 127 :: text "ELF"

/-- The bytes of the file of a utility. -/
def image (name : String) : Bytes := mark ++ text name

/-- The utility whose file holds the given bytes, on its way to its exit code. -/
def launch (bytes : Bytes) (arguments : List Bytes) : Option (Prog Empty) :=
  (all.find? fun entry => image entry.1 == bytes).map fun entry =>
    (entry.2 arguments).bind Prog.exit

end LineShell.Utility
