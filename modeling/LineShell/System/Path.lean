import LineShell.Text.Bytes

/-!
# Paths

A path is a list of names, to be followed from the root or from the directory of the process.

- **`parse`** reads a path. A slash at its end becomes an empty last name, which, like `.`, can
  only be followed in a directory.
-/

namespace LineShell

/-- The names of a path, and where it starts. -/
structure Path where
  /-- It starts at the root, not at the directory of the process. -/
  absolute : Bool
  /-- The names, the last one empty when a slash ends the path. -/
  names : List Bytes
  deriving DecidableEq, Repr, Inhabited

namespace Path

/-- The byte that parts the names of a path. -/
def slash : UInt8 := 47

/-- The name of a directory within itself. -/
def here : Bytes := [46]

/-- The name of its parent within a directory. -/
def up : Bytes := [46, 46]

/-- The longest name that a directory can hold, in bytes. -/
def longestName : Nat := 255

/-- The longest path that the system reads, in bytes. -/
def longest : Nat := 4095

/-- The path that bytes spell. -/
def parse (bytes : Bytes) : Path :=
  let names := (Text.cut slash bytes).filter fun name => !name.isEmpty
  let closed := bytes.getLast? == some slash && !names.isEmpty
  ⟨bytes.head? == some slash, if closed then names ++ [[]] else names⟩

/-- The absolute path that leads through the given names. -/
def absoluteOf (names : List Bytes) : Bytes :=
  if names.isEmpty then [slash] else names.flatMap fun name => slash :: name

/-- A path without the slashes at its end, if more than those is left. -/
def bare (path : Bytes) : Bytes :=
  let stripped := (path.reverse.dropWhile (· == slash)).reverse
  if stripped.isEmpty then path else stripped

/-- What comes behind the last slash of a path. -/
def lastName (path : Bytes) : Bytes := (path.reverse.takeWhile (· != slash)).reverse

/-- The last name of a path without the slashes at its end. -/
def entryName (path : Bytes) : Bytes := lastName (bare path)

/-- A path that starts at the root as it stands, any other below the given directory. -/
def join (directory path : Bytes) : Bytes :=
  if path.head? == some slash then path
  else if directory.getLast? == some slash then directory ++ path
  else directory ++ slash :: path

end Path

end LineShell
