import LineShell.Number.Total
import LineShell.Script.Activity

/-!
# Running a script line by line

A line is run before the next one is read, since it may change what that one means.

- **`Feed`** is a script together with where the rest of it comes from.
- **`runLines`** runs the lines of a feed, and **`runText`** those of a text.
-/

namespace LineShell.Script

open Activity

/-- A script that is being read. -/
structure Feed where
  /-- The state of reading. -/
  reader : Reader
  /-- Where more of it comes from, if it does. -/
  source : Option Fd

namespace Feed

/-- A script that is a text. -/
def ofText (text : Bytes) : Feed :=
  { reader := { input := text, complete := true, line := 1 }, source := none }

/-- A script that comes from an open file. -/
def ofFile (fd : Fd) : Feed :=
  { reader := { input := [], complete := false, line := 1 }, source := some fd }

/-- How many bytes of a script are read at once. -/
def blockLength : Nat := 8192

/-- Reads more of a script. NULs are passed over, and what cannot be read is taken for the end. -/
def extend (feed : Feed) : Activity Feed := do
  let ended := { feed with reader := { feed.reader with complete := true } }
  match feed.source with
  | none => return ended
  | some fd =>
      match ← ask (.read fd blockLength) with
      | .ok [] | .error _ => return ended
      | .ok bytes =>
          let input := feed.reader.input ++ bytes.filter (· != 0)
          return { feed with reader := { feed.reader with input := input } }

/-- Shows what has been read of a script, if that is wanted. -/
def reveal (feed : Feed) (left : Nat) : Activity Unit := do
  if feed.source.isSome && (← get).has "verbose" then
    let input := feed.reader.input
    liftM (Prog.complain (input.take (input.length - left)))

/-- How much is left of a script behind so many lines. -/
def leftBehind (lines : Nat) (input : Bytes) : Nat :=
  Number.total (((Text.lines input).drop lines).map List.length)

end Feed

/-- The command does nothing. -/
def isNothing : Command → Bool
  | .nothing => true
  | _ => false

/-- Runs the lines of a script, until something is to be passed over, and gives the exit code of
the last one. How a line is run may depend on whether the script ends with it. -/
def runLines (go : Runner) (manner : (final : Bool) → Manner) (feed : Feed) : Activity Int :=
  iterate (fun (state : Feed × Int) => do
    let (feed, status) := state
    let known ← get
    let reader := { feed.reader with
      aliases := known.aliases
      documents := []
      nextDocument := known.nextDocument }
    match readLine reader with
    | .more => return .inl (← feed.extend, status)
    | .nothing rest =>
        feed.reveal rest.input.length
        return .inr status
    | .fault line message =>
        feed.reveal (Feed.leftBehind (line + 1 - feed.reader.line) feed.reader.input)
        modify fun known => { known with line := line }
        fail message
    | .command command rest =>
        feed.reveal rest.input.length
        modify fun known => { known with
          lineRead := rest.line
          documents := rest.documents ++ known.documents
          nextDocument := rest.nextDocument }
        let final := rest.again && rest.token == .endOfFile
        let code ← go command (manner final)
        let status := if isNothing command then status else code
        if (← get).skip != .nothing then return .inr status
        return .inl ({ feed with reader := rest }, status)) (feed, 0)

/-- Runs a text as a script. Nothing comes behind it if `last` holds of the manner. -/
def runText (go : Runner) (text : Bytes) (manner : Manner) : Activity Int := do
  let before := (← get).lineRead
  let status ← runLines go (fun final => { manner with last := manner.last && final })
    (.ofText text)
  modify fun known => { known with lineRead := before }
  return status

end LineShell.Script
