import LineShell.Line.Pipeline

/-!
# The structure of a line

The checks that a line passes before its file is touched, in the order in which they decide.

- **`lacksCommand`**: some stage has no word, or the line begins with a redirection.
- **`lacksFile`**: the line ends with a redirection that names no file.
- **`misplacesRedirection`**: a redirection is followed by something.
- **`check`** reports the first of them that holds.
-/

namespace LineShell.Structure

/-- The line begins with a redirection, or some stage has no word. -/
def lacksCommand (tokens : List Token) : Bool :=
  tokens.head?.any Token.isRedirect
    || (Pipeline.chunks tokens).any fun chunk => !chunk.any Token.isWord

/-- The redirection at the end of the line, if the line ends with one. -/
def target? (tokens : List Token) : Option Target :=
  match tokens.getLast? with
  | some (.redirect mode path) => some ⟨path, mode⟩
  | _ => none

/-- The line ends with a redirection that names no file. -/
def lacksFile (tokens : List Token) : Bool :=
  (target? tokens).any fun target => target.path.isEmpty

/-- A redirection stands before the end of the line. -/
def misplacesRedirection (tokens : List Token) : Bool := tokens.dropLast.any Token.isRedirect

/-- The first fault in the structure of a line. -/
def check (tokens : List Token) : Except LineFault Unit :=
  if lacksCommand tokens then .error .missingCommand
  else if lacksFile tokens then .error .noOutputFile
  else if misplacesRedirection tokens then .error .mislocatedRedirection
  else .ok ()

end LineShell.Structure
