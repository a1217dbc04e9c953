/-!
# Faults of a command line

The reasons for which a line is refused before anything runs.
-/

namespace LineShell

/-- Why a line is refused. -/
inductive LineFault where
  /-- Some stage has no program: the line begins with an operator, ends with a pipe, or two pipes
  enclose no word. -/
  | missingCommand
  /-- The redirection at the end of the line names no file. -/
  | noOutputFile
  /-- A redirection stands anywhere but at the end of the line. -/
  | mislocatedRedirection
  /-- The file of the redirection cannot be opened for writing. -/
  | cannotOpenFile
  /-- A stage has more words than the limit allows. -/
  | tooManyArguments
  deriving DecidableEq, Repr, Inhabited

/-- The text of a fault, as it stands after `Error: `. -/
def LineFault.message : LineFault → String
  | .missingCommand => "missing command"
  | .noOutputFile => "no output file"
  | .mislocatedRedirection => "mislocated output redirection"
  | .cannotOpenFile => "cannot open output file"
  | .tooManyArguments => "too many arguments"

end LineShell
