import LineShell.System.Errno

/-!
# Failures of a pipeline

The reasons for which a well-formed line cannot be run.

- **`message`** is the text of a failure.
- **`fatal`** holds of the failures after which nothing can be run.
-/

namespace LineShell

/-- Why a file cannot be opened. -/
inductive OpenFailure where
  /-- The system refuses. -/
  | system (errno : Errno)
  /-- The name holds a NUL, so it is the name of no file. -/
  | nul
  deriving DecidableEq, Repr, Inhabited

/-- The text of the reason. -/
def OpenFailure.message : OpenFailure → String
  | .system errno => errno.report
  | .nul => "file name contained an unexpected NUL byte"

/-- A word that holds a NUL: no program can receive it. -/
structure NulWord where
  /-- The byte at which the first NUL stands. -/
  position : Nat
  deriving DecidableEq, Repr, Inhabited

/-- The text of the complaint. -/
def NulWord.message (word : NulWord) : String :=
  "nul byte found in provided data at position: " ++ toString word.position

/-- Why a pipeline cannot be run. -/
inductive ExecFailure where
  /-- A pipe cannot be made. -/
  | pipe (errno : Errno)
  /-- A process cannot be made. -/
  | fork (errno : Errno)
  /-- A process cannot be waited for. -/
  | wait (errno : Errno)
  /-- The file of the redirection cannot be opened. -/
  | target (path : String) (cause : OpenFailure)
  /-- An argument holds a NUL. -/
  | nul (word : NulWord)
  deriving DecidableEq, Repr, Inhabited

namespace ExecFailure

/-- The text of a failure. -/
def message : ExecFailure → String
  | .pipe errno => "pipe: " ++ errno.describe
  | .fork errno => "fork: " ++ errno.describe
  | .wait errno => "waitpid: " ++ errno.describe
  | .target path cause => "cannot open " ++ path ++ ": " ++ cause.message
  | .nul word => "argument contains a nul byte: " ++ word.message

/-- The error number behind a failure of the plumbing. -/
def cause? : ExecFailure → Option Errno
  | .pipe errno | .fork errno | .wait errno => some errno
  | _ => none

/-- After this failure the shell can run nothing, so it stops. -/
def fatal (failure : ExecFailure) : Bool := failure.cause?.isSome

end ExecFailure

end LineShell
