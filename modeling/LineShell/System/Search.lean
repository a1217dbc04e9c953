import LineShell.System.Program

/-!
# Finding programs

A name with a slash in it is the path of a program; any other name is looked for in the
directories of `PATH`.

- **`candidates`** lists the paths to try.
- **`Prog.execByName`** tries them in turn. A file that is no program is given to `/bin/sh`.
-/

namespace LineShell.Search

/-- The directories that are searched when there is no `PATH`. -/
def defaultPath : Bytes := Text.bytesOf "/bin:/usr/bin"

/-- The byte that parts the directories of `PATH`. -/
def separator : UInt8 := 58

/-- The program that is given the files that are no programs. -/
def scriptShell : Bytes := Text.bytesOf "/bin/sh"

/-- The name of the variable that lists directories. -/
def pathVariable : Bytes := Text.bytesOf "PATH"

/-- The paths under which a program of that name may be found. An empty directory stands for the
directory of the process. -/
def candidates (path : Option Bytes) (name : Bytes) : List Bytes :=
  if name.contains Path.slash then [name]
  else (Text.cut separator (path.getD defaultPath)).map fun directory =>
    if directory.isEmpty then name else directory ++ Path.slash :: name

/-- A failure after which the next directory is tried. -/
def goesOn (errno : Errno) : Bool :=
  errno == .noEntry || errno == .notDirectory || errno == .accessDenied

/-- Tries paths in turn and gives back why the process could not become any of them. That a
program was found which may not be run outweighs that none was found later. -/
def attempt (arguments : List Bytes) (bindings : Variables) :
    (denied : Bool) → (last : Errno) → List Bytes → Prog Errno
  | denied, last, [] => pure (if denied then .accessDenied else last)
  | denied, _, path :: rest => do
      let errno ← Prog.call (.exec path arguments bindings)
      let errno ←
        if errno == .notExecutable then
          Prog.call (.exec scriptShell (scriptShell :: path :: arguments.tail) bindings)
        else pure errno
      if goesOn errno then attempt arguments bindings (denied || errno == .accessDenied) errno rest
      else pure errno

end LineShell.Search

namespace LineShell.Prog

/-- Becomes the program of that name, or gives back why that is not possible. -/
def execByNameWith (bindings : Variables) (name : Bytes) (arguments : List Bytes) :
    Prog Errno :=
  if name.isEmpty then pure .noEntry
  else
    Search.attempt arguments bindings false .noEntry
      (Search.candidates (bindings.lookup Search.pathVariable) name)

/-- Becomes the program of that name with the variables of the process, or gives back why that is
not possible. -/
def execByName (name : Bytes) (arguments : List Bytes) : Prog Errno := do
  execByNameWith (← call .bindings) name arguments

end LineShell.Prog
