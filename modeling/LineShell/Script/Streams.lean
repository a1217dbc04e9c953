import LineShell.Script.Expansion

/-!
# Streams of commands

- **`Streams.goals`** finds out where streams are to lead.
- **`Streams.redirect`** lets them lead there, and **`Streams.restore`** undoes that.
-/

namespace LineShell.Script.Streams

open Activity

/-- A stream as it was: the number under which it is kept, if it was open. -/
structure Kept where
  /-- The stream. -/
  fd : Fd
  /-- The number under which it is kept. -/
  spare : Option Fd
  deriving DecidableEq, Repr, Inhabited

/-- The least number under which a stream is kept. -/
def leastSpare : Fd := 10

/-- Where a stream is to lead. -/
inductive Goal where
  /-- To a file. -/
  | file (use : FileUse) (path : Bytes)
  /-- Where another stream leads, or nowhere. -/
  | same (source : Option Fd)
  /-- From a text. -/
  | document (bytes : Bytes)
  deriving DecidableEq, Repr, Inhabited

/-! ## Finding out -/

/-- The stream that a text names. That it names none is put down to the line that has been read
last. -/
def source (text : Bytes) : Activity (Option Fd) := do
  let refuse : Activity (Option Fd) := do
    modify fun known => { known with line := known.lineRead }
    failWith "Syntax error: Bad fd number"
  match text with
  | [45] => return none
  | [digit] => if Text.isDigit digit then return some (digit.toNat - 48) else refuse
  | _ => refuse

/-- Where a route leads. -/
def goal (capture : Capture) (route : Route) : Activity Goal := do
  match route with
  | .file use path => return .file use (← Expansion.text capture { tilde := true } path)
  | .same fd => return .same fd
  | .sameAs word =>
      match ← Expansion.fields capture word with
      | [] => failWith "redir error"
      | text :: _ => return .same (← source text)
  | .document number =>
      match (← get).documents.lookup number with
      | some word => return .document (← Expansion.document capture word)
      | none => return .document []

/-- Where streams are to lead. -/
def goals (capture : Capture) (routes : List Redirection) : Activity (List (Fd × Goal)) :=
  routes.mapM fun (fd, route) => do return (fd, ← goal capture route)

/-! ## Leading there -/

/-- The reason for which a file cannot be opened; one word stands for two that name a missing part
of the path. -/
def reason (missing : String) (errno : Errno) : Bytes :=
  Text.bytesOf (if errno == .noEntry || errno == .notDirectory then missing else errno.message)

/-- Complains that a file cannot be read. -/
def cannotOpen {α : Type} (path : Bytes) (errno : Errno) : Activity α :=
  fail (Text.bytesOf "cannot open " ++ path ++ Text.bytesOf ": " ++ reason "No such file" errno)

/-- Complains that a file cannot be written. -/
def cannotCreate {α : Type} (path : Bytes) (errno : Errno) : Activity α :=
  fail (Text.bytesOf "cannot create " ++ path ++ Text.bytesOf ": "
    ++ reason "Directory nonexistent" errno)

/-- Opens a file that must not hold anything. -/
def openFresh (path : Bytes) : Activity (Except Errno Fd) := do
  match ← ask (.status path true) with
  | .error _ => ask (.openPath path { write := true, create := true, exclusive := true } false)
  | .ok status =>
      if status.node.isRegular then return .error .alreadyThere
      else ask (.openPath path { write := true } false)

/-- Opens a file. -/
def openFile (use : FileUse) (path : Bytes) : Activity Fd := do
  let result ← match use with
    | .input => ask (.openPath path { read := true } false)
    | .both => ask (.openPath path { read := true, write := true, create := true } false)
    | .append => ask (.openPath path { write := true, create := true, append := true } false)
    | .output =>
        if (← get).has "noclobber" then openFresh path
        else ask (.openPath path { write := true, create := true, truncate := true } false)
    | .overwrite =>
        ask (.openPath path { write := true, create := true, truncate := true } false)
  match result with
  | .ok fd => return fd
  | .error errno => if use == .input then cannotOpen path errno else cannotCreate path errno

/-- Complains that a stream cannot be used. -/
def cannotUse {α : Type} (fd : Fd) (errno : Errno) : Activity α :=
  fail (Text.decimal fd ++ Text.bytesOf (": " ++ errno.message))

/-- Gives up a number. -/
def close (fd : Fd) : Activity Unit := do
  let _ ← ask (.close fd)

/-- Lets a number stand for what another one stands for, which is given up. -/
def plug (fd target : Fd) : Activity Unit := do
  if fd != target then
    let _ ← ask (.duplicate fd target)
    close fd

/-- How much of a text is written to a pipe by the script itself. -/
def pipeSpace : Nat := 4096

/-- Opens a text for reading. -/
def openDocument (leave : Stop → Activity Unit) (bytes : Bytes) : Activity Fd := do
  match ← ask .pipe with
  | .error _ => failWith "Pipe call failed"
  | .ok (reader, writer) =>
      if bytes.length ≤ pipeSpace then
        let _ ← ask (.write writer bytes)
      else
        let _ ← startProcess leave none false (do
          close reader
          let _ ← ask (.write writer bytes)
          modify fun known => { known with status := 0 })
      close writer
      match ← ask (.duplicateAbove reader leastSpare) with
      | .ok spare =>
          close reader
          return spare
      | .error _ => return reader

/-- Keeps a stream as it is. -/
def keep (fd : Fd) : Activity Kept := do
  match ← ask (.duplicateAbove fd leastSpare) with
  | .ok spare => return ⟨fd, some spare⟩
  | .error .badDescriptor => return ⟨fd, none⟩
  | .error errno => cannotUse fd errno

/-- Lets a stream lead where it is to lead. -/
def lead (leave : Stop → Activity Unit) (fd : Fd) (goal : Goal) : Activity Unit := do
  let plug (opened : Fd) : Activity Unit := do
    if opened != fd then
      let result ← ask (.duplicate opened fd)
      close opened
      match result with
      | .ok () => return ()
      | .error errno => cannotUse opened errno
  match goal with
  | .file use path => plug (← openFile use path)
  | .document bytes => plug (← openDocument leave bytes)
  | .same none => close fd
  | .same (some other) =>
      if other != fd then
        match ← ask (.duplicate other fd) with
        | .ok () => return ()
        | .error errno =>
            close fd
            cannotUse other errno

/-- Lets streams lead where they are to lead, one after the other, and gives back how they were,
the last one first, and how it came out. -/
def redirect (leave : Stop → Activity Unit) (keeping : Bool) :
    List Kept → List (Fd × Goal) → Activity (List Kept × Except Stop Unit)
  | kept, [] => return (kept, .ok ())
  | kept, (fd, goal) :: rest => do
      let known := kept.any fun other => other.fd == fd
      let spared ← attempt (if keeping && !known then some <$> keep fd else pure none)
      match spared with
      | .error stop => return (kept, .error stop)
      | .ok spared =>
          let kept := spared.toList ++ kept
          match ← attempt (lead leave fd goal) with
          | .error stop => return (kept, .error stop)
          | .ok () => redirect leave keeping kept rest

/-- Lets streams lead again where they led, the last one that was changed first. -/
def restore (kept : List Kept) : Activity Unit :=
  kept.forM fun one => do
    match one.spare with
    | some spare =>
        let _ ← ask (.duplicate spare one.fd)
        close spare
    | none => close one.fd

/-- Forgets how streams were. -/
def forget (kept : List Kept) : Activity Unit :=
  kept.forM fun one =>
    match one.spare with
    | some spare => close spare
    | none => pure ()

/-- The number under which the stream for complaints is kept, or its own. -/
def complaintStream (kept : List Kept) : Fd :=
  ((kept.find? fun one => one.fd == Fd.stderr).bind Kept.spare).getD Fd.stderr

end LineShell.Script.Streams
