import LineShell.Number.Total
import LineShell.Utility.Options

/-!
# Inputs that are read bit by bit

An input may have no end, so most utilities write what comes of its beginning before they have
seen the rest.

- **`Reader`** hands out the lines of an open file.
- **`Pass`** is what a utility does with one line after another, and **`Pass.run`** carries it out
  on several files.
-/

namespace LineShell.Utility

/-- How many bytes are read at once. -/
def blockSize : Nat := 65536

/-- The lines in some bytes that have ended, and the beginning of the one that has not. -/
def endedLines (delimiter : UInt8) (bytes : Bytes) : List Bytes × Bytes :=
  let lines := Text.linesBy delimiter bytes
  match lines.getLast? with
  | some last => if last.getLast? == some delimiter then (lines, []) else (lines.dropLast, last)
  | none => ([], [])

/-- A line without the delimiter at its end. -/
def withoutDelimiter (delimiter : UInt8) (line : Bytes) : Bytes :=
  if line.getLast? == some delimiter then line.dropLast else line

/-- A line has ended. -/
def hasEnded (delimiter : UInt8) (line : Bytes) : Bool := line.getLast? == some delimiter

/-! ## Lines of an open file -/

/-- An open file that is read line by line. -/
structure Reader where
  /-- The open file. -/
  fd : Fd
  /-- The byte that ends a line. -/
  delimiter : UInt8 := newline
  /-- The lines that were read and not handed out. -/
  lines : List Bytes := []
  /-- The beginning of a line whose end has not been read. -/
  rest : Bytes := []
  /-- Nothing is left to be read. -/
  ended : Bool := false
  /-- How many bytes are read at once. -/
  block : Nat := blockSize
  deriving Repr, Inhabited

namespace Reader

/-- The next line with its delimiter, which only the last one can lack, unless none is left. -/
def next : Reader → Prog (Except Errno (Option Bytes) × Reader) :=
  Prog.iterate fun reader => do
    match reader.lines with
    | line :: lines => return .inr (.ok (some line), { reader with lines := lines })
    | [] =>
        if reader.ended then
          return .inr (.ok (if reader.rest.isEmpty then none else some reader.rest),
            { reader with rest := [] })
        match ← Prog.call (.read reader.fd reader.block) with
        | .error errno => return .inr (.error errno, { reader with ended := true })
        | .ok [] => return .inl { reader with ended := true }
        | .ok bytes =>
            let (lines, rest) := endedLines reader.delimiter (reader.rest ++ bytes)
            return .inl { reader with lines := lines, rest := rest }

/-- Reads on until a line is there, and tells whether there is none. -/
def atEnd (reader : Reader) : Prog (Bool × Reader) := do
  match reader.lines with
  | _ :: _ => return (false, reader)
  | [] =>
      match ← reader.next with
      | (.ok (some line), reader) => return (false, { reader with lines := line :: reader.lines })
      | (_, reader) => return (true, reader)

/-- How many bytes were read and not handed out. -/
def ahead (reader : Reader) : Nat :=
  Number.total (reader.lines.map List.length) + reader.rest.length

/-- Gives what was not handed out back to a file that has a position. -/
def giveBack (reader : Reader) : Prog Unit := do
  if reader.ahead > 0 then
    let _ ← Prog.call (.seek reader.fd (.back reader.ahead))

end Reader

/-! ## Output that is held back -/

/-- Output that is held back until there is enough of it. -/
structure Sink where
  /-- What is held back, the last piece first. -/
  pieces : List Bytes := []
  /-- How many bytes that is. -/
  size : Nat := 0
  deriving Repr, Inhabited

namespace Sink

/-- Writes what is held back. -/
def flush (sink : Sink) : Prog (Except Errno Sink) := do
  if sink.size = 0 then return .ok {}
  match ← Prog.write Fd.stdout sink.pieces.reverse.flatten with
  | .ok () => return .ok {}
  | .error errno => return .error errno

/-- Writes what is held back, so that it comes before what is said next, and holds it back still
if it cannot be written. -/
def settle (sink : Sink) : Prog Sink := do
  match ← sink.flush with
  | .ok sink => return sink
  | .error _ => return sink

/-- Takes bytes, and writes all there is if that is enough. -/
def put (sink : Sink) (bytes : Bytes) : Prog (Except Errno Sink) :=
  let sink : Sink := ⟨bytes :: sink.pieces, sink.size + bytes.length⟩
  if outputBuffer < sink.size then sink.flush else pure (.ok sink)

/-- Writes what is held back at the end and ends with a code, unless writing fails. -/
def close (name : Bytes) (sink : Sink) (code : Int) (fault : WriteFault) : Prog Int :=
  emit name sink.pieces.reverse.flatten code fault

end Sink

/-! ## Going through files -/

/-- What a utility does with one line after another. -/
structure Pass (σ : Type) where
  /-- The byte that ends a line. -/
  delimiter : UInt8 := newline
  /-- The state after a line, which may lack its delimiter at the end of a file, and what is
  written. -/
  line : σ → Bytes → σ × Bytes
  /-- What is said when writing fails. -/
  fault : WriteFault := .plain 1

/-- How going through a file came out. -/
inductive PassEnd where
  /-- It has come to the end. -/
  | done
  /-- The file cannot be read. -/
  | unread (errno : Errno)
  /-- So many bytes cannot be written. -/
  | unwritten (errno : Errno) (length : Nat)
  deriving DecidableEq, Repr, Inhabited

namespace Pass

variable {σ : Type}

/-- What comes of some lines. -/
def feed (pass : Pass σ) (state : σ) (lines : List Bytes) : σ × Bytes :=
  let (state, written) := lines.foldl (fun (state, written) line =>
    let (state, piece) := pass.line state line
    (state, piece :: written)) (state, [])
  (state, written.reverse.flatten)

/-- Writes to standard output unless there is nothing to write. -/
def put (bytes : Bytes) : Prog (Except Errno Unit) :=
  if bytes.isEmpty then pure (.ok ()) else Prog.write Fd.stdout bytes

/-- Goes through an open file. -/
def through (pass : Pass σ) (fd : Fd) (state : σ) : Prog (PassEnd × σ) :=
  Prog.iterate (fun (current : σ × Bytes) => do
    let (state, rest) := current
    match ← Prog.call (.read fd blockSize) with
    | .error errno => return .inr (.unread errno, state)
    | .ok [] =>
        let (state, written) := pass.feed state (if rest.isEmpty then [] else [rest])
        match ← put written with
        | .ok () => return .inr (.done, state)
        | .error errno => return .inr (.unwritten errno written.length, state)
    | .ok bytes =>
        let (lines, rest) := endedLines pass.delimiter (rest ++ bytes)
        let (state, written) := pass.feed state lines
        match ← put written with
        | .ok () => return .inl (state, rest)
        | .error errno => return .inr (.unwritten errno written.length, state)) (state, [])

/-- Goes through files one after the other, given the exit code so far. A file that cannot be read
is reported and passed over; there is no state when standard output cannot be written. -/
def run (pass : Pass σ) (name : Bytes) : (code : Int) → σ → List Bytes → Prog (Int × Option σ)
  | code, state, [] => pure (code, some state)
  | code, state, path :: rest => do
      match ← openInput path with
      | .error errno =>
          complainOfFile name path errno
          run pass name 1 state rest
      | .ok fd =>
          let (result, state) ← pass.through fd state
          closeInput fd
          match result with
          | .done => run pass name code state rest
          | .unread errno =>
              complainOfFile name path errno
              run pass name 1 state rest
          | .unwritten errno length =>
              complainEach name (pass.fault.messages errno length)
              return (pass.fault.code, none)

/-- Goes through files and writes what the last state leaves to be written. -/
def runAll (pass : Pass σ) (name : Bytes) (state : σ) (paths : List Bytes)
    (last : σ → Bytes) : Prog Int := do
  match ← pass.run name 0 state (inputs paths) with
  | (code, none) => return code
  | (code, some state) => emit name (last state) code pass.fault

end Pass

end LineShell.Utility
