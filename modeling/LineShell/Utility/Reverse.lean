import LineShell.Regex.Matcher
import LineShell.Utility.Stream

/-!
# Reversing

- **`tac`** writes the records of files in reverse order.
- **`rev`** writes each line backwards.
-/

namespace LineShell.Utility

/-! ## `tac` -/

/-- What stands between records. -/
inductive Separator where
  /-- Some bytes. -/
  | literal (bytes : Array UInt8)
  /-- Whatever a regular expression fits. -/
  | fitting (program : Regex.Program)

namespace Separator

/-- Some bytes stand at a place. -/
def standsAt (wanted bytes : Array UInt8) (place : Nat) : Bool :=
  (List.range wanted.size).all fun offset => bytes[place + offset]? == wanted[offset]?

/-- The separator that begins last before a place and ends before another one, looking at so many
places. -/
def lastBefore? (separator : Separator) (bytes : Array UInt8) (limit : Nat) : (place : Nat) →
    Option (Nat × Nat)
  | 0 => none
  | place + 1 =>
      let found := match separator with
        | .literal wanted =>
            if place + wanted.size ≤ limit && standsAt wanted bytes place then
              some (place, place + wanted.size)
            else none
        | .fitting program =>
            (program.matchAt? { bytes := bytes.extract 0 limit } place).map fun found =>
              (found.start, found.stop)
      match found with
      | some found => some found
      | none => lastBefore? separator bytes limit place

/-- The separators before a place, the last one first. -/
def allBefore (separator : Separator) (bytes : Array UInt8) : (fuel : Nat) → (limit : Nat) →
    List (Nat × Nat)
  | 0, _ => []
  | fuel + 1, limit =>
      match separator.lastBefore? bytes limit limit with
      | none => []
      | some (start, stop) => (start, stop) :: allBefore separator bytes fuel (min start limit)

end Separator

/-- Records in reverse order; each ends with its separator, or begins with it. -/
def reversed (separator : Separator) (leading : Bool) (input : Bytes) : Bytes :=
  let bytes := input.toArray
  let places := (separator.allBefore bytes (bytes.size + 1) bytes.size).map fun (start, stop) =>
    if leading then start else stop
  let (pieces, limit) := places.foldl (fun (pieces, limit) place =>
    ((bytes.extract place limit).toList :: pieces, place)) ([], bytes.size)
  (pieces.reverse ++ [(bytes.extract 0 limit).toList]).flatten

/-- The settings of `tac`. -/
structure TacSettings where
  /-- A separator begins a record. -/
  leading : Bool := false
  /-- The separator is a regular expression. -/
  regex : Bool := false
  /-- The separator. -/
  separator : Bytes := [newline]
  deriving DecidableEq, Repr, Inhabited

namespace TacSettings

/-- The options of `tac`. -/
def table : OptionTable where
  letters := "brs:"
  names := [("before", "b"), ("regex", "r"), ("separator:", "s")]

/-- The effect of an option of `tac`. -/
def effect : OptionEffect TacSettings := fun settings key value =>
  .ok (match key with
    | "b" => { settings with leading := true }
    | "r" => { settings with regex := true }
    | _ => { settings with separator := value.getD [] })

/-- The separator that is meant, or why there is none. -/
def separator? (settings : TacSettings) : Except Bytes Separator :=
  if settings.regex then
    if settings.separator.isEmpty then .error (text "separator cannot be empty")
    else match Regex.compile { manyLines := true, bareRepeats := true } settings.separator with
      | .ok program => .ok (.fitting program)
      | .error fault => .error (text fault.message)
  else if settings.separator.isEmpty then .ok (.literal #[0])
  else .ok (.literal settings.separator.toArray)

end TacSettings

/-- What files hold, changed one by one. A file that cannot be opened or read is passed over after
a message; the second component tells whether there was none. -/
def gatherEach (name : Bytes) (change : Bytes → Bytes) (unopened : Bytes → Bytes)
    (unread : Bytes → Errno → Bytes) :
    List Bytes → Prog (Bytes × Bool)
  | [] => pure ([], true)
  | path :: rest => do
      let more := gatherEach name change unopened unread rest
      match ← openInput path with
      | .error errno =>
          complainOf name (unopened path) errno
          return ((← more).1, false)
      | .ok fd =>
          let read ← Prog.readAll fd
          closeInput fd
          match read with
          | .error errno =>
              complain name (unread path errno)
              return ((← more).1, false)
          | .ok bytes =>
              let (later, fine) ← more
              return (change bytes ++ later, fine)

/-- Writes the records of files in reverse order. -/
def tac : Utility := fun arguments =>
  withOptions TacSettings.table 1 {} TacSettings.effect arguments fun name settings operands => do
    match settings.separator? with
    | .error message =>
        complain name message
        return 1
    | .ok separator =>
        let (written, fine) ← gatherEach name (reversed separator settings.leading)
          (fun path => text "failed to open " ++ Quote.always path ++ text " for reading")
          (fun path errno =>
            Quote.named (if path == text "-" then text "standard input" else path)
              ++ text ": read error: "
              ++ reason (if errno == .isDirectory then .invalid else errno))
          (inputs operands)
        closingInput name (text "-") (inputs operands)
          (emit name written (if fine then 0 else 1) (.brief 1))

/-! ## `rev` -/

/-- A line with its bytes in reverse order before the delimiter. -/
def mirrored (delimiter : UInt8) (line : Bytes) : Bytes :=
  if hasEnded delimiter line then line.dropLast.reverse ++ [delimiter] else line.reverse

/-- The options of `rev`. -/
def revTable : OptionTable where
  letters := "0"
  names := [("zero", "0")]

/-- Writes each line of an open file backwards. There is nothing to write to any more once writing
has failed, but what is left is read all the same. -/
def mirrorFile (delimiter : UInt8) (fd : Fd) (sink : Option Sink) :
    Prog (Except Errno Unit × Option Sink) :=
  Prog.iterate (fun (reader, sink) => do
    match ← Reader.next reader with
    | (.error errno, _) => return .inr (.error errno, sink)
    | (.ok none, _) => return .inr (.ok (), sink)
    | (.ok (some line), reader) =>
        let sink ← match sink with
          | none => pure none
          | some sink => pure (← sink.put (mirrored delimiter line)).toOption
        return .inl (reader, sink)) ({ fd := fd, delimiter := delimiter : Reader }, sink)

/-- Writes each line of files backwards, given the code so far. -/
def mirrorFiles (name : Bytes) (delimiter : UInt8) (openPath : Bytes → Prog (Except Errno Fd)) :
    (code : Int) → Option Sink → List Bytes → Prog (Int × Option Sink)
  | code, sink, [] => pure (code, sink)
  | code, sink, path :: rest => do
      match ← openPath path with
      | .error errno =>
          complainOf name (text "cannot open " ++ path) errno
          mirrorFiles name delimiter openPath 1 sink rest
      | .ok fd =>
          let (result, sink) ← mirrorFile delimiter fd sink
          closeInput fd
          match result with
          | .ok () => mirrorFiles name delimiter openPath code sink rest
          | .error errno =>
              complainOfFile name path errno
              mirrorFiles name delimiter openPath 1 sink rest

/-- Writes what is held back in the end. That nobody reads it is no failure. -/
def finishMirroring (name : Bytes) (code : Int) (sink : Option Sink) : Prog Int := do
  match sink with
  | none =>
      complain name (text "write error")
      return 1
  | some sink =>
      match ← sink.flush with
      | .ok _ => return code
      | .error errno =>
          if errno == .brokenPipe || errno == .badDescriptor then return code
          complainOf name (text "write error") errno
          return 1

/-- Writes each line backwards. -/
def rev : Utility := fun arguments =>
  withOptions revTable 1 newline (fun _ _ _ => .ok 0) arguments fun name delimiter operands => do
    let openPath := if operands.isEmpty then openInput else openFile
    let (code, sink) ← mirrorFiles name delimiter openPath 0 (some {}) (inputs operands)
    finishMirroring name code sink

end LineShell.Utility
