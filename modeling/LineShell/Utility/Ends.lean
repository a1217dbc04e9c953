import LineShell.Utility.Stream

/-!
# The ends of files

- **`head`** writes the beginning of files.
- **`tail`** writes their end.
-/

namespace LineShell.Utility.Ends

/-- What is counted. -/
inductive Measure where
  /-- Lines. -/
  | lines
  /-- Bytes. -/
  | bytes
  deriving DecidableEq, Repr, Inhabited

/-- When the name of a file is written above its part. -/
inductive Headings where
  /-- If there are several files. -/
  | several
  /-- In any case. -/
  | always
  /-- Never. -/
  | never
  deriving DecidableEq, Repr, Inhabited

/-- Which part of a file is wanted. -/
structure Settings where
  /-- What is counted. -/
  measure : Measure := .lines
  /-- How many of them. -/
  count : Nat := 10
  /-- The count is that of what is left out at the end; for the end of a file, it is the place
  where that begins, counted from the beginning. -/
  other : Bool := false
  /-- When names are written. -/
  headings : Headings := .several
  /-- The byte that ends a line. -/
  delimiter : UInt8 := newline
  deriving DecidableEq, Repr, Inhabited

/-- The names of options that both utilities have. -/
def names : List (String × String) :=
  [("bytes:", "c"), ("lines:", "n"), ("quiet", "q"), ("silent", "q"), ("verbose", "v"),
   ("zero-terminated", "z")]

/-- The letters that multiply a count. -/
def suffixes : String := "bkKmMGTPEZYRQ0"

/-- The settings with a count. -/
def Settings.withCount (settings : Settings) (measure : Measure) (other : Bool) (value : Bytes) :
    Except Complaint Settings := do
  let phrase := match measure with
    | .lines => "invalid number of lines"
    | .bytes => "invalid number of bytes"
  let count ← amountOr phrase value (Amount.parse suffixes value)
  return { settings with measure := measure, count := count, other := other }

/-- The effect of an option that both utilities have and that takes no value. -/
def Settings.withFlag (settings : Settings) (key : String) : Settings :=
  match key with
  | "q" => { settings with headings := .never }
  | "v" => { settings with headings := .always }
  | "z" => { settings with delimiter := 0 }
  | _ => settings

/-- An option is a digit. -/
def isDigitKey (key : String) : Bool := (text key).all Text.isDigit

/-! ## Going through files -/

/-- How the part of a file came out. -/
inductive PartEnd where
  /-- It has been written. -/
  | done (sink : Sink)
  /-- The file cannot be read. -/
  | unread (errno : Errno) (sink : Sink)
  /-- It cannot be told what the file is. -/
  | unknown (errno : Errno) (sink : Sink)
  /-- Standard output cannot be written. -/
  | unwritten (errno : Errno)

/-- What is said when much has been written in vain. -/
def complainOfOutput (name : Bytes) (errno : Errno) : Prog Int := do
  complainOf name (text "error writing 'standard output'") errno
  return 1

/-- The line above the part of a file. -/
def heading (path : Bytes) : Bytes :=
  text "==> " ++ (if path == text "-" then text "standard input" else path) ++ text " <==\n"

/-- The name of a file in messages. -/
def shownName (path : Bytes) : Bytes :=
  Quote.always (if path == text "-" then text "standard input" else path)

/-- Writes the parts of files, given the code so far and whether one has been written. -/
def eachFile (name : Bytes) (headed : Bool) (part : Fd → Sink → Prog PartEnd) :
    (code : Int) → (later : Bool) → Sink → List Bytes → Prog Int
  | code, _, sink, [] => sink.close name code (.plain 1)
  | code, later, sink, path :: rest => do
      match ← openInput path with
      | .error errno =>
          let sink ← sink.settle
          complainOf name (text "cannot open " ++ shownName path ++ text " for reading") errno
          eachFile name headed part 1 later sink rest
      | .ok fd =>
          let top := if headed then (if later then [newline] else []) ++ heading path else []
          match ← sink.put top with
          | .error errno => complainOfOutput name errno
          | .ok sink =>
              let result ← part fd sink
              closeInput fd
              match result with
              | .done sink => eachFile name headed part code true sink rest
              | .unread errno sink =>
                  let sink ← sink.settle
                  complainOf name (text "error reading " ++ shownName path) errno
                  eachFile name headed part 1 true sink rest
              | .unknown errno sink =>
                  let sink ← sink.settle
                  complainOf name (text "cannot fstat " ++ shownName path) errno
                  eachFile name headed part 1 true sink rest
              | .unwritten errno => complainOfOutput name errno

/-- Names are written above the parts of files. -/
def Settings.isHeaded (settings : Settings) (paths : List Bytes) : Bool :=
  settings.headings == .always || (settings.headings == .several && 1 < paths.length)

/-- Writes a part of an open file of which it can be told what it is. -/
def ofKnown (part : Fd → Sink → Prog PartEnd) (fd : Fd) (sink : Sink) : Prog PartEnd := do
  match ← Prog.call (.kind fd) with
  | .error errno => return .unknown errno sink
  | .ok _ => part fd sink

/-- Writes the parts of files and gives up standard input. -/
def allFiles (name : Bytes) (settings : Settings) (part : Fd → Sink → Prog PartEnd)
    (paths : List Bytes) : Prog Int :=
  closingInput name (text "-") paths
    (eachFile name (settings.isHeaded paths) part 0 false {} paths)


/-! ## The beginning -/

/-- How many bytes are read at once. -/
def inputBlock : Nat := 8192

/-- The first lines of some bytes, and how many of them have ended. -/
def firstLines (delimiter : UInt8) (count : Nat) (bytes : Bytes) : Bytes × Nat :=
  let lines := (Text.linesBy delimiter bytes).take count
  (lines.flatten, (lines.filter (hasEnded delimiter)).length)

/-- Writes so many lines or bytes of an open file. What was read beyond them is given back to a
file that has a position. -/
def writeFirst (settings : Settings) (fd : Fd) (sink : Sink) : Prog PartEnd :=
  Prog.iterate (fun (count, sink) => do
    if count = 0 then return .inr (.done sink)
    let wanted := match settings.measure with
      | .lines => inputBlock
      | .bytes => min count inputBlock
    match ← Prog.call (.read fd wanted) with
    | .error errno => return .inr (.unread errno sink)
    | .ok [] => return .inr (.done sink)
    | .ok bytes =>
        let (written, counted) := match settings.measure with
          | .lines => firstLines settings.delimiter count bytes
          | .bytes => (bytes, bytes.length)
        if written.length < bytes.length then
          let _ ← Prog.call (.seek fd (.back (bytes.length - written.length)))
        match ← sink.put written with
        | .ok sink => return .inl (count - counted, sink)
        | .error errno => return .inr (.unwritten errno)) (settings.count, sink)

/-- What is left of some bytes without the last lines or bytes. -/
def withoutLast (settings : Settings) (bytes : Bytes) : Bytes :=
  match settings.measure with
  | .bytes => bytes.take (bytes.length - settings.count)
  | .lines =>
      let lines := Text.linesBy settings.delimiter bytes
      (lines.take (lines.length - settings.count)).flatten

/-- Writes an open file without its last lines or bytes, which are given back to it. -/
def writeAllButLast (settings : Settings) (fd : Fd) (sink : Sink) : Prog PartEnd := do
  match ← Prog.readAll fd with
  | .error errno => return .unread errno sink
  | .ok bytes =>
      let written := withoutLast settings bytes
      if written.length < bytes.length then
        let _ ← Prog.call (.seek fd (.back (bytes.length - written.length)))
      match ← sink.put written with
      | .ok sink => return .done sink
      | .error errno => return .unwritten errno

/-- The options of `head`. -/
def headTable : OptionTable where
  letters := "c:n:qvz0123456789"
  names := names ++ [("-presume-input-pipe", "presume")]

/-- The effect of an option of `head`. -/
def headEffect : OptionEffect Settings := fun settings key value =>
  let counted (measure : Measure) : Except Complaint Settings :=
    match value.getD [] with
    | 45 :: rest => settings.withCount measure true rest
    | given => settings.withCount measure false given
  match key with
  | "c" => counted .bytes
  | "n" => counted .lines
  | _ =>
      if isDigitKey key then refuseUsage (text ("invalid trailing option -- " ++ key))
      else .ok (settings.withFlag key)

/-- The settings after letters behind a number, and the letter that multiplies it. -/
def trailing : Settings → (factor : Option UInt8) → Bytes →
    Except Complaint (Settings × Option UInt8)
  | settings, factor, [] => .ok (settings, factor)
  | settings, factor, b :: rest =>
      match Char.ofNat b.toNat with
      | 'c' => trailing { settings with measure := .bytes } none rest
      | 'b' | 'k' | 'm' => trailing { settings with measure := .bytes } (some b) rest
      | 'l' => trailing { settings with measure := .lines } factor rest
      | 'q' => trailing { settings with headings := .never } factor rest
      | 'v' => trailing { settings with headings := .always } factor rest
      | 'z' => trailing { settings with delimiter := 0 } factor rest
      | _ => refuseUsage (text "invalid trailing option -- " ++ [b])

/-- A first argument that begins with a number, read as an option. -/
def headNumber (argument : Bytes) : Except Complaint Settings := do
  let digits := argument.tail.takeWhile Text.isDigit
  let (settings, factor) ← trailing {} none (argument.tail.drop digits.length)
  settings.withCount settings.measure false (digits ++ factor.toList)

/-- An argument is a dash and a digit. -/
def isNumberOption (argument : Bytes) : Bool :=
  argument.head? == some 45 && (argument.tail.head?).any Text.isDigit

/-! ## The end -/

/-- The last lines or bytes of some bytes. -/
def lastOf (settings : Settings) (bytes : Bytes) : Bytes :=
  match settings.measure with
  | .bytes => bytes.drop (bytes.length - settings.count)
  | .lines =>
      let lines := Text.linesBy settings.delimiter bytes
      (lines.drop (lines.length - settings.count)).flatten

/-- Writes the last lines or bytes of an open file. -/
def writeLast (settings : Settings) (fd : Fd) (sink : Sink) : Prog PartEnd := do
  match ← Prog.readAll fd with
  | .error errno => return .unread errno sink
  | .ok bytes =>
      match ← sink.put (lastOf settings bytes) with
      | .ok sink => return .done sink
      | .error errno => return .unwritten errno

/-- What is left of some bytes without the first lines or bytes, and how many of those are still
to be left out. -/
def withoutFirst (settings : Settings) (count : Nat) (bytes : Bytes) : Bytes × Nat :=
  match settings.measure with
  | .bytes => (bytes.drop count, count - bytes.length)
  | .lines =>
      let (first, ended) := firstLines settings.delimiter count bytes
      (bytes.drop first.length, count - ended)

/-- Writes an open file from a line or byte on. -/
def writeFrom (settings : Settings) (fd : Fd) (sink : Sink) : Prog PartEnd :=
  Prog.iterate (fun (count, sink) => do
    match ← Prog.call (.read fd blockSize) with
    | .error errno => return .inr (.unread errno sink)
    | .ok [] => return .inr (.done sink)
    | .ok bytes =>
        let (written, count) := withoutFirst settings count bytes
        match ← sink.put written with
        | .ok sink => return .inl (count, sink)
        | .error errno => return .inr (.unwritten errno)) (settings.count - 1, sink)

/-- The options of `tail`. -/
def tailTable : OptionTable where
  letters := "c:n:fFqs:vz0123456789"
  names := names ++
    [("follow::", "f"), ("max-unchanged-stats:", "max-unchanged-stats"), ("pid:", "pid"),
     ("retry", "retry"), ("sleep-interval:", "s")]

/-- The effect of an option of `tail`. -/
def tailEffect : OptionEffect Settings := fun settings key value =>
  let given := value.getD []
  let counted (measure : Measure) : Except Complaint Settings :=
    settings.withCount measure (settings.other || given.head? == some 43)
      (if given.head? == some 45 then given.tail else given)
  match key with
  | "c" => counted .bytes
  | "n" => counted .lines
  | "f" => do
      let _ ← choice "--follow" [("descriptor", 0), ("name", 1)] (value.getD (text "name"))
      return settings
  | "pid" => do
      let _ ← amountOr "invalid PID" given (Amount.parse "" given)
      return settings
  | "max-unchanged-stats" => do
      let _ ← amountOr "invalid maximum number of unchanged stats between opens" given
        (Amount.parse "" given)
      return settings
  | _ =>
      if isDigitKey key then refuse (text ("option used in invalid context -- " ++ key))
      else .ok (settings.withFlag key)

/-- A first argument that is a sign, a number and letters, read as an option. -/
def tailNumber? (argument : Bytes) : Option (Except Complaint Settings) :=
  match argument with
  | [] => none
  | sign :: body =>
      let fromStart := sign == 43
      let meant := fromStart || (sign == 45 && !body.isEmpty && body != [99])
      let digits := body.takeWhile Text.isDigit
      let rest := body.drop digits.length
      let (measure, unit, rest) : Measure × Nat × Bytes :=
        match rest.map fun b => Char.ofNat b.toNat with
        | 'b' :: _ => (.bytes, 512, rest.tail)
        | 'c' :: _ => (.bytes, 1, rest.tail)
        | 'l' :: _ => (.lines, 1, rest.tail)
        | _ => (.lines, 1, rest)
      if !meant || !(rest.isEmpty || rest == [102]) then none
      else
        let number : Except Amount.Fault Nat := if digits.isEmpty then .ok (10 * unit) else
          match Amount.parse "" digits with
          | .ok count =>
              if Amount.greatest < count * unit then .error Amount.Fault.outOfRange
              else .ok (count * unit)
          | .error _ => .error .outOfRange
        some (match number with
          | .ok count => .ok { measure := measure, count := count, other := fromStart }
          | .error fault => amountOr "invalid number" argument (.error fault))

/-- Arguments whose first one can be a number with a sign. -/
def allowsNumber (arguments : List Bytes) : Bool :=
  match arguments with
  | [_] => true
  | [_, second] => !isOption second || second == text "--"
  | [_, second, _] => second == text "--"
  | _ => false

end Ends

open Ends

/-- Writes the beginning of files. -/
def head : Utility := fun arguments =>
  let run (start : Settings) (arguments : List Bytes) : Prog Int :=
    withOptions headTable 1 start headEffect arguments fun name settings operands =>
      allFiles name settings
        (if settings.other then ofKnown (writeAllButLast settings) else writeFirst settings)
        (inputs operands)
  match arguments with
  | name :: first :: rest =>
      if isNumberOption first then
        match headNumber first with
        | .ok settings => run settings (name :: rest)
        | .error complaint => report name 1 complaint
      else run {} arguments
  | _ => run {} arguments

/-- Writes the end of files. -/
def tail : Utility := fun arguments =>
  let run (start : Settings) (arguments : List Bytes) : Prog Int :=
    withOptions tailTable 1 start tailEffect arguments fun name settings operands =>
      if settings.count = 0 && !settings.other then pure 0
      else allFiles name settings
        (ofKnown (if settings.other then writeFrom settings else writeLast settings))
        (inputs operands)
  match arguments with
  | name :: first :: rest =>
      match (if allowsNumber (first :: rest) then tailNumber? first else none) with
      | some (.ok settings) => run settings (name :: rest)
      | some (.error complaint) => report name 1 complaint
      | none => run {} arguments
  | _ => run {} arguments

end LineShell.Utility
