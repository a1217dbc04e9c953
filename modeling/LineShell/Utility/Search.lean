import LineShell.Regex.Matcher
import LineShell.Text.Glob
import LineShell.Utility.Amount
import LineShell.Utility.Stream

/-!
# Searching lines

`grep` shows the lines of its inputs that some patterns fit.

- **`Quarry.ofPatterns`** puts the patterns together.
- **`Scan.line`** is what a search does with the next line.
- **`grep`** searches files and, if it is told to, everything below directories.
-/

namespace LineShell.Utility.Grep

/-! ## Settings -/

/-- How patterns are read. -/
inductive PatternKind where
  /-- As regular expressions whose groups need a backslash. -/
  | basic
  /-- As regular expressions whose groups need none. -/
  | extended
  /-- As texts. -/
  | fixed
  /-- As regular expressions with further signs. -/
  | perl
  deriving DecidableEq, Repr, Inhabited

/-- Where patterns come from. -/
inductive PatternSource where
  /-- They stand in an argument. -/
  | given (patterns : Bytes)
  /-- They stand in a file. -/
  | file (path : Bytes)
  deriving DecidableEq, Repr, Inhabited

/-- What is shown of an input. -/
inductive Showing where
  /-- The selected lines. -/
  | lines
  /-- How many lines are selected. -/
  | count
  /-- Its name, if some line is selected, or if none is. -/
  | name (selected : Bool)
  /-- Nothing. -/
  | nothing
  deriving DecidableEq, Repr, Inhabited

/-- What is done with an input that holds NULs. -/
inductive NulInput where
  /-- Only that it matches is reported. -/
  | reported
  /-- It counts as text. -/
  | text
  /-- It counts as if nothing in it were selected. -/
  | skipped
  deriving DecidableEq, Repr, Inhabited

/-- What is done with a directory. -/
inductive DirectoryInput where
  /-- It is read, which fails. -/
  | read
  /-- What lies below it is searched. -/
  | searched
  /-- It is passed over. -/
  | skipped
  deriving DecidableEq, Repr, Inhabited

/-- The settings of a search. -/
structure Settings where
  /-- How patterns are read, if that is said. -/
  kind : Option PatternKind := none
  /-- Where patterns come from, the last one first. -/
  sources : List PatternSource := []
  /-- How often an option was given that has no meaning any more. -/
  obsolete : Nat := 0
  /-- The case of letters does not matter. -/
  foldCase : Bool := false
  /-- The lines that no pattern fits are selected. -/
  invert : Bool := false
  /-- Patterns have to fit whole words. -/
  words : Bool := false
  /-- Patterns have to fit whole lines. -/
  whole : Bool := false
  /-- How many lines are selected at most. -/
  most : Option Nat := none
  /-- How many lines are shown behind selected ones. -/
  after : Option Nat := none
  /-- How many lines are shown before selected ones. -/
  before : Option Nat := none
  /-- How many lines are shown around selected ones if nothing else is said. -/
  around : Option Nat := none
  /-- The digits of an option that is a number. -/
  digits : Bytes := []
  /-- Lines are shown with their numbers. -/
  numbers : Bool := false
  /-- Lines are shown with their places in the input. -/
  offsets : Bool := false
  /-- Only the parts that patterns fit are shown. -/
  onlyParts : Bool := false
  /-- A tab comes before each line. -/
  tabs : Bool := false
  /-- A NUL follows the name of an input. -/
  nulNames : Bool := false
  /-- A NUL ends a line. -/
  nulLines : Bool := false
  /-- The name of an input is shown, or is not. -/
  named : Option Bool := none
  /-- What is shown. -/
  showing : Showing := .lines
  /-- Inputs that cannot be read are not reported. -/
  silent : Bool := false
  /-- What is done with inputs that hold NULs. -/
  nulInput : NulInput := .reported
  /-- What is done with directories. -/
  directories : DirectoryInput := .read
  /-- Symbolic links below directories are followed. -/
  followLinks : Bool := false
  /-- Only files that one of these fits are searched below directories, if there are any. -/
  include? : List Text.Glob := []
  /-- Files that one of these fits are not searched below directories. -/
  exclude : List Text.Glob := []
  /-- Directories that one of these fits are not searched. -/
  excludeDirectory : List Text.Glob := []
  /-- The name that stands for standard input. -/
  label : Bytes := text "(standard input)"
  /-- What is shown between lines that do not follow each other. -/
  separator : Option Bytes := some (text "--")

/-- The options. -/
def table : OptionTable where
  letters := "0123456789A:B:C:D:EFGHILPTUVX:abcd:e:f:hiLlm:noqRrsuvwxyZz"
  names :=
    [("basic-regexp", "G"), ("extended-regexp", "E"), ("fixed-regexp", "F"),
     ("fixed-strings", "F"), ("perl-regexp", "P"), ("after-context:", "A"),
     ("before-context:", "B"), ("binary-files:", "binary-files"), ("byte-offset", "b"),
     ("context:", "C"), ("color::", "color"), ("colour::", "color"), ("count", "c"),
     ("devices:", "D"), ("directories:", "d"), ("exclude:", "exclude"),
     ("exclude-from:", "exclude-from"), ("exclude-dir:", "exclude-dir"), ("file:", "f"),
     ("files-with-matches", "l"), ("files-without-match", "L"),
     ("group-separator:", "group-separator"), ("include:", "include"), ("ignore-case", "i"),
     ("no-ignore-case", "no-ignore-case"), ("initial-tab", "T"), ("label:", "label"),
     ("line-buffered", "line-buffered"), ("line-number", "n"), ("line-regexp", "x"),
     ("max-count:", "m"),
     ("no-filename", "h"), ("no-group-separator", "no-group-separator"), ("no-messages", "s"),
     ("null", "Z"), ("null-data", "z"), ("only-matching", "o"), ("quiet", "q"),
     ("recursive", "r"), ("dereference-recursive", "R"), ("regexp:", "e"),
     ("invert-match", "v"), ("silent", "q"), ("text", "a"), ("binary", "U"),
     ("unix-byte-offsets", "u"), ("with-filename", "H"), ("word-regexp", "w")]

/-- A way to read patterns is asked for, which must not differ from the one before. -/
def setKind (settings : Settings) (kind : PatternKind) : Except Complaint Settings :=
  if settings.kind.all (· == kind) then .ok { settings with kind := some kind }
  else refuse (text "conflicting matchers specified")

/-- The number of lines around selected ones that a value spells. -/
def contextOf (value : Bytes) : Except Complaint Nat :=
  match Amount.parse "" value with
  | .ok count => .ok count
  | .error .tooLarge => .ok Amount.greatest
  | .error _ => refuse (value ++ text ": invalid context length argument")

/-- The effect of an option. -/
def effect : OptionEffect Settings := fun settings key value =>
  let given := value.getD []
  match key with
  | "E" => setKind settings .extended
  | "F" => setKind settings .fixed
  | "G" => setKind settings .basic
  | "P" => setKind settings .perl
  | "A" => return { settings with after := some (← contextOf given) }
  | "B" => return { settings with before := some (← contextOf given) }
  | "C" => return { settings with around := some (← contextOf given) }
  | "H" => .ok { settings with named := some true }
  | "h" => .ok { settings with named := some false }
  | "I" => .ok { settings with nulInput := .skipped }
  | "a" => .ok { settings with nulInput := .text }
  | "T" => .ok { settings with tabs := true }
  | "U" | "color" => .ok settings
  | "u" => .ok { settings with obsolete := settings.obsolete + 1 }
  | "b" => .ok { settings with offsets := true }
  | "c" =>
      .ok { settings with
        showing := if settings.showing == .lines then .count else settings.showing }
  | "D" =>
      if given == text "read" || given == text "skip" then .ok settings
      else refuse (text "unknown devices method")
  | "d" =>
      if given == text "read" then .ok { settings with directories := .read }
      else if given == text "skip" then .ok { settings with directories := .skipped }
      else if given == text "recurse" then .ok { settings with directories := .searched }
      else .error {
        message := text "invalid argument " ++ Quote.always given
          ++ text " for '--directories'\nValid arguments are:\n  - 'read'\n  - 'recurse'\n"
          ++ text "  - 'skip'"
        help := true
        code := some 1 }
  | "e" => .ok { settings with sources := .given given :: settings.sources }
  | "f" => .ok { settings with sources := .file given :: settings.sources }
  | "i" | "y" => .ok { settings with foldCase := true }
  | "no-ignore-case" => .ok { settings with foldCase := false }
  | "L" => .ok { settings with showing := .name false }
  | "l" => .ok { settings with showing := .name true }
  | "m" =>
      match Amount.signed "" given with
      | .ok (.minus, count) => .ok { settings with most := if count = 0 then some 0 else none }
      | .ok (_, count) => .ok { settings with most := some count }
      | .error .tooLarge => .ok { settings with most := none }
      | .error _ => refuse (text "invalid max count")
  | "n" => .ok { settings with numbers := true }
  | "o" => .ok { settings with onlyParts := true }
  | "q" => .ok { settings with showing := .nothing }
  | "r" => .ok { settings with directories := .searched }
  | "R" => .ok { settings with directories := .searched, followLinks := true }
  | "s" => .ok { settings with silent := true }
  | "v" => .ok { settings with invert := true }
  | "w" => .ok { settings with words := true }
  | "x" => .ok { settings with whole := true }
  | "X" =>
      let named : List (String × PatternKind) := [("grep", .basic), ("egrep", .extended),
        ("fgrep", .fixed), ("perl", .perl), ("awk", .extended), ("gawk", .extended),
        ("posixawk", .extended)]
      match named.find? fun entry => text entry.1 == given with
      | some entry => setKind settings entry.2
      | none => refuse (text "invalid matcher " ++ given)
  | "Z" => .ok { settings with nulNames := true }
  | "z" => .ok { settings with nulLines := true }
  | "binary-files" =>
      if given == text "binary" then .ok { settings with nulInput := .reported }
      else if given == text "text" then .ok { settings with nulInput := .text }
      else if given == text "without-match" then .ok { settings with nulInput := .skipped }
      else refuse (text "unknown binary-files type")
  | "exclude" => .ok { settings with exclude := Text.Glob.parse given :: settings.exclude }
  | "include" => .ok { settings with include? := Text.Glob.parse given :: settings.include? }
  | "exclude-dir" =>
      .ok { settings with excludeDirectory := Text.Glob.parse given :: settings.excludeDirectory }
  | "group-separator" => .ok { settings with separator := some given }
  | "no-group-separator" => .ok { settings with separator := none }
  | "label" => .ok { settings with label := given }
  | _ =>
      let digits := text key
      if digits.all Text.isDigit then .ok { settings with digits := settings.digits ++ digits }
      else .ok settings

/-! ## Patterns -/

/-- A pattern, and where it stands if that is in a file. -/
structure PatternText where
  /-- The pattern. -/
  bytes : Bytes
  /-- The file and the number of the line. -/
  origin : Option (Bytes × Nat) := none

/-- What is searched for. -/
structure Quarry where
  /-- The patterns, put together as far as possible. -/
  programs : List Regex.Program
  deriving Inhabited

/-- How patterns of a kind are read. -/
def dialectOf (settings : Settings) : Regex.Dialect :=
  let extended := match settings.kind with
    | some .extended | some .perl => true
    | _ => false
  { extended := extended
    foldCase := settings.foldCase
    leadingRepeats := true
    looseBounds := extended
    looseClose := extended
    lineFeedParts := true
    perl := settings.kind == some .perl }

/-- A text as a regular expression. -/
def fixedRegex (dialect : Regex.Dialect) (bytes : Bytes) : Regex :=
  bytes.foldr (fun b rest => .seq (.set (dialect.byteSet b)) rest) .empty

/-- A pattern that has to fit a whole word or a whole line if that is asked for. -/
def framed (settings : Settings) (regex : Regex) : Regex :=
  if settings.whole then .seq (.anchor .textStart) (.seq regex (.anchor .textEnd))
  else if settings.words then .seq (.anchor .noWordBefore) (.seq regex (.anchor .noWordBehind))
  else regex

/-- The patterns read one by one, or the complaints about those that cannot be read. -/
def readPatterns (settings : Settings) (patterns : List PatternText) :
    Except (List Bytes) (List Regex.Parsed) :=
  let dialect := dialectOf settings
  let results : List (Except Bytes Regex.Parsed) := patterns.map fun pattern =>
    if settings.kind == some .fixed then
      .ok (⟨fixedRegex dialect pattern.bytes, 0, []⟩ : Regex.Parsed)
    else match Regex.parse dialect pattern.bytes with
      | .ok parsed => .ok parsed
      | .error fault =>
          .error (match pattern.origin with
            | some (path, number) =>
                path ++ text ":" ++ Text.decimal number ++ text ": " ++ text fault.message
            | none => text fault.message)
  let complaints := results.filterMap fun result => match result with
    | .ok _ => none
    | .error message => some message
  if complaints.isEmpty then
    .ok (results.filterMap fun result => match result with
      | .ok parsed => some parsed
      | .error _ => none)
  else .error complaints

/-- The patterns put together: those that refer to groups stay apart. -/
def Quarry.ofPatterns (settings : Settings) (patterns : List Regex.Parsed) : Quarry :=
  let dialect := dialectOf settings
  let single (parsed : Regex.Parsed) : Regex.Program :=
    .ofRegex dialect parsed.groups (framed settings parsed.regex)
  let (apart, together) := (patterns.map fun parsed => (parsed, single parsed)).partition
    fun entry => entry.2.refersBack || dialect.perl
  let joined := match together.map Prod.fst with
    | [] => []
    | first :: rest =>
        [Regex.Program.ofRegex dialect 0 (framed settings
          (rest.foldl (fun regex parsed => .alt regex parsed.regex) first.regex))]
  ⟨joined ++ apart.map Prod.snd⟩

/-- Some pattern fits a part of a line. -/
def Quarry.isIn (quarry : Quarry) (line : Bytes) : Bool :=
  let subject : Regex.Subject := { bytes := line.toArray }
  quarry.programs.any fun program => program.isMatched subject

/-- The part of a line that comes first, and of those the longest one. -/
def better (a b : Nat × Nat) : Nat × Nat :=
  if b.1 < a.1 || (b.1 == a.1 && a.2 < b.2) then b else a

/-- The first part of a line behind a place that some pattern fits. -/
def Quarry.partFrom (quarry : Quarry) (subject : Regex.Subject) (place : Nat) :
    Option (Nat × Nat) :=
  quarry.programs.foldl (fun best program =>
    match program.search subject place, best with
    | some found, none => some (found.start, found.stop)
    | some found, some best => some (better best (found.start, found.stop))
    | none, best => best) none

/-- The parts of a line that are not empty and that some pattern fits, from a place on. -/
def Quarry.partsFrom (quarry : Quarry) (subject : Regex.Subject) : (fuel : Nat) →
    (place : Nat) → List (Nat × Nat)
  | 0, _ => []
  | fuel + 1, place =>
      match quarry.partFrom subject place with
      | none => []
      | some (start, stop) =>
          if start = stop then partsFrom quarry subject fuel (start + 1)
          else (start, stop) :: partsFrom quarry subject fuel stop

/-- The parts of a line that are not empty and that some pattern fits. -/
def Quarry.parts (quarry : Quarry) (line : Bytes) : List (Nat × Nat) :=
  let subject : Regex.Subject := { bytes := line.toArray }
  quarry.partsFrom subject (line.length + 2) 0

/-! ## Going through an input -/

/-- A line of an input. -/
structure Row where
  /-- Its number. -/
  number : Nat
  /-- Where it begins. -/
  offset : Nat
  /-- What it holds. -/
  bytes : Bytes

/-- How far a search in an input has come. -/
structure Scan where
  /-- The number of the last line. -/
  number : Nat := 0
  /-- Where the next line begins. -/
  offset : Nat := 0
  /-- Where the last selected line ends. -/
  mark : Nat := 0
  /-- How many lines have been selected. -/
  count : Nat := 0
  /-- How many lines are still to be shown behind a selected one. -/
  pending : Nat := 0
  /-- The last lines that have not been shown, the last one first. -/
  held : List Row := []
  /-- Lines have been left out since the last one that was shown. -/
  gap : Bool := true
  /-- Lines have been shown, of this input or of others. -/
  shownAny : Bool
  /-- The input holds NULs and does not count as text. -/
  hasNul : Bool := false
  /-- No more lines are selected. -/
  full : Bool := false
  /-- The rest does not matter. -/
  finished : Bool := false
  /-- What is to be written, the last piece first. -/
  written : List Bytes := []

/-- An input as it is shown. -/
structure Input where
  /-- Its name. -/
  name : Bytes
  /-- The name is shown. -/
  named : Bool
  /-- The width of numbers. -/
  width : Nat

/-- What stands before a line: its name, its number and its place. -/
def heading (settings : Settings) (input : Input) (row : Row) (shift : Nat) (sign : UInt8) :
    Bytes :=
  let name := if input.named then input.name ++ [if settings.nulNames then 0 else sign] else []
  let field (n : Nat) : Bytes := padLeft input.width (Text.decimal n) ++ [sign]
  let number := if settings.numbers then field row.number else []
  let offset := if settings.offsets then field (row.offset + shift) else []
  let all := name ++ number ++ offset
  if settings.tabs && !all.isEmpty && !row.bytes.isEmpty then all ++ [9] else all

/-- The byte that ends a line. -/
def lineEnd (settings : Settings) : UInt8 := if settings.nulLines then 0 else newline

/-- A line as it is shown. -/
def shown (settings : Settings) (quarry : Quarry) (input : Input) (selected : Bool) (row : Row) :
    Bytes :=
  let sign := if selected then 58 else 45
  if settings.onlyParts then
    if selected && !settings.invert then
      (quarry.parts row.bytes).flatMap fun part =>
        heading settings input row part.1 sign
          ++ (row.bytes.drop part.1).take (part.2 - part.1) ++ [lineEnd settings]
    else []
  else heading settings input row 0 sign ++ row.bytes ++ [lineEnd settings]

namespace Settings

/-- How many lines are shown behind a selected one. -/
def behind (settings : Settings) : Nat := (settings.after <|> settings.around).getD 0

/-- How many lines are shown before a selected one. -/
def ahead (settings : Settings) : Nat := (settings.before <|> settings.around).getD 0

/-- Lines around selected ones are asked for. -/
def hasContext (settings : Settings) : Bool :=
  (settings.after <|> settings.before <|> settings.around).isSome

end Settings

namespace Scan

/-- The state after a selected line. -/
def select (settings : Settings) (quarry : Quarry) (input : Input) (scan : Scan) (row : Row) :
    Scan :=
  let count := scan.count + 1
  let full := settings.most == some count
  let scan := { scan with count := count, mark := scan.offset, full := full }
  if settings.showing == .count then { scan with finished := full }
  else if settings.showing != .lines || scan.hasNul then { scan with finished := true }
  else
    let separator := match settings.separator with
      | some text =>
          if settings.hasContext && scan.shownAny && scan.gap then text ++ [newline] else []
      | none => []
    let before := scan.held.reverse.flatMap (shown settings quarry input false)
    { scan with
      written := shown settings quarry input true row :: before :: separator :: scan.written
      held := []
      gap := false
      shownAny := true
      pending := settings.behind
      finished := full && settings.behind == 0 }

/-- The state after a line that is not selected. -/
def pass (settings : Settings) (quarry : Quarry) (input : Input) (scan : Scan) (row : Row) :
    Scan :=
  if scan.pending != 0 then
    { scan with
      written := shown settings quarry input false row :: scan.written
      pending := scan.pending - 1
      finished := scan.full && scan.pending == 1 }
  else
    let held := row :: scan.held
    { scan with
      held := held.take settings.ahead
      gap := scan.gap || settings.ahead < held.length }

/-- The state after the next line, which lacks its line end if the input ends before it. -/
def line (settings : Settings) (quarry : Quarry) (input : Input) (scan : Scan) (line : Bytes) :
    Scan :=
  if scan.finished then scan
  else
    let bytes := withoutDelimiter (lineEnd settings) line
    let row : Row := ⟨scan.number + 1, scan.offset, bytes⟩
    let selected := quarry.isIn bytes != settings.invert
    let scan := { scan with number := row.number, offset := scan.offset + line.length }
    if scan.full then pass settings quarry input scan row
    else if selected then select settings quarry input scan row
    else pass settings quarry input scan row

/-- The state after some lines. -/
def lines (settings : Settings) (quarry : Quarry) (input : Input) (scan : Scan)
    (lines : List Bytes) : Scan :=
  lines.foldl (Scan.line settings quarry input) scan

end Scan

/-- The part of a search that concerns one input: the state, what has been read of a line, and
how many bytes have been read. -/
structure Progress where
  /-- The state. -/
  scan : Scan
  /-- The beginning of a line whose end has not been read. -/
  rest : Bytes := []
  /-- How many bytes have been read. -/
  read : Nat := 0

/-- How many bytes are read at once. -/
def inputBlock : Nat := 98304

/-- Bytes in which NULs end lines too when the input does not count as text. -/
def zapped (scan : Scan) (bytes : Bytes) : Bytes :=
  if scan.hasNul then bytes.map fun b => if b == 0 then newline else b else bytes

/-- Writes what is to be written, and tells whether that was possible. -/
def writeOut (progress : Progress) : Prog (Except Errno Progress) := do
  match ← Pass.put progress.scan.written.reverse.flatten with
  | .ok () => return .ok { progress with scan := { progress.scan with written := [] } }
  | .error errno => return .error errno

/-- Why the search in an input has stopped before its time. -/
inductive Trouble where
  /-- The input cannot be read. -/
  | unread (errno : Errno)
  /-- Standard output cannot be written. -/
  | unwritten (errno : Errno)

/-- Goes through an open file. -/
def search (settings : Settings) (quarry : Quarry) (input : Input) (fd : Fd) (start : Scan) :
    Prog (Option Trouble × Progress) :=
  Prog.iterate (fun (progress : Progress) => do
    match ← Prog.call (.read fd inputBlock) with
    | .error errno => return .inr (some (.unread errno), progress)
    | .ok bytes =>
        let nul := !settings.nulLines && settings.nulInput != .text && bytes.contains 0
        let scan := { progress.scan with hasNul := progress.scan.hasNul || nul }
        if scan.hasNul && settings.nulInput == .skipped then
          return .inr (none, { progress with scan := { scan with count := 0, written := [] } })
        let all := progress.rest ++ zapped scan bytes
        let (lines, rest) :=
          if bytes.isEmpty then (if all.isEmpty then ([], []) else ([all], []))
          else endedLines (lineEnd settings) all
        let later : Progress :=
          { scan := scan.lines settings quarry input lines
            rest := rest
            read := progress.read + bytes.length }
        match ← writeOut later with
        | .error errno => return .inr (some (.unwritten errno), later)
        | .ok later =>
            return if bytes.isEmpty || later.scan.finished then .inr (none, later)
              else .inl later) { scan := start }

/-- What a search has come to. -/
structure Harvest where
  /-- A line was selected, or what stands for that. -/
  found : Bool := false
  /-- Something went wrong. -/
  failed : Bool := false
  /-- Lines have been shown. -/
  shownAny : Bool := false
  /-- The search is over. -/
  ended : Bool := false
  deriving DecidableEq, Repr, Inhabited

/-- Says that an input cannot be used, unless such things are not to be said. -/
def complainOfInput (name : Bytes) (settings : Settings) (harvest : Harvest) (path : Bytes)
    (errno : Errno) : Prog Harvest := do
  if !settings.silent then complainOf name path errno
  return { harvest with failed := true }

/-- Leaves standard input behind the last selected line, or at its end if the rest of it was not
wanted. -/
def leaveInput (fd : Fd) (status : Option Status) (progress : Progress) : Prog Unit := do
  if fd == Fd.stdin && progress.scan.finished then
    if progress.scan.full then
      let _ ← Prog.call (.seek fd (.back (progress.read - progress.scan.mark)))
    else match status with
      | some status =>
          let _ ← Prog.call (.seek fd (.start status.node.size))
      | none => return ()

/-- What is written of an input when it has been gone through. -/
def summary (settings : Settings) (input : Input) (scan : Scan) : Bytes :=
  let ending (b : UInt8) : UInt8 := if settings.nulNames then 0 else b
  match settings.showing with
  | .count =>
      (if input.named then input.name ++ [ending 58] else [])
        ++ Text.decimal scan.count ++ [newline]
  | .name selected =>
      if (scan.count != 0) == selected then input.name ++ [ending newline] else []
  | _ => []

/-- How many digits a number has. -/
def digitsOf (n : Nat) : Nat := (Text.decimal n).length

/-- Searches an open file. -/
def searchFile (name : Bytes) (settings : Settings) (quarry : Quarry) (named : Bool)
    (shownName : Bytes) (fd : Fd) (harvest : Harvest) : Prog Harvest := do
  let kind ← Prog.call (.kind fd)
  let status := match kind with
    | .ok (.node status) => some status
    | _ => none
  let sized := status.any fun status => status.node.isRegular
  let input : Input :=
    { name := shownName
      named := named
      width :=
        if !settings.tabs then 0
        else if sized then digitsOf ((status.map fun status => status.node.size).getD 0) else 19 }
  let outputStatus ← Prog.call (.kind Fd.stdout)
  let isOutput := match outputStatus with
    | .ok (.node output) => sized && (status.map Status.id) == some output.id
    | _ => false
  if isOutput && settings.showing == .lines && settings.most != some 1 then
    if !settings.silent then complain name (shownName ++ text ": input file is also the output")
    return { harvest with failed := true }
  let (trouble, progress) ← search settings quarry input fd { shownAny := harvest.shownAny }
  let scan := progress.scan
  let harvest := { harvest with shownAny := scan.shownAny }
  match trouble with
  | some (.unwritten errno) =>
      complainOf name (text "write error") errno
      return { harvest with failed := true, ended := true, found := false }
  | some (.unread errno) =>
      let harvest ← complainOfInput name settings harvest shownName errno
      return harvest
  | none =>
      if settings.showing == .nothing && scan.count != 0 then
        return { harvest with found := true, failed := false, ended := true }
      if scan.hasNul && settings.showing == .lines && scan.count != 0 then
        complain name (shownName ++ text ": binary file matches")
      match ← Pass.put (summary settings input scan) with
      | .error errno =>
          complainOf name (text "write error") errno
          return { harvest with failed := true, ended := true, found := false }
      | .ok () =>
          leaveInput fd status progress
          return { harvest with found := harvest.found || scan.count != 0 }

/-! ## Directories -/

/-- A file below a directory is not to be searched. -/
def leavesOut (settings : Settings) (path : Bytes) : Bool :=
  let fits (pattern : Text.Glob) : Bool := pattern.fits (Path.lastName path) || pattern.fits path
  (!settings.include?.isEmpty && !settings.include?.any fits) || settings.exclude.any fits

/-- Opens a file and searches it. -/
def searchPath (name : Bytes) (settings : Settings) (quarry : Quarry) (named : Bool)
    (shownName path : Bytes) (harvest : Harvest) : Prog Harvest := do
  match ← openInput path with
  | .error errno => complainOfInput name settings harvest shownName errno
  | .ok fd =>
      let harvest ← searchFile name settings quarry named shownName fd harvest
      closeInput fd
      return harvest

/-- Searches what has the given names in a directory, given how something below a directory is
searched. A directory without a name to be shown is the one of the process. -/
def searchNames (name : Bytes) (settings : Settings) (quarry : Quarry) (named : Bool)
    (searchBelow : (shownName path : Bytes) → Harvest → Prog Harvest) (shownName path : Bytes) :
    List Bytes → Harvest → Prog Harvest
  | [], harvest => pure harvest
  | entry :: rest, harvest => do
      if harvest.ended then return harvest
      let below := Path.join path entry
      let shownBelow := if shownName.isEmpty then entry else Path.join shownName entry
      let harvest ← match ← Prog.call (.status below settings.followLinks) with
        | .error errno => complainOfInput name settings harvest shownBelow errno
        | .ok status =>
            if status.node.isDirectory then
              if settings.excludeDirectory.any fun pattern => pattern.fits entry then pure harvest
              else searchBelow shownBelow below harvest
            else if status.node.isRegular && !leavesOut settings shownBelow then
              searchPath name settings quarry named shownBelow below harvest
            else pure harvest
      searchNames name settings quarry named searchBelow shownName path rest harvest

/-- Searches everything below a directory, down to a depth. -/
def searchDirectory (name : Bytes) (settings : Settings) (quarry : Quarry) (named : Bool) :
    (depth : Nat) → (shownName path : Bytes) → Harvest → Prog Harvest
  | 0, _, _, harvest => pure harvest
  | depth + 1, shownName, path, harvest => do
      match ← Prog.call (.names path) with
      | .error errno =>
          complainOfInput name settings harvest (if shownName.isEmpty then path else shownName)
            errno
      | .ok names =>
          searchNames name settings quarry named
            (searchDirectory name settings quarry named depth) shownName path names harvest

/-- How deep directories are searched. -/
def deepest : Nat := 200

/-- Searches what an operand names; no operand stands for the directory of the process. -/
def searchOperand (name : Bytes) (settings : Settings) (quarry : Quarry) (named : Bool)
    (operand : Option Bytes) (harvest : Harvest) : Prog Harvest := do
  let path := operand.getD (text ".")
  let searched := settings.directories == .searched
  if path == text "-" then
    let harvest ← searchFile name settings quarry named settings.label Fd.stdin harvest
    return harvest
  match ← Prog.call (.status path true) with
  | .error errno => complainOfInput name settings harvest path errno
  | .ok status =>
      let left := if status.node.isDirectory then
          settings.directories == .skipped || (searched
            && operand.isSome && settings.excludeDirectory.any fun pattern => pattern.fits path)
        else leavesOut settings path
      if left then return harvest
      if status.node.isDirectory && searched then
        searchDirectory name settings quarry named deepest (operand.getD []) path harvest
      else searchPath name settings quarry named path path harvest

/-- Searches what the operands name, one after the other. -/
def searchOperands (name : Bytes) (settings : Settings) (quarry : Quarry) (named : Bool) :
    List (Option Bytes) → Harvest → Prog Harvest
  | [], harvest => pure harvest
  | operand :: rest, harvest => do
      let harvest ← searchOperand name settings quarry named operand harvest
      if harvest.ended then return harvest
      searchOperands name settings quarry named rest harvest

/-! ## The utility -/

/-- The patterns in some bytes, one a line, given the file they stand in. -/
def patternsIn (origin : Option Bytes) (bytes : Bytes) : List PatternText :=
  ((Text.cut newline bytes).zipIdx 1).map fun (pattern, number) =>
    ⟨pattern, origin.map fun path => (path, number)⟩

/-- The patterns of all sources, or what cannot be read. -/
def patternsOf : List PatternSource → Prog (Except (Bytes × Errno) (List PatternText))
  | [] => pure (.ok [])
  | .given patterns :: rest => do
      return (← patternsOf rest).map (patternsIn none patterns ++ ·)
  | .file path :: rest => do
      match ← readInput path with
      | .error errno => return .error (path, errno)
      | .ok bytes =>
          let shownName := if path == text "-" then text "(standard input)" else path
          let patterns :=
            if bytes.isEmpty then [] else patternsIn (some shownName) (chomp bytes)
          return (← patternsOf rest).map (patterns ++ ·)

/-- Warns of repetition signs that repeat nothing. -/
def warn (name : Bytes) : List Regex.Parsed → Prog Unit
  | [] => pure ()
  | parsed :: rest => do
      complainEach name (parsed.idle.map fun sign =>
        text "warning: " ++ text sign ++ text " at start of expression")
      warn name rest

/-- Shows how the utility is used. -/
def showUsage (name : Bytes) : Prog Unit := do
  Prog.complain (text "Usage: grep [OPTION]... PATTERNS [FILE]...\n")
  pointToHelp name

/-- Searches the operands for patterns. -/
def searchAll (name : Bytes) (settings : Settings) (patterns : List PatternText)
    (operands : List Bytes) : Prog Int := do
  match readPatterns settings patterns with
  | .error complaints =>
      complainEach name complaints
      return 2
  | .ok parsed =>
      if settings.kind == some .extended then warn name parsed
      let selectsNone := settings.invert && !settings.whole && !settings.words
        && patterns.any fun pattern => pattern.bytes.isEmpty
      if (settings.most == some 0 || selectsNone) && settings.showing != .name false then
        return 1
      let searched := settings.directories == .searched
      let sources : List (Option Bytes) :=
        if operands.isEmpty then [if searched then none else some (text "-")]
        else operands.map some
      let named := settings.named.getD (1 < operands.length || searched)
      let quarry := Quarry.ofPatterns settings parsed
      let harvest ← searchOperands name settings quarry named sources {}
      return if harvest.failed then 2 else if harvest.found then 0 else 1

/-- The number of lines around selected ones that an option of digits spells. -/
def withDigits (settings : Settings) : Settings :=
  match Text.number? settings.digits with
  | some count => { settings with around := some count }
  | none => settings

end Grep

/-- Shows the lines of files that some patterns fit. -/
def grep : Utility := fun arguments => do
  let name := nameOf arguments
  match Grep.table.read {} Grep.effect arguments.tail with
  | .error complaint =>
      if !complaint.message.isEmpty then complain name complaint.message
      if complaint.help then Grep.showUsage name
      return complaint.code.getD 2
  | .ok (settings, operands) =>
      let settings := Grep.withDigits settings
      complainEach name (List.replicate settings.obsolete
        (text "warning: --unix-byte-offsets (-u) is obsolete"))
      match settings.sources, operands with
      | [], [] =>
          Grep.showUsage name
          return 2
      | [], patterns :: operands =>
          Grep.searchAll name settings (Grep.patternsIn none patterns) operands
      | sources, operands =>
          match ← Grep.patternsOf sources.reverse with
          | .error (path, errno) =>
              complainOf name path errno
              return 2
          | .ok patterns => Grep.searchAll name settings patterns operands

end LineShell.Utility
