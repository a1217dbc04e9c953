import LineShell.Number.Total
import LineShell.Text.Glob
import LineShell.Text.Version
import LineShell.Utility.Options

/-!
# Listing directories

- **`ls`** lists what directories hold.
- **`Listing.columns`** sets names in columns.
-/

namespace LineShell.Utility

namespace Listing

/-- Which names are shown. -/
inductive Shown where
  /-- Names that do not begin with a dot. -/
  | visible
  /-- All names, but not those of the directory and its parent. -/
  | almostAll
  /-- All names. -/
  | all
  deriving DecidableEq, Repr, Inhabited

/-- In which order names are shown. -/
inductive Order where
  /-- In that of their bytes. -/
  | name
  /-- In that of their endings. -/
  | ending
  /-- In that of versions. -/
  | version
  /-- The longer files first. -/
  | size
  /-- Those that were changed later first. -/
  | time
  /-- The shorter names first. -/
  | width
  /-- As the directory has them. -/
  | none
  deriving DecidableEq, Repr, Inhabited

/-- How names are laid out. -/
inductive Format where
  /-- One on each line. -/
  | lines
  /-- In columns, one column after the other. -/
  | columns
  /-- In columns, one line after the other. -/
  | across
  /-- With commas between. -/
  | commas
  deriving DecidableEq, Repr, Inhabited

/-- How names are written. -/
inductive Quoting where
  /-- As they are. -/
  | literal
  /-- As they are, but with a sign in place of what cannot be printed. -/
  | masked
  /-- With quotes where a shell needs them. -/
  | shell
  /-- With quotes in any case. -/
  | shellAlways
  /-- With quotes where a shell needs them, and backslashes before what cannot be printed. -/
  | shellEscaped
  /-- With quotes in any case, and backslashes before what cannot be printed. -/
  | shellAlwaysEscaped
  /-- Between quotation marks, with backslashes. -/
  | marked
  /-- Between quotation marks, with backslashes, where there would be any of these. -/
  | markedIfNeeded
  /-- Between apostrophes, with backslashes. -/
  | plain
  /-- With backslashes. -/
  | escaped
  deriving DecidableEq, Repr, Inhabited

/-- Which signs come behind names. -/
inductive Signs where
  /-- None. -/
  | none
  /-- A slash behind directories. -/
  | slash
  /-- A sign for each kind of file. -/
  | kinds
  /-- A sign for each kind of file and for programs. -/
  | all
  deriving DecidableEq, Repr, Inhabited

/-- How directories are listed. -/
structure Settings where
  /-- Which names are shown. -/
  shown : Shown := .visible
  /-- In which order. -/
  order : Order := .name
  /-- In the opposite order. -/
  reversed : Bool := false
  /-- Directories come first. -/
  directoriesFirst : Bool := false
  /-- How names are laid out. -/
  format : Option Format := .none
  /-- How names are written. -/
  quoting : Option Quoting := .none
  /-- Which signs come behind names. -/
  signs : Signs := .none
  /-- Directories are not listed but shown themselves. -/
  themselves : Bool := false
  /-- What lies below directories is listed too. -/
  recursive : Bool := false
  /-- Links are followed. -/
  follows : Bool := false
  /-- Links that are operands are followed. -/
  followsOperands : Bool := false
  /-- Names of these shapes are not shown. -/
  ignored : List Text.Glob := []
  /-- Names of these shapes are only shown if all are. -/
  hidden : List Text.Glob := []
  /-- How wide lines are. -/
  width : Option Nat := .none
  deriving Repr, Inhabited

/-- The options of `ls`. -/
def table : OptionTable where
  letters := "abcdfghiklmnopqrstuvw:xABCDFGHI:LNQRST:UXZ1"
  names :=
    [("all", "a"), ("almost-all", "A"), ("author", "author"), ("block-size:", "block"),
     ("classify::", "classify"), ("color::", "color"), ("context", "Z"),
     ("dereference", "L"), ("dereference-command-line", "H"),
     ("dereference-command-line-symlink-to-dir", "H"), ("directory", "d"), ("dired", "D"),
     ("escape", "b"), ("file-type", "file-type"), ("format:", "format"),
     ("full-time", "full-time"), ("group-directories-first", "group"), ("hide:", "hide"),
     ("hide-control-chars", "q"), ("human-readable", "h"), ("hyperlink::", "hyperlink"),
     ("ignore:", "I"), ("ignore-backups", "B"), ("indicator-style:", "indicator"),
     ("inode", "i"), ("kibibytes", "k"), ("literal", "N"), ("no-group", "G"),
     ("numeric-uid-gid", "n"), ("quote-name", "Q"), ("quoting-style:", "quoting"),
     ("recursive", "R"), ("reverse", "r"), ("show-control-chars", "show"), ("si", "si"),
     ("size", "s"), ("sort:", "sort"), ("tabsize:", "T"), ("time:", "time"),
     ("time-style:", "time-style"), ("width:", "w"), ("zero", "zero")]

/-- The words for layouts. -/
def formats : List (String × Option Format) :=
  [("verbose", some .lines), ("long", some .lines), ("commas", some .commas),
   ("horizontal", some .across), ("across", some .across), ("vertical", some .columns),
   ("single-column", some .lines)]

/-- The words for orders. -/
def orders : List (String × Order) :=
  [("none", .none), ("time", .time), ("size", .size), ("extension", .ending),
   ("version", .version), ("width", .width)]

/-- The words for ways to write names. -/
def quotings : List (String × Quoting) :=
  [("literal", .literal), ("shell", .shell), ("shell-always", .shellAlways),
   ("shell-escape", .shellEscaped), ("shell-escape-always", .shellAlwaysEscaped),
   ("c", .marked), ("c-maybe", .markedIfNeeded), ("escape", .escaped), ("locale", .plain),
   ("clocale", .marked)]

/-- The words for signs behind names. -/
def signWords : List (String × Signs) :=
  [("none", .none), ("slash", .slash), ("file-type", .kinds), ("classify", .all)]

/-- When something is done. -/
inductive Occasion where
  /-- In any case. -/
  | always
  /-- In no case. -/
  | never
  /-- If names are written to a terminal. -/
  | terminal
  deriving DecidableEq, Repr, Inhabited

/-- The words that say when something is done. -/
def occasions : List (String × Occasion) :=
  [("always", .always), ("yes", .always), ("force", .always), ("never", .never),
   ("no", .never), ("none", .never), ("auto", .terminal), ("tty", .terminal),
   ("if-tty", .terminal)]

/-- The words for the times of files. -/
def times : List (String × Nat) :=
  [("atime", 0), ("access", 0), ("use", 0), ("ctime", 1), ("status", 1), ("mtime", 2),
   ("modification", 2), ("birth", 3), ("creation", 3)]

/-- The effect of an option of `ls`. -/
def effect : OptionEffect Settings := fun settings key value =>
  let given := value.getD []
  match key with
  | "a" => .ok { settings with shown := .all }
  | "A" => .ok { settings with shown := .almostAll }
  | "B" => .ok { settings with
      ignored := settings.ignored ++ [Text.Glob.parse (text "*~"), Text.Glob.parse (text ".*~")] }
  | "b" => .ok { settings with quoting := some .escaped }
  | "C" => .ok { settings with format := some .columns }
  | "color" => do
      let _ ← choice "--color" occasions (value.getD (text "always"))
      return settings
  | "d" => .ok { settings with themselves := true }
  | "F" => .ok { settings with signs := .all }
  | "classify" => do
      let occasion ← choice "--classify" occasions (value.getD (text "always"))
      return if occasion == .always then { settings with signs := .all } else settings
  | "f" => .ok { settings with shown := .all, order := .none }
  | "file-type" => .ok { settings with signs := .kinds }
  | "format" => do return { settings with format := ← choice "--format" formats given }
  | "group" => .ok { settings with directoriesFirst := true }
  | "H" => .ok { settings with followsOperands := true }
  | "hide" => .ok { settings with hidden := settings.hidden ++ [Text.Glob.parse given] }
  | "hyperlink" => do
      let _ ← choice "--hyperlink" occasions (value.getD (text "always"))
      return settings
  | "I" => .ok { settings with ignored := settings.ignored ++ [Text.Glob.parse given] }
  | "indicator" => do return { settings with signs := ← choice "--indicator-style" signWords given }
  | "L" => .ok { settings with follows := true }
  | "m" => .ok { settings with format := some .commas }
  | "N" => .ok { settings with quoting := some .literal }
  | "p" => .ok { settings with signs := .slash }
  | "Q" => .ok { settings with quoting := some .marked }
  | "q" => .ok { settings with quoting := some .masked }
  | "quoting" => do
      return { settings with quoting := some (← choice "--quoting-style" quotings given) }
  | "R" => .ok { settings with recursive := true }
  | "r" => .ok { settings with reversed := true }
  | "S" => .ok { settings with order := .size }
  | "sort" => do return { settings with order := ← choice "--sort" orders given }
  | "t" => .ok { settings with order := .time }
  | "time" => do
      let _ ← choice "--time" times given
      return settings
  | "U" => .ok { settings with order := .none }
  | "v" => .ok { settings with order := .version }
  | "w" =>
      match Amount.parse "" given with
      | .ok width => .ok { settings with width := some width }
      | .error _ => .error
          { message := text "invalid line width: " ++ Quote.plain given, code := some 2 }
  | "X" => .ok { settings with order := .ending }
  | "x" => .ok { settings with format := some .across }
  | "1" => .ok { settings with format := some .lines }
  | _ => .ok settings

/-! ## Names -/

/-- A file that is shown. -/
structure Entry where
  /-- Its name. -/
  name : Bytes
  /-- What it is. -/
  node : Node
  deriving Repr, Inhabited

/-- The letter that stands for a byte behind a backslash between quotation marks. -/
def letter? (b : UInt8) : Option UInt8 :=
  match b with
  | 7 => some 97
  | 8 => some 98
  | 9 => some 116
  | 10 => some 110
  | 11 => some 118
  | 12 => some 102
  | 13 => some 114
  | _ => none

/-- A byte with backslashes where it needs them, some bytes needing one in any case. -/
def escapedByte (stubborn : Bytes) (b : UInt8) : Bytes :=
  match letter? b with
  | some letter => [92, letter]
  | none =>
      if stubborn.contains b then [92, b]
      else if Quote.isPrintable b then [b]
      else Quote.octal b

/-- A name between quotation marks. -/
def betweenMarks (name : Bytes) : Bytes := 34 :: name.flatMap (escapedByte [34, 92]) ++ [34]

/-- A name with quotes around it that holds what cannot be printed as it is. -/
def betweenQuotes (name : Bytes) : Bytes :=
  if name.contains 39 && Quote.fitsQuotationMarks name then 34 :: name ++ [34]
  else 39 :: name.flatMap (fun b => if b = 39 then text "'\\''" else [b]) ++ [39]

/-- A name as it is written. -/
def Quoting.write (quoting : Quoting) (name : Bytes) : Bytes :=
  match quoting with
  | .literal => name
  | .masked => name.map fun b => if Quote.isPrintable b then b else 63
  | .shell =>
      if Quote.needsQuotes false (name.filter Quote.isPrintable) || name.any Text.isSpace then
        betweenQuotes name
      else name
  | .shellAlways => betweenQuotes name
  | .shellEscaped => Quote.ifNeeded false name
  | .shellAlwaysEscaped => Quote.always name
  | .marked => betweenMarks name
  | .markedIfNeeded =>
      if betweenMarks name == 34 :: name ++ [34] then name else betweenMarks name
  | .plain => Quote.plain name
  | .escaped => name.flatMap (escapedByte [32, 92])

/-- The sign behind a name. -/
def Signs.of (signs : Signs) (node : Node) : Bytes :=
  match signs, node.content with
  | .none, _ => []
  | _, .directory .. => [47]
  | .slash, _ => []
  | _, .link _ => [64]
  | _, .pipe => [124]
  | .all, .regular _ => if node.runnable then [42] else []
  | _, _ => []

/-- The ending of a name, with its point. -/
def endingOf (name : Bytes) : Bytes :=
  let back := name.reverse.takeWhile (· != 46)
  if back.length < name.length then 46 :: back.reverse else []

/-- One byte string comes before another one, or is the same. -/
def orderBytes (a b : Bytes) : Ordering :=
  if a == b then .eq else if Text.bytesLe a b then .lt else .gt

/-- Compares two files. -/
def Order.compare (order : Order) (a b : Entry) : Ordering :=
  match order with
  | .name => orderBytes a.name b.name
  | .ending => (orderBytes (endingOf a.name) (endingOf b.name)).then (orderBytes a.name b.name)
  | .version => (Text.Version.order a.name b.name).then (orderBytes a.name b.name)
  | .size => (Ord.compare b.node.size a.node.size).then (orderBytes a.name b.name)
  | .time => (Ord.compare b.node.changed a.node.changed).then (orderBytes a.name b.name)
  | .width => (Ord.compare a.name.length b.name.length).then (orderBytes a.name b.name)
  | .none => .eq

/-- Files in the order that is asked for. -/
def Settings.sort (settings : Settings) (entries : List Entry) : List Entry :=
  let before (a b : Entry) : Bool :=
    let directories := if settings.directoriesFirst then
        Ord.compare (if a.node.isDirectory then 0 else 1) (if b.node.isDirectory then 0 else 1)
      else .eq
    let own := settings.order.compare a b
    directories.then (if settings.reversed then own.swap else own) != .gt
  if settings.order == .none && !settings.directoriesFirst then entries
  else entries.mergeSort before

/-- A name in a directory is shown. -/
def Settings.shows (settings : Settings) (name : Bytes) : Bool :=
  (settings.shown != .visible
      || (name.head? != some 46 && !settings.hidden.any fun glob => glob.fits name))
    && !settings.ignored.any fun glob => glob.fits name

/-! ## Layout -/

/-- The least width of a column. -/
def leastColumn : Nat := 3

/-- The gap from one column to another, with tabs where these save something, if they may be
used. -/
def indent (tabs : Bool) : (fuel : Nat) → (place goal : Nat) → Bytes
  | 0, _, _ => []
  | fuel + 1, place, goal =>
      if goal ≤ place then []
      else if tabs && (place + 1) / 8 < goal / 8 then
        9 :: indent tabs fuel (place + (8 - place % 8)) goal
      else 32 :: indent tabs fuel (place + 1) goal

/-- The width of lines that are never full. -/
def boundless : Nat := 1000000

/-- The widths of so many columns of names, without the gap behind the last one. -/
def columnWidths (isAcross : Bool) (names : List Bytes) (count : Nat) : List Nat :=
  let rows := (names.length + count - 1) / count
  (names.zipIdx.foldl (fun (widths : Array Nat) (name, index) =>
    let column := if isAcross then index % count else index / rows
    let width := name.length + (if column + 1 = count then 0 else 2)
    widths.setIfInBounds column (max width (widths.getD column leastColumn)))
    (Array.replicate count leastColumn)).toList

/-- The greatest number of columns, up to a given one, that fits in a width. -/
def fittingCount (isAcross : Bool) (width : Nat) (names : List Bytes) : (most : Nat) → Nat
  | 0 => 1
  | most + 1 =>
      if Number.total (columnWidths isAcross names (most + 1)) < width then most + 1
      else fittingCount isAcross width names most

/-- A line of names in columns. -/
def columnLine (tabs : Bool) (widths : List Nat) : (place start : Nat) → List Bytes → Bytes
  | _, _, [] => [newline]
  | place, start, name :: rest =>
      let gap := indent tabs (start + 1) place start
      gap ++ name
        ++ columnLine tabs widths.tail (start + name.length) (start + widths.headD 0) rest

/-- Names in columns, which go down or across. -/
def columns (isAcross : Bool) (width : Nat) (names : List Bytes) : Bytes :=
  let most := min names.length (max 1 (width / leastColumn))
  let count := fittingCount isAcross width names most
  let widths := columnWidths isAcross names count
  let rows := (names.length + count - 1) / count
  (List.range rows).flatMap fun row =>
    let line := (List.range count).filterMap fun column =>
      if isAcross then names[row * count + column]? else
        if column * rows + row < names.length then names[column * rows + row]? else none
    columnLine (width < boundless) widths 0 0 line

/-- Names with commas between, behind so many bytes of a line. -/
def commas (width : Nat) : (place : Nat) → List Bytes → Bytes
  | _, [] => [newline]
  | 0, name :: rest => name ++ commas width (max 1 name.length) rest
  | place, name :: rest =>
      if place + name.length + 2 < width then
        text ", " ++ name ++ commas width (place + name.length + 2) rest
      else text ",\n" ++ name ++ commas width (max 1 name.length) rest

/-- How names come out. -/
structure Style where
  /-- How they are laid out. -/
  format : Format
  /-- How they are written. -/
  quoting : Quoting
  /-- How wide lines are. -/
  width : Nat
  deriving Repr, Inhabited

/-- Names laid out. -/
def Style.layOut (style : Style) (names : List Bytes) : Bytes :=
  if names.isEmpty then []
  else match style.format with
    | .lines => unrows names
    | .columns => columns false style.width names
    | .across => columns true style.width names
    | .commas => commas style.width 0 names

/-- Files laid out. -/
def showEntries (settings : Settings) (style : Style) (entries : List Entry) : Bytes :=
  style.layOut ((settings.sort entries).map fun entry =>
    style.quoting.write entry.name ++ settings.signs.of entry.node)

/-! ## Directories -/

/-- What came of listing: what is written, and the exit code. -/
structure Outcome where
  /-- What is written, the last part first. -/
  written : List Bytes := []
  /-- The exit code. -/
  code : Int := 0
  /-- A part has been written. -/
  later : Bool := false
  deriving Repr, Inhabited

/-- The outcome with a worse code. -/
def Outcome.fail (outcome : Outcome) (code : Int) : Outcome :=
  { outcome with code := max outcome.code code }

/-- More than the names of files has to be known. -/
def Settings.looksAtFiles (settings : Settings) : Bool :=
  settings.signs != .none || settings.recursive || settings.directoriesFirst
    || settings.order == .size || settings.order == .time

/-- The entries of a directory. -/
def entriesOf (name : Bytes) (settings : Settings) (path : Bytes) :
    List Bytes → Outcome → Prog (List Entry × Outcome)
  | [], outcome => pure ([], outcome)
  | entry :: rest, outcome => do
      let whole := if path == Path.here then entry else Path.join path entry
      let (found, outcome) ← match ← Prog.call (.status whole settings.follows) with
        | .ok status => pure (Except.ok status, outcome)
        | .error errno => do
            let own ← Prog.call (.status whole false)
            if !settings.looksAtFiles then pure (own, outcome) else do
              complainOf name (text "cannot access " ++ Quote.always whole) errno
              pure (own, outcome.fail 1)
      let (entries, outcome) ← entriesOf name settings path rest outcome
      match found with
      | .ok status => return (⟨entry, status.node⟩ :: entries, outcome)
      | .error _ => return (entries, outcome)

/-- How deep directories are listed. -/
def depth : Nat := 4096

/-- Lists directories one after the other, and what lies below them. -/
def listEach (name : Bytes) (settings : Settings) (style : Style) (headed : Bool)
    (failing : Int) : (depth : Nat) → List Bytes → Outcome → Prog Outcome
  | _, [], outcome => pure outcome
  | 0, _ :: _, outcome => pure outcome
  | depth + 1, path :: rest, outcome => do
      match ← Prog.call (.names path) with
      | .error errno =>
          complainOf name (text "cannot open directory " ++ Quote.always path) errno
          listEach name settings style headed failing (depth + 1) rest (outcome.fail failing)
      | .ok names =>
          let own := if settings.shown == .all then [Path.here, Path.up] else []
          let (entries, outcome) ← entriesOf name settings path
            ((own ++ names).filter settings.shows) outcome
          let heading := if headed then
              (if outcome.later then [newline] else []) ++ style.quoting.write path ++ text ":\n"
            else []
          let outcome := { outcome with
            later := true
            written := showEntries settings style entries :: heading :: outcome.written }
          let inner := if settings.recursive then
              ((settings.sort entries).filter fun entry =>
                entry.node.isDirectory && entry.name != Path.here && entry.name != Path.up).map
                  fun entry => Path.join path entry.name
            else []
          let outcome ← listEach name settings style headed 1 depth inner outcome
          listEach name settings style headed failing (depth + 1) rest outcome

/-- Looks at operands. -/
def findOperands (name : Bytes) (settings : Settings) : List Bytes → Outcome →
    Prog (List Entry × Outcome)
  | [], outcome => pure ([], outcome)
  | path :: rest, outcome => do
      let own ← Prog.call (.status path false)
      let behind ← Prog.call (.status path true)
      let follows := settings.follows || settings.followsOperands
      let leadsToDirectory := match behind with
        | .ok status => status.node.isDirectory
        | .error _ => false
      let found := if follows
          || (leadsToDirectory && !settings.themselves && settings.signs != .all) then behind
        else own
      match found with
      | .ok status =>
          let (entries, outcome) ← findOperands name settings rest outcome
          return (⟨path, status.node⟩ :: entries, outcome)
      | .error errno =>
          complainOf name (text "cannot access " ++ Quote.always path) errno
          findOperands name settings rest (outcome.fail 2)

/-- The width of lines when none is given. -/
def usualWidth : Prog Nat := do
  match (← Prog.valueOf (text "COLUMNS")).bind Text.number? with
  | some width => return width
  | none => return 80

/-- How names come out. -/
def styleOf (settings : Settings) : Prog Style := do
  let isTerminal := match ← Prog.call (.kind Fd.stdout) with
    | .ok .terminal => true
    | _ => false
  let width ← match settings.width with
    | some width => pure (if width = 0 then boundless else width)
    | none => usualWidth
  return {
    format := settings.format.getD (if isTerminal then .columns else .lines)
    quoting := settings.quoting.getD (if isTerminal then .shellEscaped else .literal)
    width := width }

end Listing

open Listing in
/-- Lists what directories hold. -/
def ls : Utility := fun arguments =>
  withOptions table 2 {} effect arguments fun name settings operands => do
    let style ← styleOf settings
    let operands := if operands.isEmpty then [Path.here] else operands
    let (found, outcome) ← findOperands name settings operands {}
    let (directories, plain) := found.partition fun entry =>
      entry.node.isDirectory && !settings.themselves
    let outcome := { outcome with
      later := !plain.isEmpty
      written := [showEntries settings style plain] }
    let headed := settings.recursive || 1 < operands.length
    let outcome ← listEach name settings style headed 2 depth
      ((settings.sort directories).map Entry.name) outcome
    emit name outcome.written.reverse.flatten outcome.code (.plain 2)

/-! ## `pwd` -/

namespace WorkingDirectory

/-- The options of `pwd`. -/
def table : OptionTable where
  letters := "LP"
  names := [("logical", "L"), ("physical", "P")]

/-- The path in a variable leads to the directory and shows no points. -/
def isTrue (path : Bytes) : Prog Bool := do
  let names := Text.cut Path.slash path
  if path.head? != some Path.slash || names.contains Path.here || names.contains Path.up then
    return false
  let there ← Prog.call (.status path true)
  let here ← Prog.call (.status Path.here true)
  return match there, here with
    | .ok there, .ok here => there.id == here.id
    | _, _ => false

end WorkingDirectory

open WorkingDirectory in
/-- Writes the path of the directory. -/
def pwd : Utility := fun arguments =>
  withOptions table 1 false (fun _ key _ => .ok (key == "L")) arguments
    fun name logical operands => do
      if !operands.isEmpty then complain name (text "ignoring non-option arguments")
      let known ← Prog.valueOf (text "PWD")
      if logical then
        if let some path := known then
          if ← isTrue path then return ← emitLast name (path ++ [newline])
      match ← Prog.call .currentDirectory with
      | .ok path => emitLast name (path ++ [newline])
      | .error errno =>
          complainOf name (text "error retrieving current directory") errno
          return 1

end LineShell.Utility
