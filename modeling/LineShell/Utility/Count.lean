import LineShell.Number.Total
import LineShell.Utility.Stream

/-!
# Counting

- **`Count.ofBytes`** counts what is in some bytes.
- **`wc`** writes how much is in files.
-/

namespace LineShell.Utility

/-- How much there is of what can be counted. -/
structure Count where
  /-- Line feeds. -/
  lines : Nat := 0
  /-- Words: runs of bytes between blanks, some of which can be seen. -/
  words : Nat := 0
  /-- Bytes. -/
  bytes : Nat := 0
  /-- The columns of the longest line. -/
  columns : Nat := 0
  deriving DecidableEq, Repr, Inhabited

namespace Count

/-- How far counting has come in some bytes. -/
structure Progress where
  /-- What has been counted. -/
  count : Count := {}
  /-- A word has begun and not ended. -/
  inside : Bool := false
  /-- The columns of the present line. -/
  column : Nat := 0

/-- The present line counts as one of the longest. -/
def Progress.endLine (progress : Progress) : Progress :=
  { progress with
    count := { progress.count with columns := max progress.count.columns progress.column }
    column := 0
    inside := false }

/-- The state after a byte. A byte that can neither be seen nor parts words changes nothing. -/
def Progress.step (progress : Progress) (b : UInt8) : Progress :=
  let counted : Progress :=
    { progress with count := { progress.count with bytes := progress.count.bytes + 1 } }
  if b == newline then
    ({ counted with count := { counted.count with lines := counted.count.lines + 1 } }).endLine
  else if b == 13 || b == 12 then counted.endLine
  else if b == 9 then
    { counted with column := (progress.column / 8 + 1) * 8, inside := false }
  else if b == 32 then { counted with column := progress.column + 1, inside := false }
  else if b == 11 then { counted with inside := false }
  else if Text.isPrint b then
    { counted with
      count := { counted.count with
        words := counted.count.words + (if progress.inside then 0 else 1) }
      column := progress.column + 1
      inside := true }
  else counted

/-- What is in some bytes. -/
def ofBytes (bytes : Bytes) : Count :=
  (bytes.foldl Progress.step {}).endLine.count

/-- What is in two files together. -/
def add (a b : Count) : Count :=
  ⟨a.lines + b.lines, a.words + b.words, a.bytes + b.bytes, max a.columns b.columns⟩

/-- When a line for all files together is written. -/
inductive Totals where
  /-- If there are several files. -/
  | several
  /-- In any case. -/
  | always
  /-- In any case, and no other lines are. -/
  | only
  /-- Never. -/
  | never
  deriving DecidableEq, Repr, Inhabited

/-- What is counted and how it is shown. -/
structure Settings where
  /-- Lines are counted. -/
  lines : Bool := false
  /-- Words are counted. -/
  words : Bool := false
  /-- Characters are counted, each of which is a byte. -/
  characters : Bool := false
  /-- Bytes are counted. -/
  bytes : Bool := false
  /-- The longest line is measured. -/
  columns : Bool := false
  /-- When a line for all files together is written. -/
  totals : Totals := .several
  /-- The file that lists the files. -/
  list? : Option Bytes := none
  deriving DecidableEq, Repr, Inhabited

/-- The options of `wc`. -/
def table : OptionTable where
  letters := "clLmw"
  names :=
    [("bytes", "c"), ("chars", "m"), ("lines", "l"), ("words", "w"), ("debug", "debug"),
     ("files0-from:", "files0-from"), ("max-line-length", "L"), ("total:", "total")]

/-- The words for when a line for all files together is written. -/
def totalWords : List (String × Totals) :=
  [("auto", .several), ("always", .always), ("only", .only), ("never", .never)]

/-- The effect of an option of `wc`. -/
def effect : OptionEffect Settings := fun settings key value =>
  match key with
  | "c" => .ok { settings with bytes := true }
  | "m" => .ok { settings with characters := true }
  | "l" => .ok { settings with lines := true }
  | "w" => .ok { settings with words := true }
  | "L" => .ok { settings with columns := true }
  | "files0-from" => .ok { settings with list? := value }
  | "total" => do
      return { settings with totals := ← choice "--total" totalWords (value.getD []) }
  | _ => .ok settings

namespace Settings

/-- The settings with what is counted if nothing is said. -/
def completed (settings : Settings) : Settings :=
  if settings.lines || settings.words || settings.characters || settings.bytes
      || settings.columns then settings
  else { settings with lines := true, words := true, bytes := true }

/-- The counts that are shown, in their order. -/
def pick (settings : Settings) (count : Count) : List Nat :=
  (if settings.lines then [count.lines] else [])
    ++ (if settings.words then [count.words] else [])
    ++ (if settings.characters then [count.bytes] else [])
    ++ (if settings.bytes then [count.bytes] else [])
    ++ (if settings.columns then [count.columns] else [])

/-- The line that shows counts, each in a field of the given width. -/
def row (settings : Settings) (width : Nat) (count : Count) (label : Option Bytes) : Bytes :=
  List.intercalate [32] ((settings.pick count).map fun n => padLeft width (Text.decimal n))
    ++ (match label with
      | some label => 32 :: (if label.contains newline then Quote.named label else label)
      | none => [])
    ++ [newline]

/-- Only bytes are counted, which can be done without reading. -/
def onlyBytes (settings : Settings) : Bool :=
  settings.bytes && !(settings.lines || settings.words || settings.characters || settings.columns)

end Settings

/-- What an operand is, before it is read. -/
def lookAt (path : Bytes) : Prog (Option Node) := do
  if path == text "-" then
    match ← Prog.call (.kind Fd.stdin) with
    | .ok (.node status) => return some status.node
    | .ok _ => return some { content := .pipe, mode := 0 }
    | .error _ => return none
  else match ← Prog.call (.status path true) with
    | .ok status => return some status.node
    | .error _ => return none

/-- What the operands are, as far as they are anything. -/
def lookAtAll : List Bytes → Prog (List Node)
  | [] => pure []
  | path :: rest => do
      let node ← lookAt path
      return node.toList ++ (← lookAtAll rest)

/-- The width of the fields: wide enough for the bytes of all files together, and at least seven
when something is no file. -/
def fieldWidth (nodes : List Node) : Nat :=
  let total := Number.total ((nodes.filter Node.isRegular).map Node.size)
  let digits := (Text.decimal total).length
  if nodes.all Node.isRegular then digits else max digits 7

/-- How counting has gone so far. -/
structure Tally where
  /-- The sum of the counts. -/
  sum : Count := {}
  /-- Some file could not be read. -/
  unread : Bool := false
  /-- Some line could not be written. -/
  unwritten : Bool := false
  deriving DecidableEq, Repr, Inhabited

/-- Writes a line of counts. -/
def Tally.display (tally : Tally) (line : Bytes) : Prog Tally := do
  match ← Prog.write Fd.stdout line with
  | .ok () => return tally
  | .error _ => return { tally with unwritten := true }

/-- The size of the memory pages, of which the size of a file that is none can be a multiple. -/
def pageSize : Nat := 4096

/-- How many bytes of an open file are left, if that can be told without reading. -/
def left? (fd : Fd) : Prog (Option Nat) := do
  match ← Prog.call (.kind fd) with
  | .ok (.node status) =>
      if status.node.isRegular && status.node.size % pageSize != 0 then
        match ← Prog.call (.seek fd (.ahead 0)) with
        | .ok place => return some (status.node.size - place)
        | .error _ => return none
      else return none
  | _ => return none

/-- Counts what is in an open file, or says why that cannot be done. -/
def ofFile (settings : Settings) (fd : Fd) : Prog (Except Errno Count) := do
  let left ← if settings.onlyBytes then left? fd else pure none
  match left with
  | some size => return .ok { bytes := size }
  | none => return (← Prog.readAll fd).map ofBytes

/-- Counts what is in files. A name that is missing has a number in the list of files. -/
def countEach (name : Bytes) (settings : Settings) (width : Nat) (label : Bytes → Option Bytes) :
    (number : Nat) → Tally → List Bytes → Prog Tally
  | _, tally, [] => pure tally
  | number, tally, path :: rest => do
      if path.isEmpty then
        let place := match settings.list? with
          | some list => Quote.named list ++ text ":" ++ Text.decimal number ++ text ": "
          | none => []
        complain name (place ++ text "invalid zero-length file name")
        countEach name settings width label (number + 1) { tally with unread := true } rest
      else match ← openInput path with
      | .error errno =>
          complainOfFile name path errno
          countEach name settings width label (number + 1) { tally with unread := true } rest
      | .ok fd =>
          let result ← ofFile settings fd
          closeInput fd
          let (count, tally) ← match result with
            | .ok count => pure (count, tally)
            | .error errno => do
                complainOf name (match label path with
                  | some path => Quote.named path
                  | none => Quote.always (text "standard input")) errno
                pure ({}, { tally with unread := true })
          let tally ←
            if settings.totals == .only then pure tally
            else tally.display (settings.row width count (label path))
          countEach name settings width label (number + 1)
            { tally with sum := tally.sum.add count } rest

/-- Counts what is in files and writes the results. -/
def countAll (name : Bytes) (settings : Settings) (operands : List Bytes) : Prog Int := do
  let named := !operands.isEmpty || settings.list?.isSome
  let paths := if named then operands else [text "-"]
  let single := paths.length ≤ 1 && (settings.pick {}).length = 1
  let nodes ← if single then pure [] else lookAtAll paths
  let width := if single || settings.totals == .only then 1 else fieldWidth nodes
  let tally ← countEach name settings width (fun path => if named then some path else none) 1 {}
    paths
  let totals : Bool := match settings.totals with
    | .several => 1 < paths.length
    | .never => false
    | _ => true
  let tally ←
    if totals then
      tally.display (settings.row width tally.sum
        (if settings.totals == .only then none else some (text "total")))
    else pure tally
  closingInput name (text "-") paths do
    if tally.unwritten then
      match ← Prog.call (.kind Fd.stdout) with
      | .ok _ => complain name (text "write error")
      | .error errno => complainOf name (text "write error") errno
    return if tally.unread || tally.unwritten then 1 else 0

/-- The names in a list of files, a NUL behind each. -/
def listed (bytes : Bytes) : List Bytes := (Text.linesBy 0 bytes).map (withoutDelimiter 0)

end Count

/-- Writes how much is in files. -/
def wc : Utility := fun arguments =>
  withOptions Count.table 1 {} Count.effect arguments fun name settings operands => do
    let settings := settings.completed
    match settings.list?, operands with
    | none, operands => Count.countAll name settings operands
    | some _, operand :: _ =>
        complain name (text "extra operand " ++ Quote.always operand
          ++ text "\nfile operands cannot be combined with --files0-from")
        pointToHelp name
        return 1
    | some list, [] =>
        match ← readInput list with
        | .error errno =>
            complainOf name (text "cannot open " ++ Quote.always list ++ text " for reading") errno
            return 1
        | .ok bytes => Count.countAll name settings (Count.listed bytes)

end LineShell.Utility
