import LineShell.Utility.Order
import LineShell.Utility.Stream

/-!
# Sorting lines

- **`Sorting.Key`** is a part of a line by which lines are sorted.
- **`Sorting.order`** compares two lines by keys, and by all their bytes in the end.
- **`sort`** sorts, merges or checks files.
-/

namespace LineShell.Utility.Sorting

/-! ## Keys -/

/-- How the parts of lines that a key finds are compared. -/
structure KeyOrdering where
  /-- Decimal numbers. -/
  numeric : Bool := false
  /-- Numbers that may have an exponent. -/
  general : Bool := false
  /-- Numbers with letters. -/
  human : Bool := false
  /-- Months. -/
  month : Bool := false
  /-- Versions. -/
  version : Bool := false
  /-- In an order of no meaning. -/
  random : Bool := false
  /-- Only blanks, letters and digits count. -/
  dictionary : Bool := false
  /-- Only characters that can be printed count. -/
  printing : Bool := false
  /-- The case of letters does not matter. -/
  fold : Bool := false
  /-- The order is turned round. -/
  reverse : Bool := false
  /-- Blanks at the beginning of the first field do not count. -/
  startBlanks : Bool := false
  /-- Blanks at the beginning of the last field do not count. -/
  endBlanks : Bool := false
  deriving DecidableEq, Repr, Inhabited

/-- Whose blanks the letter for blanks is about. -/
inductive BlankSide where
  /-- Those of the first field. -/
  | start
  /-- Those of the last field. -/
  | finish
  /-- Those of both. -/
  | both
  deriving DecidableEq, Repr, Inhabited

namespace KeyOrdering

/-- The ordering with what a letter asks for, if the letter asks for anything. -/
def add? (ordering : KeyOrdering) (side : BlankSide) (letter : UInt8) : Option KeyOrdering :=
  match Char.ofNat letter.toNat with
  | 'b' => some { ordering with
      startBlanks := ordering.startBlanks || side != .finish
      endBlanks := ordering.endBlanks || side != .start }
  | 'd' => some { ordering with dictionary := true, printing := false }
  | 'f' => some { ordering with fold := true }
  | 'g' => some { ordering with general := true }
  | 'h' => some { ordering with human := true }
  | 'i' => some { ordering with printing := !ordering.dictionary }
  | 'M' => some { ordering with month := true }
  | 'n' => some { ordering with numeric := true }
  | 'R' => some { ordering with random := true }
  | 'r' => some { ordering with reverse := true }
  | 'V' => some { ordering with version := true }
  | _ => none

/-- The ordering with what letters ask for, and the letters that ask for nothing. -/
def addAll (ordering : KeyOrdering) (side : BlankSide) : Bytes → KeyOrdering × Bytes
  | [] => (ordering, [])
  | letter :: rest =>
      match ordering.add? side letter with
      | some ordering => addAll ordering side rest
      | none => (ordering, letter :: rest)

/-- Nothing is asked for. -/
def isDefault (ordering : KeyOrdering) : Bool := ordering == {}

/-- Some bytes do not count. -/
def ignores (ordering : KeyOrdering) : Bool := ordering.dictionary || ordering.printing

/-- The letters of what is asked for and cannot be had together. -/
def conflict? (ordering : KeyOrdering) : Option String :=
  let count (flag : Bool) : Nat := if flag then 1 else 0
  let kinds := count ordering.numeric + count ordering.general + count ordering.human
    + count ordering.month + count (ordering.version || ordering.random || ordering.ignores)
  let letter (flag : Bool) (name : String) : String := if flag then name else ""
  if kinds ≤ 1 then none
  else some (letter ordering.dictionary "d" ++ letter ordering.fold "f"
    ++ letter ordering.general "g" ++ letter ordering.human "h" ++ letter ordering.printing "i"
    ++ letter ordering.month "M" ++ letter ordering.numeric "n" ++ letter ordering.random "R"
    ++ letter ordering.version "V")

/-- The way to compare. -/
def fieldOrder (ordering : KeyOrdering) : FieldOrder :=
  if ordering.numeric then .numeric
  else if ordering.general then .general
  else if ordering.human then .human
  else if ordering.month then .month
  else if ordering.version then .version
  else .text

/-- The bytes of a part that count. -/
def counted (ordering : KeyOrdering) (bytes : Bytes) : Bytes :=
  let kept :=
    if ordering.dictionary then bytes.filter fun b => Text.isAlnum b || DecimalValue.isBlank b
    else if ordering.printing then bytes.filter Text.isPrint
    else bytes
  if ordering.fold then kept.map Text.upper else kept

end KeyOrdering

/-- A part of a line by which lines are sorted. -/
structure Key where
  /-- How many fields come before it, unless it begins with the line. -/
  firstField : Option Nat := none
  /-- How many bytes of its first field come before it. -/
  firstByte : Nat := 0
  /-- How many fields come before its end, unless it ends with the line. -/
  lastField : Option Nat := none
  /-- How many bytes of its last field belong to it; all of them if none. -/
  lastByte : Nat := 0
  /-- How it is compared. -/
  ordering : KeyOrdering := {}
  deriving Repr, Inhabited

namespace Key

/-- A number, and what follows it. -/
def countAt (phrase : String) (bytes : Bytes) : Except Complaint (Nat × Bytes) :=
  let digits := bytes.takeWhile Text.isDigit
  if digits.isEmpty then
    refuse (text phrase ++ text ": invalid count at start of " ++ Quote.plain bytes)
  else .ok (min Amount.greatest (Text.valueOf 10 digits), bytes.drop digits.length)

/-- The complaint about the description of a key. -/
def malformed {α : Type} (phrase : String) (whole : Bytes) : Except Complaint α :=
  refuse (text phrase ++ text ": invalid field specification " ++ Quote.plain whole)

/-- The number of bytes behind a point, if there is one. -/
def bytesAt (bytes : Bytes) : Except Complaint (Option Nat × Bytes) :=
  match bytes with
  | 46 :: rest =>
      (countAt "invalid number after '.'" rest).map fun (count, rest) => (some count, rest)
  | _ => .ok (none, bytes)

/-- The key that a text describes. -/
def parse (whole : Bytes) : Except Complaint Key := do
  let (field, rest) ← countAt "invalid number at field start" whole
  if field = 0 then malformed "field number is zero" whole
  else
    let (firstByte, rest) ← bytesAt rest
    if firstByte == some 0 then malformed "character offset is zero" whole
    else
      let byte := (firstByte.getD 1) - 1
      let (ordering, rest) := ({} : KeyOrdering).addAll .start rest
      let key : Key :=
        { firstField := if field = 1 && byte = 0 then none else some (field - 1)
          firstByte := byte
          ordering := ordering }
      match rest with
      | 44 :: rest =>
          let (field, rest) ← countAt "invalid number after ','" rest
          if field = 0 then malformed "field number is zero" whole
          else
            let (lastByte, rest) ← bytesAt rest
            let (ordering, rest) := ordering.addAll .finish rest
            if !rest.isEmpty then malformed "stray character in field spec" whole
            else return { key with
              lastField := some (field - 1)
              lastByte := lastByte.getD 0
              ordering := ordering }
      | [] => return key
      | _ => malformed "stray character in field spec" whole

/-- A line behind so many fields. With a separator, fields lie between its occurrences; without
one, blanks in front belong to a field. -/
def afterFields (separator : Option UInt8) : (count : Nat) → Bytes → Bytes
  | 0, bytes => bytes
  | count + 1, bytes =>
      if bytes.isEmpty then []
      else match separator with
        | some separator => afterFields (some separator) count
            ((bytes.dropWhile (· != separator)).drop 1)
        | none => afterFields none count
            ((bytes.dropWhile DecimalValue.isBlank).dropWhile (!DecimalValue.isBlank ·))

/-- How many bytes of a line come before the part. -/
def start (separator : Option UInt8) (key : Key) (line : Bytes) : Nat :=
  let rest := match key.firstField with
    | none => line
    | some count => afterFields separator (min count line.length) line
  let rest := if key.ordering.startBlanks then rest.dropWhile DecimalValue.isBlank else rest
  min line.length (line.length - rest.length + key.firstByte)

/-- How many bytes of a line come before the end of the part. -/
def stop (separator : Option UInt8) (key : Key) (line : Bytes) : Nat :=
  match key.lastField with
  | none => line.length
  | some count =>
      if key.lastByte = 0 then
        let rest := afterFields separator (min count line.length) line
        let last := match separator with
          | some separator => rest.dropWhile (· != separator)
          | none => (rest.dropWhile DecimalValue.isBlank).dropWhile (!DecimalValue.isBlank ·)
        line.length - last.length
      else
        let rest := afterFields separator (min count line.length) line
        let rest := if key.ordering.endBlanks then rest.dropWhile DecimalValue.isBlank else rest
        min line.length (line.length - rest.length + key.lastByte)

/-- The part of a line. -/
def part (separator : Option UInt8) (key : Key) (line : Bytes) : Bytes :=
  if key.firstField.isNone && key.lastField.isNone && !key.ordering.startBlanks
      && key.firstByte = 0 then line
  else
    let start := key.start separator line
    (line.take (key.stop separator line)).drop start

/-- The part of a line as it is compared. -/
def value (separator : Option UInt8) (key : Key) (line : Bytes) : FieldValue :=
  .ofBytes key.ordering.fieldOrder (key.ordering.counted (key.part separator line))

/-- A key in an older spelling, with signs in front of numbers counted from zero, as it is spelled
now, given its end if it has one. -/
def modern? (first : Bytes) (last : Option Bytes) : Option Bytes :=
  let position (end_ : Bool) (bytes : Bytes) : Option Bytes := do
    let digits := bytes.takeWhile Text.isDigit
    let field ← Text.number? digits
    let rest := bytes.drop digits.length
    match rest with
    | 46 :: more =>
        let digits := more.takeWhile Text.isDigit
        let byte ← Text.number? digits
        let rest := more.drop digits.length
        if end_ then
          if byte = 0 then return Text.decimal field ++ rest
          else return Text.decimal (field + 1) ++ 46 :: Text.decimal byte ++ rest
        else return Text.decimal (field + 1) ++ 46 :: Text.decimal (byte + 1) ++ rest
    | _ => return (if end_ then Text.decimal field else Text.decimal (field + 1)) ++ rest
  match first, last with
  | 43 :: first, none => position false first
  | 43 :: first, some (45 :: last) => do
      return (← position false first) ++ 44 :: (← position true last)
  | _, _ => none

end Key

/-! ## Settings -/

/-- What is done with the lines. -/
inductive Task where
  /-- They are sorted. -/
  | sort
  /-- Files that are sorted already are merged. -/
  | merge
  /-- It is checked whether they are sorted, and said where not. -/
  | check
  /-- It is only checked whether they are sorted. -/
  | checkQuietly
  deriving DecidableEq, Repr, Inhabited

/-- The settings. -/
structure Settings where
  /-- What is done with the lines. -/
  task : Task := .sort
  /-- How keys are compared that say nothing about it, and whole lines if there are no keys. -/
  ordering : KeyOrdering := {}
  /-- The keys, the last one first. -/
  keys : List Key := []
  /-- Of lines that are equal only the first is kept. -/
  unique : Bool := false
  /-- Lines that are equal keep their order. -/
  stable : Bool := false
  /-- What lies between fields. -/
  separator : Option UInt8 := none
  /-- The byte that ends a line. -/
  delimiter : UInt8 := newline
  /-- The file that is written. -/
  output : Option Bytes := none
  /-- The file that lists the files. -/
  list? : Option Bytes := none
  deriving Repr, Inhabited

/-- The options. -/
def table : OptionTable where
  letters := "bcCdfghik:mMno:rRsS:t:T:uVy:z"
  names :=
    [("ignore-leading-blanks", "b"), ("check::", "check"), ("compress-program:", "program"),
     ("debug", "debug"), ("dictionary-order", "d"), ("ignore-case", "f"),
     ("files0-from:", "files0-from"), ("general-numeric-sort", "g"),
     ("ignore-nonprinting", "i"), ("key:", "k"), ("merge", "m"), ("month-sort", "M"),
     ("numeric-sort", "n"), ("human-numeric-sort", "h"), ("version-sort", "V"),
     ("random-sort", "R"), ("random-source:", "random-source"), ("sort:", "sort"),
     ("output:", "o"), ("reverse", "r"), ("stable", "s"), ("batch-size:", "batch-size"),
     ("buffer-size:", "S"), ("field-separator:", "t"), ("temporary-directory:", "T"),
     ("unique", "u"), ("zero-terminated", "z"), ("parallel:", "parallel")]

/-- The words for the orders of lines, with the letters that stand for them. -/
def orderWords : List (String × UInt8) :=
  [("general-numeric", 103), ("human-numeric", 104), ("month", 77), ("numeric", 110),
   ("random", 82), ("version", 86)]

/-- The words for what happens when lines are not sorted. -/
def checkWords : List (String × Task) :=
  [("quiet", .checkQuietly), ("silent", .checkQuietly), ("diagnose-first", .check)]

/-- The settings for another task, which must not contradict the one before. -/
def setTask (settings : Settings) (task : Task) : Except Complaint Settings :=
  let checks (task : Task) : Bool := task == .check || task == .checkQuietly
  if checks task && checks settings.task && task != settings.task then
    refuse (text "options '-cC' are incompatible")
  else .ok { settings with task := task }

/-- The separator of fields that a value spells. -/
def separatorOf (settings : Settings) (value : Bytes) : Except Complaint Settings :=
  let set (b : UInt8) : Except Complaint Settings :=
    if settings.separator.all (· == b) then .ok { settings with separator := some b }
    else refuse (text "incompatible tabs")
  match value with
  | [] => refuse (text "empty tab")
  | [b] => set b
  | [92, 48] => set 0
  | _ => refuse (text "multi-character tab " ++ Quote.plain value)

/-- The complaint about an amount of memory, if it makes no sense. -/
def checkSize (value : Bytes) : Except Complaint Unit :=
  let body := if value.getLast? == some 37 then value.dropLast else value
  match Amount.parse "EgGkKmMPQRtTYZb" body with
  | .ok _ => .ok ()
  | .error .tooLarge => refuse (text "-S argument " ++ Quote.plain value ++ text " too large")
  | .error _ => refuse (text "invalid -S argument " ++ Quote.plain value)

/-- The effect of an option. -/
def effect : OptionEffect Settings := fun settings key value =>
  let given := value.getD []
  let withOrdering (letter : UInt8) : Except Complaint Settings :=
    .ok { settings with
      ordering := (settings.ordering.add? .both letter).getD settings.ordering }
  match key with
  | "c" => setTask settings .check
  | "C" => setTask settings .checkQuietly
  | "check" =>
      match value with
      | none => setTask settings .check
      | some word => do setTask settings (← choice "--check" checkWords word)
  | "k" => do return { settings with keys := (← Key.parse given) :: settings.keys }
  | "m" => .ok { settings with task := .merge }
  | "o" =>
      if settings.output.all (· == given) then .ok { settings with output := some given }
      else refuse (text "multiple output files specified")
  | "s" => .ok { settings with stable := true }
  | "S" => do
      checkSize given
      return settings
  | "sort" => do withOrdering (← choice "--sort" orderWords given)
  | "t" => separatorOf settings given
  | "u" => .ok { settings with unique := true }
  | "z" => .ok { settings with delimiter := 0 }
  | "files0-from" => .ok { settings with list? := some given }
  | "batch-size" =>
      match Amount.parse "" given with
      | .ok count =>
          if count < 2 then
            refuse (text "invalid --batch-size argument " ++ Quote.plain given
              ++ text "\nsort: minimum --batch-size argument is '2'")
          else .ok settings
      | .error _ => refuse (text "invalid --batch-size argument " ++ Quote.plain given)
  | "parallel" =>
      match Amount.parse "" given with
      | .ok 0 => refuse (text "number in parallel must be nonzero")
      | .ok _ => .ok settings
      | .error _ => refuse (text "invalid --parallel argument " ++ Quote.plain given)
  | _ =>
      match text key with
      | [letter] => withOrdering letter
      | _ => .ok settings

/-- An argument is a dash and a digit. -/
def isLastPosition (argument : Bytes) : Bool :=
  argument.head? == some 45 && (argument.tail.head?).any Text.isDigit

/-- The key that an argument in the older spelling stands for, given the next argument, and whether
that belongs to it. -/
def olderKey? (argument : Bytes) (next : Option Bytes) : Option (Bytes × Bool) :=
  match next with
  | some last =>
      if isLastPosition last then (Key.modern? argument next).map fun key => (key, true)
      else (Key.modern? argument none).map fun key => (key, false)
  | none => (Key.modern? argument none).map fun key => (key, false)

/-- The options whose value is another argument. -/
def valuedOptions : List Bytes := ["-k", "-t", "-o", "-S", "-T"].map text

/-- Arguments with keys in the older spelling replaced. -/
def modernise : List Bytes → List Bytes
  | [] => []
  | argument :: rest =>
      if argument == text "--" then argument :: rest
      else if valuedOptions.contains argument then
        argument :: rest.take 1 ++ modernise (rest.drop 1)
      else match olderKey? argument rest.head? with
        | some (key, true) => text "-k" :: key :: modernise (rest.drop 1)
        | some (key, false) => text "-k" :: key :: modernise rest
        | none => argument :: modernise rest
termination_by arguments => arguments.length
decreasing_by all_goals (simp only [List.length_cons, List.length_drop]; omega)

namespace Settings

/-- The keys in order, each with the ordering of the settings if it has none of its own. Without
keys, the whole line is one if an ordering is asked for. -/
def allKeys (settings : Settings) : List Key :=
  if settings.keys.isEmpty then
    if { settings.ordering with reverse := false } == ({} : KeyOrdering) then []
    else [{ ordering := settings.ordering }]
  else settings.keys.reverse.map fun key =>
    if key.ordering.isDefault then { key with ordering := settings.ordering } else key

/-- The complaint about options that contradict each other. -/
def conflict? (settings : Settings) : Option String :=
  settings.allKeys.findSome? fun key => key.ordering.conflict?

end Settings

/-! ## Comparing lines -/

/-- A line with the values of its keys. -/
structure Row where
  /-- The line without its delimiter. -/
  line : Bytes
  /-- The values of the keys. -/
  values : List FieldValue
  deriving Repr, Inhabited

/-- A line with the values of keys. -/
def Row.ofLine (settings : Settings) (keys : List Key) (line : Bytes) : Row :=
  ⟨line, keys.map fun key => key.value settings.separator line⟩

/-- An order, turned round if that is asked for. -/
def turned (reverse : Bool) (order : Ordering) : Ordering := if reverse then order.swap else order

/-- Compares the values of keys. -/
def orderValues : List Key → List FieldValue → List FieldValue → Ordering
  | key :: keys, a :: as, b :: bs =>
      (turned key.ordering.reverse (a.order b)).then (orderValues keys as bs)
  | _, _, _ => .eq

/-- Compares two lines by keys, and by all their bytes if that does not tell them apart. -/
def order (settings : Settings) (keys : List Key) (a b : Row) : Ordering :=
  let byKeys := orderValues keys a.values b.values
  if byKeys != .eq || (!keys.isEmpty && (settings.unique || settings.stable)) then byKeys
  else turned settings.ordering.reverse (DecimalValue.orderBytes a.line b.line)

/-- The rows of which none follows one that is equal to it. -/
def thinned (settings : Settings) (keys : List Key) (rows : List Row) : List Row :=
  (rows.foldl (fun (kept : List Row) row =>
    match kept with
    | last :: _ => if order settings keys last row == .eq then kept else row :: kept
    | [] => [row]) []).reverse

/-- Two rows need not change places. -/
def inOrder (settings : Settings) (keys : List Key) (a b : Row) : Bool :=
  order settings keys a b != .gt

/-- Merges two lists of rows, those of the first one coming first if they are equal. -/
def mergeRows (settings : Settings) (keys : List Key) (a b : List Row) : List Row :=
  List.merge a b (inOrder settings keys)

/-- The number of the first line that comes too late, and the line. -/
def firstLate? (settings : Settings) (keys : List Key) : (number : Nat) → List Row →
    Option (Nat × Bytes)
  | number, a :: b :: rest =>
      let order := order settings keys a b
      if order == .gt || (settings.unique && order == .eq) then some (number + 1, b.line)
      else firstLate? settings keys (number + 1) (b :: rest)
  | _, _ => none

/-! ## The utility -/

/-- Reports a failure that concerns a file. -/
def fail (name : Bytes) (phrase : String) (path : Bytes) (errno : Errno) : Prog Unit :=
  complainOf name (text phrase ++ text ": " ++ Quote.named path) errno

/-- The first file that may not be read, and why. -/
def firstUnreadable : List Bytes → Prog (Option (Bytes × Errno))
  | [] => pure none
  | path :: rest => do
      if path == text "-" then firstUnreadable rest
      else match ← Prog.call (.mayUse path 0o400) with
        | .ok () => firstUnreadable rest
        | .error errno => return some (path, errno)

/-- The rows of each file, or nothing after a complaint. -/
def readRows (name : Bytes) (settings : Settings) (keys : List Key) :
    List Bytes → Prog (Option (List (List Row)))
  | [] => pure (some [])
  | path :: rest => do
      match ← openInput path with
      | .error errno =>
          fail name "open failed" path errno
          return none
      | .ok fd =>
          let read ← Prog.readAll fd
          closeInput fd
          match read with
          | .error errno =>
              fail name "read failed" path errno
              return none
          | .ok bytes =>
              let rows := (Text.linesBy settings.delimiter bytes).map fun line =>
                Row.ofLine settings keys (withoutDelimiter settings.delimiter line)
              return (← readRows name settings keys rest).map (rows :: ·)

/-- What is said when the result cannot be written. -/
def fault (path : Option Bytes) : WriteFault where
  messages errno length :=
    let shown := match path with
      | some path => Quote.named path
      | none => text "'standard output'"
    let phrase := if length ≤ outputBuffer then text "fflush failed" else text "write failed"
    [phrase ++ text ": " ++ shown ++ text ": " ++ reason errno, text "write error"]
  code := 2

/-- Writes the result to a file. -/
def writeFile (name path bytes : Bytes) : Prog Int := do
  match ← Prog.call (.openPath path { write := true, create := true, truncate := true } true) with
  | .error errno =>
      fail name "open failed" path errno
      return 2
  | .ok fd =>
      match ← (if bytes.isEmpty then pure (.ok ()) else Prog.write fd bytes) with
      | .ok () => return 0
      | .error errno =>
          complainEach name ((fault (some path)).messages errno bytes.length)
          return 2

/-- Writes rows to where they belong. -/
def writeRows (name : Bytes) (settings : Settings) (rows : List Row) : Prog Int :=
  let bytes := rows.flatMap fun row => row.line ++ [settings.delimiter]
  match settings.output with
  | some path => writeFile name path bytes
  | none => emit name bytes 0 (fault none)

/-- Checks whether a file is sorted. -/
def checkFile (name : Bytes) (settings : Settings) (keys : List Key) (path : Bytes) :
    Prog Int := do
  match ← readRows name settings keys [path] with
  | none => return 2
  | some files =>
      match firstLate? settings keys 1 files.flatten with
      | none => return 0
      | some (number, line) =>
          if settings.task == .check then
            complain name (path ++ text ":" ++ Text.decimal number ++ text ": disorder: " ++ line)
          return 1

/-- Makes sure that the file for the result can be written. -/
def openOutput (name : Bytes) (settings : Settings) : Prog Bool := do
  match settings.output with
  | none => return true
  | some path =>
      match ← Prog.call (.openPath path { write := true, create := true } true) with
      | .ok fd =>
          let _ ← Prog.call (.close fd)
          return true
      | .error errno =>
          fail name "open failed" path errno
          return false

/-- Carries out the task. -/
def carryOut (name : Bytes) (settings : Settings) (paths : List Bytes) : Prog Int := do
  let keys := settings.allKeys
  let checks := settings.task == .check || settings.task == .checkQuietly
  if let some letters := settings.conflict? then
    complain name (text ("options '-" ++ letters ++ "' are incompatible"))
    return 2
  if checks && 1 < paths.length then
    complain name (text "extra operand " ++ Quote.plain (paths.getD 1 [])
      ++ text (if settings.task == .check then " not allowed with -c"
        else " not allowed with -C"))
    return 2
  if checks && settings.output.isSome then
    complain name (text
      (if settings.task == .check then "options '-co' are incompatible"
       else "options '-Co' are incompatible"))
    return 2
  if checks then checkFile name settings keys (paths.headD [])
  else
    if let some (path, errno) := ← firstUnreadable paths then
      fail name "cannot read" path errno
      return 2
    if !(← openOutput name settings) then return 2
    if settings.task != .merge && paths.contains (text "-") then
      if let .error errno := ← Prog.call (.kind Fd.stdin) then
        fail name "stat failed" (text "-") errno
        return 2
    match ← readRows name settings keys paths with
    | none => return 2
    | some files =>
        let rows := match settings.task with
          | .merge => files.foldl (mergeRows settings keys) []
          | _ => files.flatten.mergeSort (inOrder settings keys)
        writeRows name settings (if settings.unique then thinned settings keys rows else rows)

end Sorting

/-- Sorts, merges or checks files. -/
def sort : Utility := fun arguments =>
  withOptions Sorting.table 2 {} Sorting.effect
    (nameOf arguments :: Sorting.modernise arguments.tail) fun name settings operands => do
      match settings.list?, operands with
      | none, operands => Sorting.carryOut name settings (inputs operands)
      | some _, operand :: _ =>
          complain name (text "extra operand " ++ Quote.plain operand
            ++ text "\nfile operands cannot be combined with --files0-from")
          pointToHelp name
          return 2
      | some list, [] =>
          match ← readInput list with
          | .error errno =>
              Sorting.fail name "open failed" list errno
              return 2
          | .ok bytes =>
              let paths := (Text.linesBy 0 bytes).map (withoutDelimiter 0)
              if paths.isEmpty then
                complain name (text "no input from " ++ Quote.plain list)
                return 2
              Sorting.carryOut name settings paths

end LineShell.Utility
