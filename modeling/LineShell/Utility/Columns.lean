import LineShell.Utility.Stream

/-!
# Columns of lines

- **`Columns.Span`** is a range of columns.
- **`cut`** writes parts of each line.
-/

namespace LineShell.Utility.Columns

/-- A range of columns, counted from one. -/
structure Span where
  /-- The first column. -/
  first : Nat
  /-- The last one, if there is one. -/
  last : Option Nat
  deriving DecidableEq, Repr, Inhabited

/-- What columns are. -/
inductive Kind where
  /-- Bytes. -/
  | bytes
  /-- Fields. -/
  | fields
  deriving DecidableEq, Repr, Inhabited

namespace Kind

/-- What is said of a column zero. -/
def countedFromOne : Kind → String
  | .bytes => "byte/character positions are numbered from 1"
  | .fields => "fields are numbered from 1"

/-- What is said of too many dashes. -/
def invalidSpan : Kind → String
  | .bytes => "invalid byte or character range"
  | .fields => "invalid field range"

/-- What is said of a text that is no column. -/
def invalidColumn : Kind → String
  | .bytes => "invalid byte/character position "
  | .fields => "invalid field value "

/-- What is said in front of a column that is too large. -/
def largeColumn : Kind → String
  | .bytes => "byte/character offset "
  | .fields => "field number "

end Kind

/-- The greatest column. -/
def greatest : Nat := Nat.pow 2 64 - 2

/-- How far a list of ranges has been read. -/
structure Reading where
  /-- The column that is being read. -/
  column : Nat := 0
  /-- Its digits, the last one first. -/
  digits : Bytes := []
  /-- The first column of the range, once its dash has been read. -/
  first : Option Nat := none
  /-- The range has a first column of its own. -/
  hasFirst : Bool := false
  /-- The range has a last column of its own. -/
  hasLast : Bool := false

namespace Reading

/-- The state after a dash. -/
def dash (kind : Kind) (reading : Reading) : Except Complaint Reading :=
  if reading.first.isSome then refuseUsage (text kind.invalidSpan)
  else if reading.hasFirst && reading.column = 0 then refuseUsage (text kind.countedFromOne)
  else .ok { reading with
    first := some (if reading.hasFirst then reading.column else 1), column := 0, digits := [] }

/-- The range that ends here. -/
def finish (kind : Kind) (reading : Reading) : Except Complaint Span :=
  match reading.first with
  | some first =>
      if !reading.hasFirst && !reading.hasLast then
        refuseUsage (text "invalid range with no endpoint: -")
      else if !reading.hasLast then .ok ⟨first, none⟩
      else if reading.column < first then refuseUsage (text "invalid decreasing range")
      else .ok ⟨first, some reading.column⟩
  | none =>
      if reading.column = 0 then refuseUsage (text kind.countedFromOne)
      else .ok ⟨reading.column, some reading.column⟩

/-- The state after a digit, given what comes behind it. -/
def digit (kind : Kind) (reading : Reading) (b : UInt8) (rest : Bytes) :
    Except Complaint Reading :=
  let digits := b :: reading.digits
  let column := Text.valueOf 10 digits.reverse
  if greatest < column then
    refuseUsage (text kind.largeColumn
      ++ Quote.plain (digits.reverse ++ rest.takeWhile Text.isDigit) ++ text " is too large")
  else if reading.first.isSome then
    .ok { reading with column := column, digits := digits, hasLast := true }
  else .ok { reading with column := column, digits := digits, hasFirst := true }

end Reading

/-- The ranges that a text spells, which commas and blanks part. -/
def spansFrom (kind : Kind) : Reading → Bytes → Except Complaint (List Span)
  | reading, [] => (reading.finish kind).map fun span => [span]
  | reading, b :: rest =>
      if b == 45 then do spansFrom kind (← reading.dash kind) rest
      else if b == 44 || Text.isBlankByte b then do
        let span ← reading.finish kind
        return span :: (← spansFrom kind {} rest)
      else if Text.isDigit b then do spansFrom kind (← reading.digit kind b rest) rest
      else refuseUsage (text kind.invalidColumn ++ Quote.plain (b :: rest))

/-- Two ranges in the order of their first columns. -/
def Span.le (a b : Span) : Bool := a.first ≤ b.first

/-- Ranges in order, those put together that overlap. -/
def joined (spans : List Span) : List Span :=
  ((spans.mergeSort Span.le).foldl (fun (done : List Span) span =>
    match done with
    | last :: rest =>
        if last.last.all fun stop => span.first ≤ stop then
          let stop : Option Nat := match last.last, span.last with
            | some a, some b => some (max a b)
            | _, _ => none
          ⟨last.first, stop⟩ :: rest
        else span :: done
    | [] => [span]) []).reverse

/-- The ranges between those given, which are in order, from a column on. -/
def between (start : Nat) : List Span → List Span
  | [] => [⟨start, none⟩]
  | span :: rest =>
      let before : List Span :=
        if start < span.first then [⟨start, some (span.first - 1)⟩] else []
      match span.last with
      | none => before
      | some stop => before ++ between (stop + 1) rest

/-- The settings. -/
structure Settings where
  /-- What columns are, and which ones are wanted. -/
  list? : Option (Kind × Bytes) := none
  /-- The ranges that are wanted. -/
  spans : List Span := []
  /-- What lies between fields. -/
  separator : Option UInt8 := none
  /-- What is written between parts. -/
  joint : Option Bytes := none
  /-- Lines without a separator are left out. -/
  strict : Bool := false
  /-- The columns that are not listed are wanted. -/
  complement : Bool := false
  /-- The byte that ends a line. -/
  delimiter : UInt8 := newline
  deriving DecidableEq, Repr, Inhabited

/-- The options. -/
def table : OptionTable where
  letters := "b:c:d:f:nsz"
  names :=
    [("bytes:", "b"), ("characters:", "c"), ("fields:", "f"), ("delimiter:", "d"),
     ("only-delimited", "s"), ("output-delimiter:", "output-delimiter"),
     ("complement", "complement"), ("zero-terminated", "z")]

/-- The settings with a list of columns. -/
def withList (settings : Settings) (kind : Kind) (list : Bytes) : Except Complaint Settings :=
  if settings.list?.isSome then refuseUsage (text "only one list may be specified")
  else .ok { settings with list? := some (kind, list) }

/-- The effect of an option. -/
def effect : OptionEffect Settings := fun settings key value =>
  let given := value.getD []
  match key with
  | "b" | "c" => withList settings .bytes given
  | "f" => withList settings .fields given
  | "d" =>
      if 1 < given.length then refuseUsage (text "the delimiter must be a single character")
      else .ok { settings with separator := some (given.headD 0) }
  | "output-delimiter" => .ok { settings with joint := some (if given.isEmpty then [0] else given) }
  | "s" => .ok { settings with strict := true }
  | "complement" => .ok { settings with complement := true }
  | "z" => .ok { settings with delimiter := 0 }
  | _ => .ok settings

/-- The settings with their ranges, or why they make no sense. -/
def Settings.complete (settings : Settings) : Except Complaint (Kind × Settings) := do
  match settings.list? with
  | none => refuseUsage (text "you must specify a list of bytes, characters, or fields")
  | some (kind, list) =>
      if kind == .bytes && settings.separator.isSome then
        refuseUsage (text
          "an input delimiter may be specified only when operating on fields")
      else if kind == .bytes && settings.strict then
        refuseUsage (text
          "suppressing non-delimited lines makes sense\n\tonly when operating on fields")
      else
        let spans := joined (← spansFrom kind {} list)
        return (kind, { settings with
          spans := if settings.complement then between 1 spans else spans })

/-- The elements in each of some ranges, which are in order, from a column on. -/
def pick {β : Type} : (column : Nat) → List Span → List β → List (List β)
  | _, [], _ => []
  | column, span :: rest, elements =>
      let left := elements.drop (span.first - column)
      match left, span.last with
      | [], _ => []
      | left, none => [left]
      | left, some stop =>
          let count := stop + 1 - span.first
          left.take count :: pick (stop + 1) rest (left.drop count)

/-- The parts of a line that are wanted. -/
def Settings.line (settings : Settings) (kind : Kind) (line : Bytes) : Bytes :=
  let bare := withoutDelimiter settings.delimiter line
  match kind with
  | .bytes =>
      List.intercalate (settings.joint.getD []) (pick 1 settings.spans bare)
        ++ [settings.delimiter]
  | .fields =>
      let separator := settings.separator.getD 9
      if bare.contains separator then
        List.intercalate (settings.joint.getD [separator])
          (pick 1 settings.spans (Text.cut separator bare)).flatten ++ [settings.delimiter]
      else if settings.strict then []
      else bare ++ [settings.delimiter]

/-- The parts of a whole file that are wanted, when the lines themselves are the fields. The
delimiter at the end of the last line separates nothing, but makes a single line a field. -/
def Settings.file (settings : Settings) (bytes : Bytes) : Bytes :=
  let bare := withoutDelimiter settings.delimiter bytes
  let fields := Text.cut settings.delimiter bare
  let picked := (pick 1 settings.spans fields).flatten
  let written := List.intercalate (settings.joint.getD [settings.delimiter]) picked
    ++ [settings.delimiter]
  if bytes.isEmpty then []
  else if 1 < fields.length then written
  else if !hasEnded settings.delimiter bytes then
    if settings.strict then [] else bare ++ [settings.delimiter]
  else if settings.strict && picked.isEmpty then []
  else written

/-- Writes the parts of files that are wanted. -/
def cutAll (name : Bytes) (settings : Settings) (kind : Kind) (operands : List Bytes) : Prog Int :=
  if kind == .fields && settings.separator == some settings.delimiter then
    filterEach name operands (.plain 1) settings.file
  else
    let pass : Pass Unit :=
      { delimiter := settings.delimiter
        line := fun _ line => ((), settings.line kind line) }
    pass.runAll name () operands fun _ => []

end Columns

/-- Writes parts of each line. -/
def cut : Utility := fun arguments =>
  withOptions Columns.table 1 {} Columns.effect arguments fun name settings operands =>
    match settings.complete with
    | .error complaint => report name 1 complaint
    | .ok (kind, settings) =>
        closingInput name (text "-") (inputs operands) (Columns.cutAll name settings kind operands)

end LineShell.Utility
