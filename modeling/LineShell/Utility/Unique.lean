import LineShell.Utility.Stream

/-!
# Equal lines

- **`uniq`** writes lines that stand together and are equal only once, or only those, or only the
  others.
-/

namespace LineShell.Utility.Unique

/-- How groups of equal lines are set off. -/
inductive Setting where
  /-- They are not. -/
  | none
  /-- By an empty line before each. -/
  | before
  /-- By an empty line behind each. -/
  | behind
  /-- By an empty line between two. -/
  | between
  /-- By empty lines before each and behind the last. -/
  | around
  deriving DecidableEq, Repr, Inhabited

/-- Which lines are written. -/
inductive Output where
  /-- The first of equal ones. -/
  | first
  /-- All lines that have equals, in groups. -/
  | repeated (setting : Setting)
  /-- All lines, in groups. -/
  | grouped (setting : Setting)
  deriving DecidableEq, Repr, Inhabited

/-- The settings. -/
structure Settings where
  /-- Which lines are written. -/
  output : Output := .first
  /-- Lines without equals are written. -/
  single : Bool := true
  /-- Lines with equals are written. -/
  several : Bool := true
  /-- The number of equal lines is written. -/
  counted : Bool := false
  /-- The case of letters does not matter. -/
  fold : Bool := false
  /-- How many fields do not count. -/
  fields : Nat := 0
  /-- The fields were given by digits. -/
  digits : Bool := false
  /-- How many bytes behind them do not count. -/
  skipped : Nat := 0
  /-- How many bytes count at most. -/
  most : Option Nat := none
  /-- The byte that ends a line. -/
  delimiter : UInt8 := newline
  /-- An option was given that groups exclude. -/
  chosen : Bool := false
  deriving DecidableEq, Repr, Inhabited

/-- The options. -/
def table : OptionTable where
  letters := "0123456789Dcdf:is:uw:z"
  names :=
    [("count", "c"), ("repeated", "d"), ("all-repeated::", "D"), ("group::", "group"),
     ("ignore-case", "i"), ("unique", "u"), ("skip-fields:", "f"), ("skip-chars:", "s"),
     ("check-chars:", "w"), ("zero-terminated", "z")]

/-- The words for how repeated lines are set off. -/
def repeatedWords : List (String × Setting) :=
  [("none", .none), ("prepend", .before), ("separate", .between)]

/-- The words for how groups are set off. -/
def groupWords : List (String × Setting) :=
  [("prepend", .before), ("append", .behind), ("separate", .between), ("both", .around)]

/-- The number that a value spells. -/
def countOf (phrase : String) (value : Bytes) : Except Complaint Nat :=
  match Amount.parse "" value with
  | .ok count => .ok count
  | .error .tooLarge => .ok Amount.greatest
  | .error _ => refuse (value ++ text ": invalid number of " ++ text phrase)

/-- The settings with another digit of a number of fields. -/
def withDigit (settings : Settings) (digit : Bytes) : Settings :=
  let before := if settings.digits then settings.fields else 0
  { settings with
    fields := min Amount.greatest (before * 10 + Text.valueOf 10 digit)
    digits := true }

/-- The effect of an option. -/
def effect : OptionEffect Settings := fun settings key value => do
  let given := value.getD []
  match key with
  | "c" => return { settings with counted := true, chosen := true }
  | "d" => return { settings with single := false, chosen := true }
  | "D" =>
      let setting ← match value with
        | some word => choice "--all-repeated" repeatedWords word
        | none => pure .none
      return { settings with output := .repeated setting, single := false, chosen := true }
  | "group" =>
      let setting ← match value with
        | some word => choice "--group" groupWords word
        | none => pure .between
      return { settings with output := .grouped setting }
  | "f" =>
      return { settings with fields := ← countOf "fields to skip" given, digits := false }
  | "i" => return { settings with fold := true }
  | "s" => return { settings with skipped := ← countOf "bytes to skip" given }
  | "u" => return { settings with several := false, chosen := true }
  | "w" => return { settings with most := some (← countOf "bytes to compare" given) }
  | "z" => return { settings with delimiter := 0 }
  | _ => return withDigit settings (text key)

/-- The complaint about settings that contradict each other. -/
def Settings.conflict? (settings : Settings) : Option Complaint :=
  match settings.output with
  | .grouped _ =>
      if settings.chosen then
        some (.usage (text "--group is mutually exclusive with -c/-d/-D/-u"))
      else none
  | .repeated _ =>
      if settings.counted then
        some (.usage (text
          "printing all duplicated lines and repeat counts is meaningless"))
      else none
  | .first => none

/-- A byte separates fields. -/
def isSeparator (b : UInt8) : Bool := Text.isBlankByte b || b == newline

/-- A line without so many fields at its front. -/
def withoutFields : (count : Nat) → Bytes → Bytes
  | 0, line => line
  | count + 1, line =>
      if line.isEmpty then []
      else withoutFields count ((line.dropWhile isSeparator).dropWhile (!isSeparator ·))

/-- The part of a line that is compared. -/
def Settings.part (settings : Settings) (line : Bytes) : Bytes :=
  let rest := (withoutFields (min settings.fields line.length) line).drop settings.skipped
  let part := match settings.most with
    | some most => rest.take most
    | none => rest
  if settings.fold then part.map Text.lower else part

/-- Lines that are equal and stand together. -/
structure Group where
  /-- The part that is compared. -/
  part : Bytes
  /-- The first line. -/
  first : Bytes
  /-- The last line that has been seen. -/
  last : Bytes
  /-- How many lines there are. -/
  count : Nat
  deriving Repr, Inhabited

/-- How far going through lines has come. -/
structure State where
  /-- The group that has not ended. -/
  group : Option Group := none
  /-- A group has been written. -/
  later : Bool := false
  deriving Repr, Inhabited

namespace Settings

/-- A line with its delimiter. -/
def row (settings : Settings) (line : Bytes) : Bytes := line ++ [settings.delimiter]

/-- What is written of a group when it has ended and only its first line counts. -/
def summary (settings : Settings) (group : Group) : Bytes :=
  if (if group.count = 1 then settings.single else settings.several) then
    (if settings.counted then padLeft 7 (Text.decimal group.count) ++ [32] else [])
      ++ settings.row group.first
  else []

/-- What is written before the first line of a group that is written as a whole. -/
def opening (settings : Settings) (setting : Setting) (later : Bool) : Bytes :=
  match setting with
  | .before | .around => [settings.delimiter]
  | .behind | .between => if later then [settings.delimiter] else []
  | .none => []

/-- What is written when a group has ended all of whose lines are written before. -/
def lastRepeated (settings : Settings) (group : Group) : Bytes :=
  if 1 < group.count && settings.several then settings.row group.last else []

/-- The state after a line, and what is written. -/
def line (settings : Settings) (state : State) (line : Bytes) : State × Bytes :=
  let bare := withoutDelimiter settings.delimiter line
  let part := settings.part bare
  let fresh : Group := ⟨part, bare, bare, 1⟩
  match state.group with
  | none =>
      match settings.output with
      | .grouped setting =>
          ({ group := some fresh, later := true },
            settings.opening setting false ++ settings.row bare)
      | _ => ({ state with group := some fresh }, [])
  | some group =>
      if group.part == part then
        let grown := { group with count := group.count + 1, last := bare }
        let state := { state with group := some grown }
        match settings.output with
        | .grouped _ => (state, settings.row bare)
        | .repeated setting =>
            let opening := if grown.count = 2 then settings.opening setting state.later else []
            ({ state with later := true }, opening ++ settings.row group.last)
        | .first => (state, [])
      else match settings.output with
        | .grouped setting =>
            ({ state with group := some fresh },
              settings.opening setting true ++ settings.row bare)
        | .repeated _ => ({ state with group := some fresh }, settings.lastRepeated group)
        | .first => ({ state with group := some fresh }, settings.summary group)

/-- What is written at the end. -/
def finish (settings : Settings) (state : State) : Bytes :=
  match state.group, settings.output with
  | some group, .first => settings.summary group
  | some group, .repeated _ => settings.lastRepeated group
  | some _, .grouped .behind | some _, .grouped .around => [settings.delimiter]
  | _, _ => []

end Settings

/-- Goes through lines that have not been read, and writes to an open file. -/
def go (name : Bytes) (settings : Settings) (shownName : Bytes) (source target : Fd) :
    Prog Int := do
  let fault (errno : Errno) : Prog Int := do
    complainOf name (text "write error") errno
    return 1
  let put (bytes : Bytes) : Prog (Except Errno Unit) :=
    if bytes.isEmpty then pure (.ok ()) else Prog.write target bytes
  Prog.iterate (fun (current : State × Bytes) => do
    let (state, rest) := current
    match ← Prog.call (.read source blockSize) with
    | .error errno =>
        complainOf name (text "error reading " ++ Quote.always shownName) errno
        return .inr 1
    | .ok bytes =>
        let all := rest ++ bytes
        let (lines, rest) := if bytes.isEmpty then (if all.isEmpty then [] else [all], [])
          else endedLines settings.delimiter all
        let pass : Pass State := { line := settings.line }
        let (state, written) := pass.feed state lines
        let last := if bytes.isEmpty then settings.finish state else []
        match ← put (written ++ last) with
        | .error errno => return .inr (← fault errno)
        | .ok () => if bytes.isEmpty then return .inr 0 else return .inl (state, rest)) ({}, [])

/-- An operand in an older spelling tells how many bytes do not count. -/
def olderSkip? (operand : Bytes) : Option Nat :=
  match operand with
  | 43 :: digits =>
      match Amount.parse "" digits with
      | .ok count => if (digits.head?).any Text.isDigit then some count else none
      | .error _ => none
  | _ => none

end Unique

/-- Writes lines that stand together and are equal only once. -/
def uniq : Utility := fun arguments =>
  withOptions Unique.table 1 {} Unique.effect arguments fun name settings operands => do
    let (settings, operands) := match operands with
      | first :: rest =>
          match Unique.olderSkip? first with
          | some count => ({ settings with skipped := count }, rest)
          | none => (settings, operands)
      | [] => (settings, operands)
    match settings.conflict?, operands with
    | _, _ :: _ :: extra :: _ => report name 1 (.extra extra)
    | some complaint, _ => report name 1 complaint
    | none, operands =>
        let input := operands.headD (text "-")
        let output := operands.getD 1 (text "-")
        match ← openInput input with
        | .error errno =>
            complainOfFile name input errno
            return 1
        | .ok source =>
            if output == text "-" then
              Unique.go name settings input source Fd.stdout
            else
              let access : Access := { write := true, create := true, truncate := true }
              match ← Prog.call (.openPath output access true) with
              | .error errno =>
                  complainOfFile name output errno
                  return 1
              | .ok target => Unique.go name settings input source target

end LineShell.Utility
