import LineShell.Regex.Matcher
import LineShell.Utility.Stream

/-!
# Numbering lines

A text can be parted into pages of three sections each, which may be numbered in different ways.

- **`nl`** writes lines with numbers in front.
-/

namespace LineShell.Utility.Number

/-- Which lines of a section get numbers. -/
inductive Style where
  /-- All of them. -/
  | all
  /-- Those that are not empty. -/
  | filled
  /-- None. -/
  | none
  /-- Those that a regular expression fits. -/
  | fitting (program : Regex.Program)

/-- The sections of a page. -/
inductive Part where
  /-- The first one. -/
  | header
  /-- The second one. -/
  | body
  /-- The last one. -/
  | footer
  deriving DecidableEq, Repr, Inhabited

/-- Where a number stands in its field. -/
inductive Alignment where
  /-- At the left. -/
  | left
  /-- At the right. -/
  | right
  /-- At the right, behind zeros. -/
  | zeros
  deriving DecidableEq, Repr, Inhabited

/-- How lines are numbered. -/
structure Settings where
  /-- How the lines of a header are numbered. -/
  header : Style := .none
  /-- How the lines of a body are numbered. -/
  body : Style := .filled
  /-- How the lines of a footer are numbered. -/
  footer : Style := .none
  /-- The first number of a page. -/
  start : Int := 1
  /-- The distance from one number to the next. -/
  step : Int := 1
  /-- Each section begins with the first number again. -/
  renumber : Bool := true
  /-- Of so many empty lines in a row one gets a number. -/
  join : Int := 1
  /-- What stands between a number and its line. -/
  separator : Bytes := [9]
  /-- How wide numbers are. -/
  width : Nat := 6
  /-- Where numbers stand. -/
  alignment : Alignment := .right
  /-- What lines consist of that begin sections. -/
  delimiter : Bytes := [92, 58]

/-- The options. -/
def table : OptionTable where
  letters := "h:b:f:v:i:pl:s:w:n:d:"
  names :=
    [("header-numbering:", "h"), ("body-numbering:", "b"), ("footer-numbering:", "f"),
     ("starting-line-number:", "v"), ("line-increment:", "i"), ("no-renumber", "p"),
     ("join-blank-lines:", "l"), ("number-separator:", "s"), ("number-width:", "w"),
     ("number-format:", "n"), ("section-delimiter:", "d")]

/-- The style that a value spells. -/
def styleOf (section_name : String) (value : Bytes) : Except Complaint Style :=
  match value with
  | 97 :: _ => .ok .all
  | 116 :: _ => .ok .filled
  | 110 :: _ => .ok .none
  | 112 :: pattern =>
      match Regex.compile { manyLines := true } pattern with
      | .ok program => .ok (.fitting program)
      | .error fault => refuse (text fault.message)
  | _ =>
      refuseUsage (text ("invalid " ++ section_name ++ " numbering style: ")
        ++ Quote.plain value)

/-- The bounds of numbers. -/
def bound : Int := Int.pow 2 63

/-- The effect of an option. -/
def effect : OptionEffect Settings := fun settings key value => do
  let given := value.getD []
  match key with
  | "h" => return { settings with header := ← styleOf "header" given }
  | "b" => return { settings with body := ← styleOf "body" given }
  | "f" => return { settings with footer := ← styleOf "footer" given }
  | "v" =>
      return { settings with
        start := ← amountOr "invalid starting line number" given
          (Amount.integer "" (-bound) (bound - 1) given) }
  | "i" =>
      return { settings with
        step := ← amountOr "invalid line number increment" given
          (Amount.integer "" (-bound) (bound - 1) given) }
  | "p" => return { settings with renumber := false }
  | "l" =>
      return { settings with
        join := ← amountOr "invalid line number of blank lines" given
          (Amount.integer "" 1 (bound - 1) given) }
  | "s" => return { settings with separator := given }
  | "w" =>
      let width ← amountOr "invalid line number field width" given
        (Amount.integer "" 1 (Int.pow 2 31 - 1) given)
      return { settings with width := width.toNat }
  | "n" =>
      if given == text "ln" then return { settings with alignment := .left }
      else if given == text "rn" then return { settings with alignment := .right }
      else if given == text "rz" then return { settings with alignment := .zeros }
      else refuseUsage (text "invalid line numbering format: " ++ Quote.plain given)
  | "d" =>
      return { settings with delimiter := if given.length = 1 then given ++ [58] else given }
  | _ => return settings

/-- How far numbering has come. -/
structure State where
  /-- The section. -/
  part : Part := .body
  /-- The next number. -/
  number : Int
  /-- How many empty lines come before. -/
  blanks : Int := 0
  /-- The numbers have come to an end, and one more was needed. -/
  exhausted : Bool := false

/-- How the lines of a section are numbered. -/
def Settings.style (settings : Settings) : Part → Style
  | .header => settings.header
  | .body => settings.body
  | .footer => settings.footer

/-- The section that a line begins. -/
def Settings.part? (settings : Settings) (line : Bytes) : Option Part :=
  let unit := settings.delimiter
  if unit.length < 2 then none
  else if line == unit ++ unit ++ unit then some .header
  else if line == unit ++ unit then some .body
  else if line == unit then some .footer
  else none

/-- A number in its field. -/
def Settings.field (settings : Settings) (number : Int) : Bytes :=
  let digits := text (toString number)
  let missing := settings.width - digits.length
  match settings.alignment with
  | .left => digits ++ List.replicate missing 32
  | .right => List.replicate missing 32 ++ digits
  | .zeros =>
      if number < 0 then 45 :: List.replicate missing 48 ++ digits.tail
      else List.replicate missing 48 ++ digits

/-- The state after a line that gets a number, and what is written in front of it. -/
def Settings.count (settings : Settings) (state : State) : State × Bytes :=
  if bound ≤ state.number || state.number < -bound then ({ state with exhausted := true }, [])
  else ({ state with number := state.number + settings.step },
    settings.field state.number ++ settings.separator)

/-- The state after a line, and what is written for it. -/
def Settings.line (settings : Settings) (state : State) (line : Bytes) : State × Bytes :=
  let bare := withoutDelimiter newline line
  let unnumbered : Bytes :=
    List.replicate (settings.width + settings.separator.length) 32 ++ bare ++ [newline]
  let numbered (state : State) : State × Bytes :=
    let (state, field) := settings.count state
    (state, if state.exhausted then [] else field ++ bare ++ [newline])
  if state.exhausted then (state, [])
  else match settings.part? bare with
  | some part =>
      ({ state with
          part := part
          number := if settings.renumber then settings.start else state.number }, [newline])
  | none =>
      match settings.style state.part with
      | .none => (state, unnumbered)
      | .filled => if bare.isEmpty then (state, unnumbered) else numbered state
      | .all =>
          if settings.join ≤ 1 then numbered state
          else if !bare.isEmpty || state.blanks + 1 == settings.join then
            numbered { state with blanks := 0 }
          else ({ state with blanks := state.blanks + 1 }, unnumbered)
      | .fitting program =>
          if program.isMatched { bytes := bare.toArray } then numbered state
          else (state, unnumbered)

end Number

/-- Writes lines with numbers in front. -/
def nl : Utility := fun arguments =>
  withOptions Number.table 1 {} Number.effect arguments fun name settings operands => do
    let pass : Pass Number.State := { line := settings.line }
    closingInput name (text "-") (inputs operands) do
      match ← pass.run name 0 { number := settings.start } (inputs operands) with
      | (code, none) => return code
      | (code, some state) =>
          if state.exhausted then
            complain name (text "line number overflow")
            return 1
          return code

end LineShell.Utility
