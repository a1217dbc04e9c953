import LineShell.Number.Layout
import LineShell.Number.Whole
import LineShell.Utility.Options

/-!
# Numbers in a row

The numbers from a first one to a last one are written, each a step away from the one before. All
of them are kept with a limited count of binary places, unless they are spelled with digits alone.

- **`seq`** writes numbers in a row.
-/

namespace LineShell.Utility

namespace Sequence

/-- How numbers are written. -/
structure Settings where
  /-- The format that was asked for. -/
  format : Option Bytes := none
  /-- What stands between two numbers. -/
  separator : Bytes := [newline]
  /-- All numbers are made as wide as the widest one. -/
  equalWidth : Bool := false
  deriving Repr, Inhabited

/-- The options. -/
def table : OptionTable where
  letters := "f:s:w"
  names := [("equal-width", "w"), ("format:", "f"), ("separator:", "s")]
  strict := true

/-- The effect of an option. -/
def effect : OptionEffect Settings := fun settings key value =>
  match key with
  | "f" => .ok { settings with format := value }
  | "s" => .ok { settings with separator := value.getD [] }
  | "w" => .ok { settings with equalWidth := true }
  | _ => .ok settings

/-- The argument looks like a negative number. -/
def isNegative (argument : Bytes) : Bool :=
  argument.head? == some 45 && argument.tail.head?.any fun b => b == 46 || Text.isDigit b

/-- The value of the option in an argument stands in the next argument. -/
def awaitsValue (argument : Bytes) : Bool :=
  if argument.take 2 == text "--" then
    match table.named (argument.drop 2) with
    | .ok (.error _) => true
    | _ => false
  else
    let rest := argument.tail.dropWhile (· == 119)
    rest == text "s" || rest == text "f"

/-- Arguments in which the options are ended before a negative number. -/
def guarded : (most : Nat) → List Bytes → List Bytes
  | 0, arguments => arguments
  | _, [] => []
  | most + 1, argument :: rest =>
      if isNegative argument then text "--" :: argument :: rest
      else if !isOption argument || argument == text "--" then argument :: rest
      else if awaitsValue argument then
        argument :: (rest.take 1 ++ guarded most (rest.drop 1))
      else argument :: guarded most rest

/-! ## Operands -/

/-- A number that was given. -/
structure Given where
  /-- The number. -/
  value : Number.Binary
  /-- How many places it has behind the point, if that can be told. -/
  places : Option Nat
  /-- How wide it is. -/
  width : Int := 0
  deriving Repr, Inhabited

/-- A whole number that comes from nowhere. -/
def Given.whole (value : Nat) : Given := ⟨.finite false value 0, some 0, 1⟩

/-- The number is finite. -/
def isFinite : Number.Binary → Bool
  | .finite .. => true
  | _ => false

/-- The places and the width of a decimal number as it is spelled. -/
def measure (spelled : Bytes) : Nat × Int :=
  let length : Int := spelled.length
  let beforePoint := spelled.takeWhile (· != 46)
  let pointed := beforePoint.length < spelled.length
  let behindPoint := spelled.drop (beforePoint.length + 1)
  let isMark (b : UInt8) : Bool := b == 101 || b == 69
  let fraction := if pointed then (behindPoint.takeWhile (!isMark ·)).length else 0
  let width : Int :=
    if !pointed then length
    else if fraction = 0 then length - 1
    else if (beforePoint.getLast?).any Text.isDigit then length
    else length + 1
  let beforeMark := spelled.takeWhile (!isMark ·)
  if beforeMark.length = spelled.length then (fraction, width)
  else
    let exponent : Int :=
      (Number.Whole.read (some 10) (spelled.drop (beforeMark.length + 1))).elim 0 (·.value)
    let width := width - (length - beforeMark.length)
    if exponent < 0 then
      let unpointed := !pointed || beforeMark.length = beforePoint.length + 1
      (fraction + exponent.natAbs, (if unpointed then width + 1 else width) + exponent.natAbs)
    else
      let places := fraction - exponent.toNat
      let width := if pointed && places = 0 && fraction ≠ 0 then width - 1 else width
      (places, width + (exponent.toNat - fraction : Nat))

/-- The number that an operand spells. -/
def given (operand : Bytes) : Except Complaint Given :=
  let wrong : Except Complaint Given :=
    refuseUsage (text "invalid floating point argument: " ++ Quote.plain operand)
  match Number.Binary.read .extended operand with
  | none => wrong
  | some reading =>
      let tooGreat := reading.outOfRange && !isFinite reading.value
      if !reading.rest.isEmpty || tooGreat then wrong
      else match reading.value with
        | .nan _ =>
            refuseUsage (text "invalid 'not-a-number' argument: " ++ Quote.plain operand)
        | value =>
            let spelled := operand.dropWhile fun b => Text.isSpace b || b == 43
            let isHexadecimal := spelled.any fun b => b == 120 || b == 88
            if isFinite value && !isHexadecimal then
              let (places, width) := measure spelled
              .ok ⟨value, some places, width⟩
            else if spelled.contains 46 || spelled.contains 112 then .ok ⟨value, none, 0⟩
            else .ok ⟨value, some 0, 0⟩

/-! ## Formats -/

/-- A format that holds one number. -/
structure Form where
  /-- What stands before the number. -/
  before : Bytes := []
  /-- What the field of the number looks like. -/
  layout : Number.Layout
  /-- How the number is written. -/
  style : Number.Style
  /-- The number is written in capital letters. -/
  capital : Bool := false
  /-- What stands behind the number. -/
  behind : Bytes := []
  deriving Repr, Inhabited

/-- A number as a format shows it, without what stands around it. -/
def Form.bare (form : Form) (value : Number.Binary) : Bytes :=
  form.layout.binary .extended 4 form.style form.capital value

/-- The text before the first field of a format in which percent signs are doubled, and what stands
behind the sign of that field. -/
def plainPart : Bytes → Bytes × Option Bytes
  | [] => ([], none)
  | 37 :: 37 :: rest =>
      let (plain, field) := plainPart rest
      (37 :: plain, field)
  | b :: rest =>
      if b == 37 then ([], some rest)
      else
        let (plain, field) := plainPart rest
        (b :: plain, field)

/-- The format that a text spells. -/
def formOf (spelled : Bytes) : Except Complaint Form := do
  let refusal (what : Bytes) : Except Complaint Form :=
    refuse (text "format " ++ Quote.plain spelled ++ text " " ++ what)
  match plainPart spelled with
  | (_, none) => refusal (text "has no % directive")
  | (before, some field) =>
      let flags := field.takeWhile (text "-+#0 '").contains
      let rest := field.drop flags.length
      let width := rest.takeWhile Text.isDigit
      let rest := rest.drop width.length
      let (precision, rest) := match rest with
        | 46 :: rest =>
            let digits := rest.takeWhile Text.isDigit
            (some (Text.valueOf 10 digits), rest.drop digits.length)
        | rest => (none, rest)
      match (if rest.head? == some 76 then rest.tail else rest) with
      | [] => refusal (text "ends in %")
      | letter :: rest =>
          if !(text "efgaEFGA").contains letter then
            refusal (text "has unknown %" ++ [letter] ++ text " directive")
          else match plainPart rest with
            | (_, some _) => refusal (text "has too many % directives")
            | (behind, none) =>
                return {
                  before := before
                  layout := {
                    left := flags.contains 45
                    plus := flags.contains 43
                    blank := flags.contains 32
                    marked := flags.contains 35
                    zeros := flags.contains 48
                    width := Text.valueOf 10 width
                    precision := precision }
                  style := match Char.ofNat (Text.lower letter).toNat with
                    | 'f' => .fixed
                    | 'e' => .scientific
                    | 'g' => .general
                    | _ => .hexadecimal
                  capital := Text.isUpper letter
                  behind := behind }

/-- The format that fits three numbers. -/
def usualForm (equalWidth : Bool) (first step last : Given) : Form :=
  match first.places, step.places, last.places with
  | some inFirst, some inStep, some inLast =>
      let places := max inFirst inStep
      if !equalWidth then { layout := { precision := some places }, style := .fixed }
      else
        let point : Int := if places ≠ 0 then 1 else 0
        let firstWidth := first.width + (places - inFirst : Nat)
          + (if inFirst = 0 then point else 0)
        let lastWidth := last.width + ((places : Int) - inLast)
          - (if inLast ≠ 0 && places = 0 then 1 else 0)
          + (if inLast = 0 then point else 0)
        { layout := {
            zeros := true
            width := (max firstWidth lastWidth).toNat
            precision := some places }
          style := .fixed }
  | _, _, _ => { layout := {}, style := .general }

/-! ## Numbers -/

/-- A finite number as a quotient. -/
def quotient : Number.Binary → Int × Nat
  | .finite negative mantissa exponent =>
      let (numerator, denominator) := Number.Binary.ratio mantissa exponent
      (if negative then -numerator else numerator, denominator)
  | .infinite negative => (if negative then -1 else 1, 0)
  | .nan _ => (0, 0)

/-- The number that is nearest to a quotient. -/
def nearest (numerator : Int) (denominator : Nat) : Number.Binary :=
  Number.Precision.extended.round (numerator < 0) numerator.natAbs denominator

/-- The number that comes so many steps behind the first one. -/
def numberAt (first step : Number.Binary) (index : Nat) : Number.Binary :=
  match index, isFinite first, isFinite step with
  | 0, _, _ => first
  | _, false, _ => first
  | _, _, false => step
  | index, _, _ =>
      let (n, d) := quotient step
      let (a, b) := quotient first
      let (p, q) := quotient (nearest (n * index) d)
      nearest (a * q + p * b) (b * q)

/-- The first number is less than the second one. -/
def isLess (a b : Number.Binary) : Bool :=
  match a, b with
  | .infinite negative, .infinite other => negative && !other
  | .infinite negative, _ => negative
  | _, .infinite negative => !negative
  | a, b =>
      let (n, d) := quotient a
      let (p, q) := quotient b
      n * q < p * d

/-- A row of numbers: the text of each and whether it is the last one, if there is one with that
index. -/
abbrev Row := Nat → Option (Bytes × Bool)

/-- The row of some numbers in a format. A number behind the last one is there too if it cannot be
told from the last one. -/
def row (form : Form) (first step last : Number.Binary) : Row := fun index =>
  let descends := isLess step (.finite false 0 0)
  let isBehind (value : Number.Binary) : Bool :=
    if descends then isLess value last else isLess last value
  let value := numberAt first step index
  let shown (value : Number.Binary) : Bytes := form.before ++ form.bare value ++ form.behind
  if !isBehind value then some (shown value, false)
  else if index = 0 then none
  else
    let before := numberAt first step (index - 1)
    let isLast := match Number.Binary.read .extended (form.bare value) with
      | some reading => !isLess reading.value last && !isLess last reading.value
      | none => false
    if !isBehind before && isLast && form.bare value != form.bare before then
      some (shown value, true)
    else none

/-- The row of whole numbers of any size. -/
def wholeRow (first step : Nat) (last : Option Nat) : Row := fun index =>
  let value := first + step * index
  if last.all (value ≤ ·) then some (Text.decimal value, false) else none

/-- How many numbers are written at once. -/
def blockSize : Nat := 1024

/-- The texts of so many numbers of a row, and whether it has come to its end. -/
def block (row : Row) : (count : Nat) → (index : Nat) → List Bytes × Bool
  | 0, _ => ([], false)
  | count + 1, index =>
      match row index with
      | none => ([], true)
      | some (shown, true) => ([shown], true)
      | some (shown, false) =>
          let (more, ended) := block row count (index + 1)
          (shown :: more, ended)

/-- Writes a row of numbers. -/
def write (name separator : Bytes) (row : Row) : Prog Int :=
  Prog.iterate (fun index => do
    let (texts, ended) := block row blockSize index
    let start := if index ≠ 0 && !texts.isEmpty then separator else []
    let isAny := index ≠ 0 || !texts.isEmpty
    let bytes := start ++ List.intercalate separator texts
      ++ if ended && isAny then [newline] else []
    let code ← emitLast name bytes
    return if ended || code != 0 then .inr code else .inl (index + blockSize)) 0

/-- The argument consists of digits. -/
def isDigits (argument : Bytes) : Bool := !argument.isEmpty && argument.all Text.isDigit

/-- The greatest step with which numbers of any size are written. -/
def greatestStep : Nat := 200

/-- The row that operands ask for when all of them consist of digits. -/
def wholeRow? (operands : List Bytes) : Option Row :=
  if !operands.all isDigits then none
  else match operands.map (Text.valueOf 10) with
    | [last] => some (wholeRow 1 1 (some last))
    | [first, last] => some (wholeRow first 1 (some last))
    | [first, step, last] =>
        if 0 < step && step ≤ greatestStep then some (wholeRow first step (some last)) else none
    | _ => none

/-- The whole number that is given in some way, if it is not negative. -/
def Given.natural? (given : Given) : Option Nat :=
  match given.places, given.value with
  | some 0, .finite negative mantissa exponent =>
      let (numerator, denominator) := Number.Binary.ratio mantissa exponent
      if negative && numerator ≠ 0 then none else some (numerator / denominator)
  | _, _ => none

/-- The row of three numbers when all of them are whole and none is negative, or the last one is
beyond all others. -/
def givenRow? (first step last : Given) : Option Row := do
  let first ← first.natural?
  let step ← step.natural?
  let last ← match last.value with
    | .infinite false => some none
    | _ => last.natural?.map some
  if 0 < step && step ≤ greatestStep then some (wholeRow first step last) else none

/-- The first number, the step and the last number that operands ask for. -/
def bounds (operands : List Bytes) : Except Complaint (Given × Given × Given) :=
  match operands with
  | [] => .error .missing
  | [last] => do return (.whole 1, .whole 1, ← given last)
  | [first, last] => do
      let first ← given first
      return (first, .whole 1, ← given last)
  | [first, step, last] => do
      let first ← given first
      let stepGiven ← given step
      if (quotient stepGiven.value).1 = 0 then
        refuseUsage (text "invalid Zero increment value: " ++ Quote.plain step)
      return (first, stepGiven, ← given last)
  | _ :: _ :: _ :: extra :: _ => .error (.extra extra)

/-- The row that operands ask for. -/
def rowOf (settings : Settings) (operands : List Bytes) : Except Complaint Row := do
  if operands.isEmpty then throw .missing
  if let some extra := operands[3]? then throw (.extra extra)
  let form ← settings.format.mapM formOf
  if form.isSome && settings.equalWidth then
    refuseUsage (text
      "format string may not be specified when printing equal width strings")
  let isPlain := form.isNone && !settings.equalWidth && settings.separator.length = 1
  match if isPlain then wholeRow? operands else none with
  | some row => return row
  | none =>
      let (first, step, last) ← bounds operands
      match if isPlain then givenRow? first step last else none with
      | some row => return row
      | none =>
          let form := form.getD (usualForm settings.equalWidth first step last)
          return Sequence.row form first.value step.value last.value

end Sequence

open Sequence in
/-- Writes numbers in a row. -/
def seq : Utility := fun arguments =>
  let operands := guarded (arguments.length + 1) arguments.tail
  withOptions table 1 {} effect (nameOf arguments :: operands) fun name settings operands =>
    match rowOf settings operands with
    | .ok row => write name settings.separator row
    | .error complaint => report name 1 complaint

end LineShell.Utility
