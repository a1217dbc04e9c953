import LineShell.Number.Binary
import LineShell.Number.Total
import LineShell.Utility.Format
import LineShell.Utility.Options

/-!
# Utilities that write little

- **`succeed`** and **`fail`** write nothing.
- **`echo`** writes its arguments, and **`yes`** does so without an end.
- **`sleep`** lets time pass.
- **`basename`** and **`dirname`** write parts of paths.
-/

namespace LineShell.Utility

/-- Does nothing. -/
def succeed : Utility := fun _ => pure 0

/-- Does nothing and fails. -/
def fail : Utility := fun _ => pure 1

/-- Words with one blank between two of them. -/
def joinWords (words : List Bytes) : Bytes := List.intercalate [32] words

/-! ## `echo` -/

/-- The argument consists of the letters that `echo` takes for options. -/
def isEchoOption (argument : Bytes) : Bool :=
  isOption argument && argument.tail.all fun b => b == 110 || b == 101 || b == 69

/-- Writes its arguments, without a line feed after `-n`, with escapes replaced after `-e`. -/
def echo : Utility := fun arguments => do
  let options := arguments.tail.takeWhile isEchoOption
  let letters := options.flatten
  let words := joinWords (arguments.tail.drop options.length)
  let escaped := (letters.filter fun b => b == 101 || b == 69).getLast? == some 101
  let (bytes, stop) := if escaped then unescape Escape.inText words else (words, none)
  let ending := if stop.isSome || letters.contains 110 then [] else [newline]
  emitLast (nameOf arguments) (bytes ++ ending)

/-! ## `yes` -/

/-- The table of a utility without options of its own. -/
def noOptions : OptionTable where
  letters := ""

/-- The effect of no option. -/
def noEffect : OptionEffect Unit := fun _ _ _ => .ok ()

/-- How many bytes `yes` writes at once. -/
def yesBlock : Nat := 8192

/-- Writes bytes again and again until that fails. -/
def writeForever (bytes : Bytes) : Prog Errno :=
  Prog.iterate (fun () => do
    match ← Prog.write Fd.stdout bytes with
    | .ok () => return .inl ()
    | .error errno => return .inr errno) ()

/-- Writes the same line again and again until that fails. -/
def yes : Utility := fun arguments =>
  withOptions noOptions 1 () noEffect arguments fun name () operands => do
    let line := (if operands.isEmpty then text "y" else joinWords operands) ++ [newline]
    let errno ← writeForever (List.replicate (yesBlock / line.length + 1) line).flatten
    complainOf name (text "standard output") errno
    return 1

/-! ## `sleep` -/

/-- How many seconds the letter behind a number stands for. -/
def secondsIn? : Bytes → Option Nat
  | [] => some 1
  | [letter] =>
      match Char.ofNat letter.toNat with
      | 's' => some 1
      | 'm' => some 60
      | 'h' => some 3600
      | 'd' => some 86400
      | _ => none
  | _ => none

/-- A time that never comes, in milliseconds. -/
def forever : Nat := Nat.pow 10 18

/-- How many milliseconds an argument asks for. -/
def milliseconds? (argument : Bytes) : Option Nat := do
  let reading ← Number.Binary.read .double argument
  let seconds ← secondsIn? reading.rest
  match reading.value with
  | .nan _ => none
  | .infinite negative => if negative then none else some forever
  | .finite negative mantissa exponent =>
      if negative && mantissa ≠ 0 then none
      else
        let (numerator, denominator) := Number.Binary.ratio mantissa exponent
        some (min forever ((numerator * seconds * 1000 + denominator - 1) / denominator))

/-- Lets time pass. -/
def sleep : Utility := fun arguments =>
  withOptions noOptions 1 () noEffect arguments fun name () operands => do
    if operands.isEmpty then report name 1 .missing
    else
      let wrong := operands.filter fun operand => (milliseconds? operand).isNone
      if !wrong.isEmpty then
        complainEach name (wrong.map fun operand =>
          text "invalid time interval " ++ Quote.plain operand)
        pointToHelp name
        return 1
      let now ← Prog.call .now
      Prog.call (.sleepUntil (now + Number.total (operands.filterMap milliseconds?)))
      return 0

/-! ## Parts of paths -/

namespace PathPart

/-- The last name of a path, without a suffix if it ends in that and is more. -/
def last (path suffix : Bytes) : Bytes :=
  let bare := (path.reverse.dropWhile (· == Path.slash)).reverse
  let name := (bare.reverse.takeWhile (· != Path.slash)).reverse
  if path.isEmpty then []
  else if bare.isEmpty then [Path.slash]
  else if name != suffix && !suffix.isEmpty
      && name.drop (name.length - suffix.length) == suffix then
    name.take (name.length - suffix.length)
  else name

/-- A path without its last name. -/
def withoutLast (path : Bytes) : Bytes :=
  let strip (bytes : Bytes) := (bytes.reverse.dropWhile (· == Path.slash)).reverse
  let rest := strip (((strip path).reverse.dropWhile (· != Path.slash)).reverse)
  if !rest.isEmpty then rest
  else if path.head? == some Path.slash then [Path.slash]
  else Path.here

/-- How names are written. -/
structure Settings where
  /-- There may be many paths. -/
  many : Bool := false
  /-- What is taken off names. -/
  suffix : Bytes := []
  /-- What stands behind each. -/
  ending : UInt8 := newline
  deriving Repr, Inhabited

/-- The options of `basename`. -/
def table : OptionTable where
  letters := "as:z"
  names := [("multiple", "a"), ("suffix:", "s"), ("zero", "z")]
  strict := true

/-- The effect of an option. -/
def effect : OptionEffect Settings := fun settings key value =>
  match key with
  | "a" => .ok { settings with many := true }
  | "s" => .ok { settings with many := true, suffix := value.getD [] }
  | "z" => .ok { settings with ending := 0 }
  | _ => .ok settings

end PathPart

open PathPart in
/-- Writes the last names of paths. -/
def basename : Utility := fun arguments =>
  withOptions table 1 {} effect arguments fun name settings operands => do
    let write (paths : List Bytes) (suffix : Bytes) : Prog Int :=
      emitLast name (paths.flatMap fun path => last path suffix ++ [settings.ending])
    match settings.many, operands with
    | _, [] => report name 1 .missing
    | true, paths => write paths settings.suffix
    | false, [path] => write [path] []
    | false, [path, suffix] => write [path] suffix
    | false, _ :: _ :: extra :: _ => report name 1 (.extra extra)

open PathPart in
/-- Writes paths without their last names. -/
def dirname : Utility := fun arguments =>
  let table : OptionTable := { letters := "z", names := [("zero", "z")] }
  withOptions table 1 {} effect arguments fun name settings operands => do
    if operands.isEmpty then report name 1 .missing
    else emitLast name (operands.flatMap fun path => withoutLast path ++ [settings.ending])

end LineShell.Utility
