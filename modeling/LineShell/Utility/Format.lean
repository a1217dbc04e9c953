import LineShell.Number.Layout
import LineShell.Number.Whole
import LineShell.Utility.Base

/-!
# Formats

A format holds text, escapes that begin with a backslash, and fields that begin with a percent sign
and take arguments. It is filled again and again as long as arguments are left.

- **`unescape`** gives the escapes in a text their meaning.
- **`printf`** sets its arguments into a format.
-/

namespace LineShell.Utility

/-! ## Escapes -/

namespace Escape

/-- The byte that a letter behind a backslash stands for. -/
def letter? (b : UInt8) : Option UInt8 :=
  match Char.ofNat b.toNat with
  | 'a' => some 7
  | 'b' => some 8
  | 'e' => some 27
  | 'f' => some 12
  | 'n' => some 10
  | 'r' => some 13
  | 't' => some 9
  | 'v' => some 11
  | '\\' => some 92
  | _ => none

/-- The digits of a base at the front of a text, so many at most. -/
def digits (base most : Nat) (bytes : Bytes) : Bytes :=
  (bytes.take most).takeWhile fun b => (Text.digitValue? base b).isSome

/-- What an escape comes to. -/
inductive Meaning where
  /-- Bytes that stand in its place. -/
  | bytes (bytes : Bytes)
  /-- The end of everything. -/
  | stop
  /-- The digits that it needs are missing. -/
  | lacksDigits
  deriving DecidableEq, Repr, Inhabited

/-- The bytes that show a character that has no byte of its own. -/
def characterBytes (value : Nat) : Bytes :=
  if value < 128 then [UInt8.ofNat value]
  else
    let spelled : Bytes := (text (String.ofList (Nat.toDigits 16 value))).map Text.upper
    let length : Nat := if value < 65536 then 4 else 8
    [92, if value < 65536 then 117 else 85] ++ List.replicate (length - spelled.length) 48
      ++ spelled

/-- A character that is given by so many digits, and what follows them. -/
def character (count : Nat) (bytes : Bytes) : Meaning × Bytes :=
  let spelled := digits 16 count bytes
  if spelled.length < count then (.lacksDigits, [])
  else (.bytes (characterBytes (Text.valueOf 16 spelled)), bytes.drop count)

/-- An octal number behind a backslash, and what follows it. A zero before it does not count among
its three digits if `zeroed` holds. -/
def octal (zeroed : Bool) (bytes : Bytes) : Meaning × Bytes :=
  let bytes := if zeroed && bytes.head? == some 48 then bytes.tail else bytes
  let spelled := digits 8 3 bytes
  (.bytes [UInt8.ofNat (Text.valueOf 8 spelled)], bytes.drop spelled.length)

/-- The meaning of what follows a backslash in a format, and what follows that. -/
def inFormat (zeroed : Bool) (bytes : Bytes) : Meaning × Bytes :=
  match bytes with
  | [] => (.bytes [92], [])
  | b :: rest =>
      if b == 120 then
        let spelled := digits 16 2 rest
        if spelled.isEmpty then (.lacksDigits, [])
        else (.bytes [UInt8.ofNat (Text.valueOf 16 spelled)], rest.drop spelled.length)
      else if (Text.digitValue? 8 b).isSome then octal zeroed bytes
      else if b == 99 then (.stop, [])
      else if b == 117 then character 4 rest
      else if b == 85 then character 8 rest
      else if b == 34 then (.bytes [34], rest)
      else match letter? b with
        | some byte => (.bytes [byte], rest)
        | none => (.bytes [92, b], rest)

/-- The meaning of what follows a backslash in a plain text, and what follows that. -/
def inText (bytes : Bytes) : Meaning × Bytes :=
  match bytes with
  | [] => (.bytes [92], [])
  | b :: rest =>
      if b == 120 then
        let spelled := digits 16 2 rest
        if spelled.isEmpty then (.bytes [92, b], rest)
        else (.bytes [UInt8.ofNat (Text.valueOf 16 spelled)], rest.drop spelled.length)
      else if (Text.digitValue? 8 b).isSome then octal true bytes
      else if b == 99 then (.stop, [])
      else match letter? b with
        | some byte => (.bytes [byte], rest)
        | none => (.bytes [92, b], rest)

end Escape

/-- Gives the escapes in a text their meaning, looking at so many of them at most. What stops the
output, if something does, is the second component. -/
def unescapeUpTo (meaning : Bytes → Escape.Meaning × Bytes) :
    (most : Nat) → Bytes → Bytes × Option Escape.Meaning
  | 0, bytes => (bytes, none)
  | most + 1, bytes =>
      let before := bytes.takeWhile (· != 92)
      match bytes.drop before.length with
      | [] => (before, none)
      | _ :: rest =>
          match meaning rest with
          | (.bytes replaced, left) =>
              let (more, halt) := unescapeUpTo meaning most left
              (before ++ replaced ++ more, halt)
          | (halt, _) => (before, some halt)

/-- Gives the escapes in a text their meaning. -/
def unescape (meaning : Bytes → Escape.Meaning × Bytes) (bytes : Bytes) :
    Bytes × Option Escape.Meaning :=
  unescapeUpTo meaning bytes.length bytes

/-! ## Fields -/

namespace Format

/-- What a format is being filled with. -/
structure State where
  /-- The arguments that are left. -/
  arguments : List Bytes
  /-- What has been written, the last piece first. -/
  pieces : List Bytes := []
  /-- The exit code so far. -/
  code : Int := 0
  deriving DecidableEq, Repr, Inhabited

/-- Why filling ends before its time. -/
inductive Halt where
  /-- Nothing is to be written any more. -/
  | stops
  /-- Something is wrong. -/
  | fails (message : Bytes)
  deriving DecidableEq, Repr, Inhabited

/-- Something that fills a format. -/
abbrev Filling (α : Type) := ExceptT Halt (StateT State Prog) α

/-- Writes bytes. -/
def put (bytes : Bytes) : Filling Unit :=
  modify fun state => { state with pieces := bytes :: state.pieces }

/-- Takes an argument, if there is one. -/
def take? : Filling (Option Bytes) := do
  let state ← get
  match state.arguments with
  | [] => return none
  | argument :: rest =>
      set { state with arguments := rest }
      return some argument

/-- Writes what an escape comes to. -/
def putMeaning : Escape.Meaning → Filling Unit
  | .bytes bytes => put bytes
  | .stop => throw .stops
  | .lacksDigits => throw (.fails (text "missing hexadecimal number in escape"))

section Arguments

variable (name : Bytes)

/-- Says that an argument is not as it should be. -/
def complainOfArgument (message : Bytes) : Filling Unit := do
  liftM (complain name message)
  modify fun state => { state with code := 1 }

/-- Says what is wrong with a number that has been read from an argument. -/
def checkNumber (argument rest : Bytes) (outOfRange : Bool) : Filling Unit := do
  let shown := Quote.plain argument
  if outOfRange then complainOfArgument name (shown ++ text ": Numerical result out of range")
  else if !rest.isEmpty then
    complainOfArgument name (shown ++ text ": value not completely converted")

/-- Says that an argument is no number, unless it is empty. -/
def checkNothing (argument : Bytes) : Filling Unit := do
  if !argument.isEmpty then
    complainOfArgument name (Quote.plain argument ++ text ": expected a numeric value")

/-- The code of the character behind a quote at the front of an argument, if one is there. -/
def quoted? (argument : Bytes) : Filling (Option Nat) := do
  match argument with
  | quote :: character :: rest =>
      if quote == 34 || quote == 39 then
        if !rest.isEmpty then
          liftM (complain name (text "warning: " ++ rest
            ++ text ": character(s) following character constant have been ignored"))
        return some character.toNat
      else return none
  | _ => return none

/-- The whole number that an argument spells. -/
def wholeOf (argument : Bytes) : Filling Int := do
  match ← quoted? name argument with
  | some code => return code
  | none =>
      match Number.Whole.read none argument with
      | none =>
          checkNothing name argument
          return 0
      | some reading =>
          let value := Number.Whole.clamp reading.value
          checkNumber name argument reading.rest (value != reading.value)
          return value

/-- The whole number without a sign that an argument spells. -/
def unsignedOf (argument : Bytes) : Filling Nat := do
  match ← quoted? name argument with
  | some code => return code
  | none =>
      match Number.Whole.read none argument with
      | none =>
          checkNothing name argument
          return 0
      | some reading =>
          checkNumber name argument reading.rest (Nat.pow 2 64 ≤ reading.value.natAbs)
          return Number.Whole.clampUnsigned reading.value

/-- The number that an argument spells. -/
def binaryOf (argument : Bytes) : Filling Number.Binary := do
  match ← quoted? name argument with
  | some code => return .finite false code 0
  | none =>
      match Number.Binary.read .extended argument with
      | none =>
          checkNothing name argument
          return .finite false 0 0
      | some reading =>
          checkNumber name argument reading.rest reading.outOfRange
          return reading.value

/-! ## Reading fields -/

/-- The flags that a field may begin with. -/
def flags : Bytes := text "I'-+ #0"

/-- The letters that may follow flags. -/
def fits (given : Bytes) (pointed : Bool) (letter : UInt8) : Bool :=
  let refused := (if given.contains 73 || given.contains 39 then "aAceEosxX" else "")
    ++ (if given.contains 35 then "cdisu" else "")
    ++ (if given.contains 48 then "cs" else "")
    ++ (if pointed then "c" else "")
  (text "aAcdeEfFgGiosuxX").contains letter && !(text refused).contains letter

/-- The greatest width. -/
def greatestWidth : Int := Int.pow 2 31 - 1

/-- The width in place of a star, or the one that digits spell, and what follows. -/
def width (bytes : Bytes) : Filling (Int × Bytes) := do
  match bytes with
  | 42 :: rest =>
      match ← take? with
      | none => return (0, rest)
      | some argument =>
          let width ← wholeOf name argument
          if width < -greatestWidth - 1 || greatestWidth < width then
            throw (.fails (text "invalid field width: " ++ Quote.plain argument))
          return (width, rest)
  | bytes =>
      let digits := bytes.takeWhile Text.isDigit
      return (Text.valueOf 10 digits, bytes.drop digits.length)

/-- The precision behind a point: the one in place of a star, or the one that digits spell, and what
follows. -/
def precision (bytes : Bytes) : Filling (Option Nat × Bytes) := do
  match bytes with
  | 42 :: rest =>
      match ← take? with
      | none => return (some 0, rest)
      | some argument =>
          let precision ← wholeOf name argument
          if greatestWidth < precision then
            throw (.fails (text "invalid precision: " ++ Quote.plain argument))
          return (if precision < 0 then none else some precision.toNat, rest)
  | bytes =>
      let digits := bytes.takeWhile Text.isDigit
      return (some (Text.valueOf 10 digits), bytes.drop digits.length)

/-- How the number in a field is written. -/
def style (letter : UInt8) : Number.Style :=
  match Char.ofNat (Text.lower letter).toNat with
  | 'f' => .fixed
  | 'e' => .scientific
  | 'g' => .general
  | _ => .hexadecimal

/-- Fills a field of some layout with an argument. -/
def fill (layout : Number.Layout) (letter : UInt8) (argument : Bytes) : Filling Unit := do
  match Char.ofNat letter.toNat with
  | 'd' | 'i' => put (layout.integer (← wholeOf name argument))
  | 'o' | 'u' | 'x' | 'X' =>
      put (layout.unsigned (Char.ofNat letter.toNat) (← unsignedOf name argument))
  | 'c' => put (layout.fill [argument.headD 0])
  | 's' => put (layout.text argument)
  | _ =>
      put (layout.binary .extended 4 (style letter) (Text.isUpper letter)
        (← binaryOf name argument))

/-- Fills the field that begins behind a percent sign, and tells what follows it. -/
def field (bytes : Bytes) : Filling Bytes := do
  let given := bytes.takeWhile flags.contains
  let (width, rest) ← width name (bytes.drop given.length)
  let (pointed, precision, rest) ← match rest with
    | 46 :: rest => do
        let (precision, rest) ← precision name rest
        pure (true, precision, rest)
    | rest => pure (false, none, rest)
  let rest := rest.dropWhile (text "lLhjtz").contains
  let letter := rest.headD 0
  if !fits given pointed letter then
    let spelled := bytes.take (bytes.length - rest.length + 1)
    throw (.fails (37 :: spelled ++ text ": invalid conversion specification"))
  fill name {
    left := given.contains 45 || width < 0
    plus := given.contains 43
    blank := given.contains 32
    marked := given.contains 35
    zeros := given.contains 48
    width := width.natAbs
    precision := precision } letter ((← take?).getD [])
  return rest.tail

/-- Fills a format once, looking at so many pieces of it at most. -/
def once : (most : Nat) → Bytes → Filling Unit
  | 0, _ => return ()
  | most + 1, bytes => do
      let plain := bytes.takeWhile fun b => b != 92 && b != 37
      put plain
      match bytes.drop plain.length with
      | [] => return ()
      | 92 :: rest =>
          let (meaning, rest) := Escape.inFormat false rest
          putMeaning meaning
          once most rest
      | _ :: 37 :: rest =>
          put [37]
          once most rest
      | _ :: 98 :: rest =>
          let (bytes, stop) := unescape (Escape.inFormat true) ((← take?).getD [])
          put bytes
          stop.forM putMeaning
          once most rest
      | _ :: 113 :: rest =>
          (← take?).forM fun argument => put (Quote.ifNeeded false argument)
          once most rest
      | _ :: rest => once most (← field name rest)

/-- Fills a format as long as it takes arguments and some are left, so many times at most. -/
def repeatedly (format : Bytes) : (most : Nat) → Filling Unit
  | 0 => return ()
  | most + 1 => do
      let before := (← get).arguments.length
      once name (format.length + 1) format
      let after := (← get).arguments.length
      if after = 0 then return ()
      if after < before then repeatedly format most

end Arguments

end Format

open Format in
/-- Sets arguments into a format. -/
def printf : Utility := fun arguments => do
  let name := nameOf arguments
  let operands := match arguments.tail with
    | first :: rest => if first == text "--" then rest else first :: rest
    | [] => []
  match operands with
  | [] =>
      complain name (text "missing operand")
      pointToHelp name
      return 1
  | format :: rest =>
      let (result, state) ← ((repeatedly name format (rest.length + 1)).run).run
        { arguments := rest }
      let code ← match result with
        | .error (.fails message) => do
            complain name message
            pure 1
        | .error .stops => pure 0
        | .ok () => do
            match state.arguments with
            | [] => pure ()
            | extra :: _ =>
                complain name (text "warning: ignoring excess arguments, starting with "
                  ++ Quote.plain extra)
            pure state.code
      emit name state.pieces.reverse.flatten code (.brief 1)

end LineShell.Utility
