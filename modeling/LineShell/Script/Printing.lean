import LineShell.Number.Layout
import LineShell.Number.Whole
import LineShell.Script.Activity

/-!
# Printing

- **`echo`** writes its arguments, in which backslashes have a meaning.
- **`printf`** sets its arguments into a format.
-/

namespace LineShell.Script

/-- A command that a script runs by itself: what it does with its words, its own name first, and
how it ends. -/
abbrev Builtin := List Bytes → Activity Int

namespace Printing

/-! ## Backslashes -/

/-- The byte that a letter behind a backslash stands for. -/
def letter? (b : UInt8) : Option UInt8 :=
  match Char.ofNat b.toNat with
  | 'a' => some 7
  | 'b' => some 8
  | 'e' => some 27
  | 'f' => some 12
  | 'n' => some 10
  | 'r' => some 13
  | 't' => some 9
  | 'v' => some 11
  | '\\' => some 92
  | _ => none

/-- The digits of an octal number, so many at most. -/
def octal (most : Nat) (bytes : Bytes) : Bytes :=
  (bytes.take most).takeWhile fun b => 48 ≤ b && b ≤ 55

/-- The byte that stands for what follows a backslash, and what comes behind that. -/
def escape (bytes : Bytes) : UInt8 × Bytes :=
  match bytes with
  | [] => (92, [])
  | b :: rest =>
      match letter? b with
      | some byte => (byte, rest)
      | none =>
          let digits := octal 3 bytes
          if digits.isEmpty then (92, bytes)
          else (UInt8.ofNat (Text.valueOf 8 digits), bytes.drop digits.length)

/-- Gives backslashes in an argument their meaning, looking at so many bytes at most. The second
component tells that nothing is to be written any more. -/
def unescapeUpTo : (most : Nat) → Bytes → Bytes × Bool
  | 0, _ => ([], false)
  | _, [] => ([], false)
  | most + 1, b :: rest =>
      let go (byte : UInt8) (rest : Bytes) : Bytes × Bool :=
        let (more, stopped) := unescapeUpTo most rest
        (byte :: more, stopped)
      if b != 92 then go b rest
      else match rest with
        | 99 :: _ => ([], true)
        | 48 :: rest =>
            let digits := octal 3 rest
            go (UInt8.ofNat (Text.valueOf 8 digits)) (rest.drop digits.length)
        | rest =>
            let (byte, rest) := escape rest
            go byte rest

/-- Gives backslashes in an argument their meaning. -/
def unescape (bytes : Bytes) : Bytes × Bool := unescapeUpTo bytes.length bytes

/-! ## Formats -/

/-- What a format is being filled with. -/
structure Filling where
  /-- The arguments that are left. -/
  arguments : List Bytes
  /-- What has been written, the last piece first. -/
  pieces : List Bytes := []
  /-- An argument was no number. -/
  wrong : Bool := false
  deriving DecidableEq, Repr, Inhabited

/-- Something that fills a format. -/
abbrev Fill (α : Type) := StateT Filling (ExceptT Stop (StateT Knowledge Prog)) α

/-- Writes bytes. -/
def put (bytes : Bytes) : Fill Unit :=
  modify fun filling => { filling with pieces := bytes :: filling.pieces }

/-- Takes an argument, if there is one. -/
def take? : Fill (Option Bytes) := do
  let filling ← get
  match filling.arguments with
  | [] => return none
  | argument :: rest =>
      set { filling with arguments := rest }
      return some argument

/-- Complains about an argument that is no number. -/
def complain (argument : Bytes) (what : String) : Fill Unit := do
  warn (argument ++ Text.bytesOf (": " ++ what))
  modify fun filling => { filling with wrong := true }

/-- Checks that a number is all there is in an argument. -/
def check (argument rest : Bytes) (found outOfRange : Bool) : Fill Unit := do
  if !rest.isEmpty then
    complain argument (if found then "not completely converted" else "expected numeric value")
  else if outOfRange then complain argument "Numerical result out of range"

/-- The code of the character behind a quote at the front of an argument. -/
def quoted? (argument : Bytes) : Option Nat :=
  match argument with
  | quote :: rest =>
      if quote == 34 || quote == 39 then some (rest.headD 0).toNat else none
  | [] => none

/-- Takes an argument that is a whole number. -/
def takeWhole : Fill Int := do
  match ← take? with
  | none => return 0
  | some argument =>
      match quoted? argument with
      | some code => return code
      | none =>
          match Number.Whole.read none argument with
          | none =>
              check argument argument false false
              return 0
          | some reading =>
              let value := Number.Whole.clamp reading.value
              check argument reading.rest true (value != reading.value)
              return value

/-- Takes an argument that is a whole number without a sign. -/
def takeUnsigned : Fill Nat := do
  match ← take? with
  | none => return 0
  | some argument =>
      match quoted? argument with
      | some code => return code
      | none =>
          match Number.Whole.read none argument with
          | none =>
              check argument argument false false
              return 0
          | some reading =>
              let fits := reading.value.natAbs < Nat.pow 2 64
              check argument reading.rest true (!fits)
              return Number.Whole.clampUnsigned reading.value

/-- Takes an argument that is a number. -/
def takeBinary : Fill Number.Binary := do
  match ← take? with
  | none => return .finite false 0 0
  | some argument =>
      match quoted? argument with
      | some code => return .finite false code 0
      | none =>
          match Number.Binary.read .double argument with
          | none =>
              check argument argument false false
              return .finite false 0 0
          | some reading =>
              check argument reading.rest true reading.outOfRange
              return reading.value

/-- The number that stands at the front of a format, or the next argument in place of a star. -/
def size (format : Bytes) : Fill (Int × Bytes) := do
  match format with
  | 42 :: rest => return (← takeWhole, rest)
  | format =>
      let digits := format.takeWhile Text.isDigit
      return (Text.valueOf 10 digits, format.drop digits.length)

/-- Reads what a field looks like behind its percent sign. -/
def layout (format : Bytes) : Fill (Number.Layout × Bytes) := do
  let flags := format.takeWhile fun b => b == 35 || b == 45 || b == 43 || b == 32 || b == 48
  let (width, rest) ← size (format.drop flags.length)
  let (precision, rest) ← match rest with
    | 46 :: rest => do
        let (precision, rest) ← size rest
        pure (if precision < 0 then none else some precision.toNat, rest)
    | rest => pure (none, rest)
  return ({
    left := flags.contains 45 || width < 0
    plus := flags.contains 43
    blank := flags.contains 32
    marked := flags.contains 35
    zeros := flags.contains 48
    width := width.natAbs
    precision := precision }, rest)

/-- The style that a letter names. -/
def style (letter : Char) : Number.Style :=
  match letter.toLower with
  | 'f' => .fixed
  | 'e' => .scientific
  | 'g' => .general
  | _ => .hexadecimal

/-- Fills a field whose letter is given, and tells whether nothing is to be written any more. The
format of the field is given for complaints. -/
def field (layout : Number.Layout) (letter : Char) (format : Bytes) : Fill Bool := do
  match letter with
  | 'b' =>
      let (bytes, stopped) := unescape ((← take?).getD [])
      put (layout.text bytes)
      return stopped
  | 'c' =>
      match ← take? with
      | some argument => put (layout.fill [argument.headD 0])
      | none => put (layout.fill [0])
      return false
  | 's' =>
      put (layout.text ((← take?).getD []))
      return false
  | 'd' | 'i' =>
      put (layout.integer (← takeWhole))
      return false
  | 'o' | 'u' | 'x' | 'X' =>
      put (layout.unsigned letter (← takeUnsigned))
      return false
  | 'a' | 'A' | 'e' | 'E' | 'f' | 'F' | 'g' | 'G' =>
      put (layout.binary .double 1 (style letter) letter.isUpper (← takeBinary))
      return false
  | _ => failAfter (format ++ Text.bytesOf ": invalid directive")
where
  /-- Stops with a complaint; what was written stays. -/
  failAfter (message : Bytes) : Fill Bool := do
    let filling ← get
    say filling.pieces.reverse.flatten
    fail message

/-- Fills a format once, looking at so many bytes at most, and tells whether nothing is to be
written any more. -/
def once : (most : Nat) → Bytes → Fill Bool
  | 0, _ => return false
  | most + 1, format => do
      let plain := format.takeWhile fun b => b != 92 && b != 37
      if !plain.isEmpty then put plain
      match format.drop plain.length with
      | [] => return false
      | 92 :: rest =>
          let (byte, rest) := escape rest
          put [byte]
          once most rest
      | _ :: 37 :: rest =>
          put [37]
          once most rest
      | _ :: rest =>
          let (layout, behind) ← layout rest
          match behind with
          | [] =>
              let filling ← get
              say filling.pieces.reverse.flatten
              failWith "missing format character"
          | letter :: behind =>
              let spelled := 37 :: rest.take (rest.length - behind.length)
              if ← field layout (Char.ofNat letter.toNat) spelled then return true
              once most behind

/-- Fills a format as long as it takes arguments and some are left. -/
def repeatedly (format : Bytes) : (most : Nat) → Fill Unit
  | 0 => return ()
  | most + 1 => do
      let before := (← get).arguments.length
      if ← once (format.length + 1) format then return ()
      let left := (← get).arguments.length
      if left = 0 || left = before then return () else repeatedly format most

end Printing

/-- Writes arguments with blanks between them. -/
def echo : Builtin := fun words => do
  let (bare, arguments) := match words.tail with
    | first :: rest => if first == Text.bytesOf "-n" then (true, rest) else (false, first :: rest)
    | [] => (false, [])
  let shown := arguments.map Printing.unescape
  match shown.findIdx? Prod.snd with
  | some index => say (List.intercalate [32] ((shown.take (index + 1)).map Prod.fst))
  | none =>
      say (List.intercalate [32] (shown.map Prod.fst))
      if !bare then say [10]
  return 0

/-- Sets arguments into a format. -/
def printf : Builtin := fun words => do
  let operands ← match words.tail with
    | first :: rest =>
        if first == Text.bytesOf "--" then pure rest
        else if first.head? == some 45 && first.length > 1 then
          fail (Text.bytesOf "Illegal option " ++ first.take 2)
        else pure (first :: rest)
    | [] => pure []
  match operands with
  | [] => failWith "usage: printf format [arg ...]"
  | format :: arguments =>
      let ((), filling) ←
        (Printing.repeatedly format (arguments.length + 1)).run { arguments := arguments }
      say filling.pieces.reverse.flatten
      return if filling.wrong then 1 else 0

end LineShell.Script
