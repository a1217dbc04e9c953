import LineShell.Text.Bytes

/-!
# Names in messages

A message that repeats a name says where the name begins and ends, and writes it such that every
byte of it can be told.

- **`Quote.named`** writes a name as a shell would have to be given it, and adds quotes only where
  they are needed.
- **`Quote.always`** does so with quotes in any case.
- **`Quote.plain`** puts a name between apostrophes and writes what cannot be printed with
  backslashes.
-/

namespace LineShell.Quote

/-- The apostrophe. -/
def apostrophe : UInt8 := 39

/-- The backslash. -/
def backslash : UInt8 := 92

/-- A byte stands for a character that can be printed. -/
def isPrintable (b : UInt8) : Bool := 32 ≤ b && b ≤ 126

/-- The three octal digits of a byte behind a backslash. -/
def octal (b : UInt8) : Bytes :=
  let digit (n : UInt8) : UInt8 := 48 + n
  [backslash, digit (b >>> 6), digit ((b >>> 3) &&& 7), digit (b &&& 7)]

/-- The letter that stands for a control character behind a backslash. -/
def escapeLetter? (b : UInt8) : Option UInt8 :=
  match b with
  | 7 => some 97
  | 8 => some 98
  | 9 => some 116
  | 10 => some 110
  | 11 => some 118
  | 12 => some 102
  | 13 => some 114
  | _ => none

/-- A byte as it is written with backslashes, if it cannot stand for itself. -/
def escaped? (b : UInt8) : Option Bytes :=
  match escapeLetter? b with
  | some letter => some [backslash, letter]
  | none => if isPrintable b then none else some (octal b)

/-- A name between apostrophes, with backslashes before what would be misread and in place of what
cannot be printed. -/
def plain (name : Bytes) : Bytes :=
  let body := name.flatMap fun b =>
    match escaped? b with
    | some spelling => spelling
    | none => if b = apostrophe ∨ b = backslash then [backslash, b] else [b]
  apostrophe :: body ++ [apostrophe]

/-- The characters with a meaning to the shell wherever they stand, the blank among them. -/
def special : Bytes := Text.bytesOf " !\"$&'()*;<=>?[\\^`|"

/-- The characters that keep a name from being put between quotation marks. -/
def stubborn : Bytes := Text.bytesOf "!\"#$&()*;<=>?[\\^`\x7b|\x7d~"

/-- A name would be misread if it stood without quotes. -/
def needsQuotes (colon : Bool) (name : Bytes) : Bool :=
  name.isEmpty
    || name.any (fun b => !isPrintable b || special.contains b || (colon && b == 58))
    || name.head? == some 35 || name.head? == some 126
    || name == [123] || name == [125]

/-- A name can stand between quotation marks without further care. -/
def fitsQuotationMarks (name : Bytes) : Bool :=
  name.all isPrintable
    && (if name.head? == some 35 || name.head? == some 126 then name.tail else name).all fun b =>
      !stubborn.contains b

/-- The body of a name between apostrophes, given whether the bytes before are written with
backslashes. -/
def quotedBody : (escaping : Bool) → Bytes → Bytes
  | _, [] => []
  | escaping, b :: rest =>
      match escaped? b with
      | some spelling =>
          (if escaping then [] else Text.bytesOf "'$'") ++ spelling ++ quotedBody true rest
      | none =>
          if b = apostrophe then
            Text.bytesOf "'\\''" ++ quotedBody false rest
          else (if escaping then Text.bytesOf "''" else []) ++ b :: quotedBody false rest

/-- A name with quotes around it, as a shell would have to be given it. -/
def always (name : Bytes) : Bytes :=
  if name.contains apostrophe && fitsQuotationMarks name then 34 :: name ++ [34]
  else apostrophe :: quotedBody false name ++ [apostrophe]

/-- A name with quotes around it if it needs them. -/
def ifNeeded (colon : Bool) (name : Bytes) : Bytes :=
  if needsQuotes colon name then always name else name

/-- A name in front of a message, with quotes around it if it needs them or holds a colon. -/
def named (name : Bytes) : Bytes := ifNeeded true name

end LineShell.Quote
