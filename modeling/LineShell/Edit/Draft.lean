import LineShell.Edit.Replacement

/-!
# A script while it is read

A script is given in several texts, which are read one after the other.

- **`Draft`** holds what has been read, and what is left of the text that is being read.
- **`Reading`** reads on. The draft outlives a fault, so that the place of that can be told.
-/

namespace LineShell.Edit

/-- How a script is read. -/
structure Manner where
  /-- Groups, bars and bounds of regular expressions need no backslash. -/
  extended : Bool := false
  /-- Nothing but the lines themselves may be read or written. -/
  confined : Bool := false
  /-- The byte that ends a line. -/
  delimiter : UInt8 := 10
  deriving DecidableEq, Repr, Inhabited

/-- Where a text of a script comes from. -/
inductive Source where
  /-- It was given with so many others. -/
  | expression (number : Nat)
  /-- It is held in a file. -/
  | file (name : Bytes)
  deriving DecidableEq, Repr, Inhabited

/-- A script while it is read. -/
structure Draft where
  /-- What is left of the text. -/
  rest : Bytes := []
  /-- How many bytes of it have been read. -/
  taken : Nat := 0
  /-- The line that is read. -/
  line : Nat := 1
  /-- Where it comes from. -/
  source : Source := .expression 1
  /-- It is the first text. -/
  isFirst : Bool := true
  /-- The script so far. -/
  script : Script := {}
  /-- The blocks that have not ended, the innermost one first. -/
  blocks : List (Nat × Spot) := []
  /-- The files that are written, the last one first. -/
  outputs : List Bytes := []
  /-- The text of the last step goes on in the next text; what has been read of it. -/
  pending : Option Bytes := none
  /-- The script says that lines are not written. -/
  silent : Bool := false
  deriving Repr, Inhabited

/-- Reads a script. -/
abbrev Reading := EStateM Fault Draft

namespace Draft

/-- The place that has been reached. -/
def spot (draft : Draft) : Spot :=
  match draft.source with
  | .expression number => .expression number draft.taken
  | .file name => .file name draft.line

/-- A place in the text whatever has been read of it. -/
def spotOfText (draft : Draft) : Spot :=
  match draft.source with
  | .expression number => .expression number 0
  | .file name => .file name draft.line

/-- So many bytes have been read. -/
def advance (count : Nat) (draft : Draft) : Draft :=
  { draft with
    rest := draft.rest.drop count
    taken := draft.taken + count
    line := draft.line + (draft.rest.take count).count 10 }

/-- Another step has been read. -/
def addStep (step : Step) (draft : Draft) : Draft :=
  { draft with script := { draft.script with steps := draft.script.steps.push step } }

/-- What a step does has been learned later. -/
def setCommand (index : Nat) (command : Command) (draft : Draft) : Draft :=
  let steps := draft.script.steps.modify index fun step => { step with command := command }
  { draft with script := { draft.script with steps := steps } }

end Draft

namespace Reading

/-- The next byte, if there is one. -/
def next : Reading (Option UInt8) := do
  match (← get).rest with
  | [] => return none
  | b :: _ =>
      modify (Draft.advance 1)
      return some b

/-- A byte that was read has not been read. -/
def back (read : Option UInt8) : Reading Unit :=
  modify fun draft => match read with
    | none => draft
    | some b => { draft with
        rest := b :: draft.rest
        taken := draft.taken - 1
        line := draft.line - (if b = 10 then 1 else 0) }

/-- The next byte that is no blank, if there is one. -/
def nextInk : Reading (Option UInt8) := do
  modify fun draft => draft.advance (draft.rest.takeWhile Text.isBlankByte).length
  next

/-- Reads on as long as a test holds. -/
def takeWhile (test : UInt8 → Bool) : Reading Bytes := do
  let read := (← get).rest.takeWhile test
  modify (Draft.advance read.length)
  return read

/-- Numbers count up to this and then from the beginning. -/
def wordBound : Nat := Nat.pow 2 64

/-- The number that begins with a byte, which is zero if that is no digit. -/
def number (first : Option UInt8) : Reading Nat := do
  match first.filter Text.isDigit with
  | none =>
      back first
      return 0
  | some digit => return Text.valueOf 10 (digit :: (← takeWhile Text.isDigit)) % wordBound

/-- Where a byte of a regular expression stands with respect to lists of bytes. -/
inductive Bracket where
  /-- Outside of lists. -/
  | outside
  /-- At the beginning of a list. -/
  | opened
  /-- At the beginning of a list of bytes that are not meant. -/
  | negated
  /-- In a list. -/
  | inside
  /-- In a name within a list. -/
  | named (mark : UInt8)
  deriving DecidableEq, Repr, Inhabited

/-- Where the next byte stands behind one that is followed by another one, and whether that one
has been taken too. -/
def Bracket.after (bracket : Bracket) (b follower : UInt8) : Bracket × Bool :=
  let opens := b = 91 && [58, 46, 61].contains follower
  match bracket with
  | .outside => (if b = 91 then .opened else .outside, false)
  | .opened =>
      if b = 94 then (.negated, false) else if opens then (.named follower, true)
      else (.inside, false)
  | .negated => if opens then (.named follower, true) else (.inside, false)
  | .inside =>
      if b = 93 then (.outside, false) else if opens then (.named follower, true)
      else (.inside, false)
  | .named mark => if b = mark && follower = 93 then (.inside, true) else (.named mark, false)

/-- A text up to a delimiter, if that comes on the same line, and how many bytes that takes.
Behind a backslash the delimiter and the line feed stand for themselves; in a pattern, the letter
`n` stands for a line feed, and the delimiter also stands for itself in lists of bytes. -/
def delimitedPart (delimiter : UInt8) (isPattern : Bool) : Bracket → Bytes → Option Bytes × Nat
  | _, [] => (none, 0)
  | bracket, [b] =>
      if b = delimiter && bracket = .outside then (some [], 1)
      else (none, if b = 10 then 0 else 1)
  | bracket, b :: c :: rest =>
      let goOn (read : Bytes) (later : Option Bytes × Nat) (count : Nat) : Option Bytes × Nat :=
        (later.1.map (read ++ ·), later.2 + count)
      let isOutside := bracket = .outside
      if b = delimiter && isOutside then (some [], 1)
      else if b = 10 then (none, 0)
      else if b = backslash then
        let read :=
          if c = delimiter && isOutside then (if !isPattern && c = 38 then [b, c] else [c])
          else if c = 10 then [c]
          else if isPattern && c = 110 then [10]
          else [b, c]
        let next := if isOutside || c = 93 then .outside else .inside
        goOn read (delimitedPart delimiter isPattern next rest) 2
      else
        let (next, takesTwo) := if isPattern then bracket.after b c else (.outside, false)
        if takesTwo then goOn [b, c] (delimitedPart delimiter isPattern next rest) 2
        else goOn [b] (delimitedPart delimiter isPattern next (c :: rest)) 1

/-- A text up to a delimiter, if that comes. -/
def delimited (delimiter : UInt8) (isPattern : Bool) : Reading (Option Bytes) := do
  let (part, count) := delimitedPart delimiter isPattern .outside (← get).rest
  modify (Draft.advance count)
  return part

/-- Text that is to be written, whether it goes on in another text, and how many bytes it takes. -/
def textPart : Bytes → Bytes × Bool × Nat
  | [] => ([10], false, 0)
  | [b] => if b = backslash then ([10], true, 1) else if b = 10 then ([10], false, 1)
      else ([b, 10], false, 1)
  | b :: c :: rest =>
      if b = 10 then ([10], false, 1)
      else
        let (read, later) := if b = backslash then ([b, c], textPart rest)
          else ([b], textPart (c :: rest))
        (read ++ later.1, later.2.1, later.2.2 + read.length)

/-- The result of a conversion, or its fault. -/
def ofExcept {α : Type} : Except Fault α → Reading α
  | .ok value => return value
  | .error fault => throw fault

/-- Text that is to be written, behind what has been read of it. -/
def text (read : Bytes) : Reading Bytes := do
  let (part, goesOn, count) := textPart (← get).rest
  modify (Draft.advance count)
  let whole := read ++ part
  if goesOn then
    modify fun draft => { draft with pending := some whole }
    return whole
  else
    modify fun draft => { draft with pending := none }
    ofExcept (Escapes.text.convert whole)

/-- Only blanks may come before the end of the step. -/
def endOfStep : Reading Unit := do
  let read ← nextInk
  match read with
  | none | some 10 | some 59 => return ()
  | some 125 | some 35 => back read
  | some _ => throw .extraCharacters

/-- A label, which may be empty. -/
def label : Reading Bytes := do
  let _ ← takeWhile Text.isBlankByte
  takeWhile fun b => !(Text.isSpace b || b == 59 || b == 125)

/-- The name of a file, which takes the rest of the line. -/
def fileName : Reading Bytes := do
  let _ ← takeWhile Text.isBlankByte
  let name ← takeWhile (· != 10)
  let _ ← next
  if name.isEmpty then throw .missingFile
  return name

/-- The name of a file that will be written. -/
def outputName : Reading Bytes := do
  let name ← fileName
  modify fun draft => { draft with outputs := name :: draft.outputs }
  return name

/-- What a regular expression is asked to do. -/
structure PatternFlags where
  /-- The case of letters does not matter. -/
  foldCase : Bool := false
  /-- Line feeds end lines. -/
  manyLines : Bool := false
  deriving DecidableEq, Repr, Inhabited

/-- Reads a regular expression that needs so many groups. -/
def pattern (manner : Manner) (bytes : Bytes) (flags : PatternFlags) (groups : Nat) :
    Reading Pattern := do
  if bytes.isEmpty then
    if flags.foldCase || flags.manyLines then throw .flaggedNothing
    return none
  let bytes ← ofExcept (Escapes.pattern.convert bytes)
  let dialect : Regex.Dialect :=
    { extended := manner.extended
      foldCase := flags.foldCase
      manyLines := flags.manyLines && manner.delimiter == 10 }
  match Regex.compile dialect bytes with
  | .error fault => throw (.regex fault)
  | .ok program =>
      if program.groups < groups then throw (.unknownGroup groups)
      return some program

end Reading

end LineShell.Edit
