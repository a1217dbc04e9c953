import LineShell.Script.Reader

/-!
# Words of a script

What a byte means depends on the quotation it stands in, and a place for a value begins a layer of
its own.

- **`Layer.meaning`** gives the meaning of a byte.
- **`Lexeme.scan`** reads a word up to its end, or a document.
-/

namespace LineShell.Script

/-- What bytes mean. -/
inductive Mode where
  /-- What they mean outside of quotations. -/
  | plain
  /-- What they mean in double quotation marks. -/
  | double
  /-- What they mean in single quotation marks. -/
  | single
  /-- What they mean in an expression. -/
  | arithmetic
  deriving DecidableEq, Repr, Inhabited

/-- A layer of a word. -/
structure Layer where
  /-- What bytes mean. -/
  mode : Mode
  /-- The layer is in double quotation marks. -/
  quoting : Bool := false
  /-- How many places for values are open. -/
  depth : Nat := 0
  /-- Quotation marks have been met within such a place an odd number of times. -/
  flipped : Bool := false
  /-- How many of the places stand in double quotation marks. -/
  quotedDepth : Nat := 0
  /-- How many parentheses are open. -/
  parens : Nat := 0
  /-- The layer ends with the place for a value that began it. -/
  forValue : Bool := false
  deriving DecidableEq, Repr, Inhabited

/-- The meaning of a byte. -/
inductive Meaning where
  | itself | lineEnd | backslash | singleMark | doubleMark | endMark | dollar | closingBrace
  | openingParen | closingParen | backquote | ending
  deriving DecidableEq, Repr, Inhabited

/-- The byte ends a word that is not quoted. -/
def endsWord (b : UInt8) : Bool :=
  b == 32 || b == 9 || b == 59 || b == 38 || b == 124 || b == 60 || b == 62 || b == 40 || b == 41

/-- The meaning of a byte. -/
def Mode.meaning (mode : Mode) (b : UInt8) : Meaning :=
  if b = 10 then .lineEnd
  else if mode = .single then (if b = 39 then .endMark else .itself)
  else if b = 92 then .backslash
  else if b = 36 then .dollar
  else if b = 96 then .backquote
  else if b = 125 then .closingBrace
  else match mode with
    | .plain =>
        if b = 39 then .singleMark
        else if b = 34 then .doubleMark
        else if endsWord b then .ending
        else .itself
    | .double => if b = 34 then .endMark else .itself
    | .arithmetic => if b = 40 then .openingParen else if b = 41 then .closingParen else .itself
    | .single => .itself

/-- A piece of a word. -/
inductive Cell where
  /-- A byte, which may be quoted. -/
  | byte (b : UInt8) (quoted : Bool)
  /-- A part. -/
  | part (part : Part)
  deriving Inhabited

/-- What a place in a word has begun with. -/
inductive Opening where
  /-- The name of a parameter. -/
  | parameter (name : Bytes) (treatment : Treatment) (orEmpty : Bool)
  /-- The parentheses of an expression. -/
  | arithmetic
  deriving DecidableEq, Repr, Inhabited

/-- A word with another piece before it. -/
def Cell.before (word : Word) (cell : Cell) : Word :=
  match cell, word with
  | .byte b false, .text bytes :: rest => .text (b :: bytes) :: rest
  | .byte b true, .quoted bytes :: rest => .quoted (b :: bytes) :: rest
  | .byte b false, word => .text [b] :: word
  | .byte b true, word => .quoted [b] :: word
  | .part inner, word => inner :: word

/-- The word that pieces make, the last of which comes first. -/
def Cell.assemble (cells : List Cell) : Word := cells.foldl Cell.before []

/-- The part that is made of what a place holds. -/
def Opening.part (opening : Opening) (word : Word) : Part :=
  match opening with
  | .parameter name treatment orEmpty => .parameter name treatment orEmpty word
  | .arithmetic => .arithmetic word

/-- A word that is being read. -/
structure Scan where
  /-- The innermost layer. -/
  layer : Layer
  /-- The layers around it, inside out. -/
  under : List Layer := []
  /-- What has been read at the innermost place, the last piece first. -/
  cells : List Cell := []
  /-- The places that are open, inside out, with what was read before them. -/
  places : List (Opening × List Cell) := []
  /-- Something was quoted. -/
  quoted : Bool := false
  deriving Inhabited

namespace Scan

/-- A piece has been read. -/
def add (scan : Scan) (cell : Cell) : Scan := { scan with cells := cell :: scan.cells }

/-- A byte has been read that stands for itself. -/
def byte (scan : Scan) (b : UInt8) : Scan :=
  scan.add (.byte b (scan.layer.mode == .single || scan.layer.mode == .double))

/-- A quotation begins or ends. -/
def mark (scan : Scan) (document : Bool) : Scan :=
  if document then scan else scan.add (.part .mark)

/-- A place has begun. -/
def openPlace (scan : Scan) (opening : Opening) : Scan :=
  { scan with places := (opening, scan.cells) :: scan.places, cells := [] }

/-- The innermost place has ended. -/
def closePlace (scan : Scan) : Scan :=
  match scan.places with
  | (opening, before) :: rest =>
      { scan with
        cells := .part (opening.part (Cell.assemble scan.cells)) :: before
        places := rest }
  | [] => scan

/-- A layer begins. -/
def push (scan : Scan) (layer : Layer) : Scan :=
  { scan with layer := layer, under := scan.layer :: scan.under }

/-- The innermost layer ends. -/
def pop (scan : Scan) : Scan :=
  match scan.under with
  | layer :: rest => { scan with layer := layer, under := rest }
  | [] => scan

/-- A place for a value ends. -/
def closeValue (scan : Scan) : Scan :=
  let layer := { scan.layer with depth := scan.layer.depth - 1 }
  let closed := scan.closePlace
  if layer.depth = 0 && layer.forValue then { closed with layer := layer }.pop
  else { closed with layer := { layer with quotedDepth := layer.quotedDepth - 1 } }

/-- The quotation mark that ends a quotation has been read. -/
def endMark (scan : Scan) (b : UInt8) (document : Bool) : Scan :=
  if document && scan.layer.depth = 0 then scan.byte b
  else
    let layer := scan.layer
    let layer :=
      if layer.quotedDepth = 0 then { layer with mode := .plain, quoting := false } else layer
    let layer :=
      if b = 34 && layer.depth > 0 then { layer with flipped := !layer.flipped } else layer
    { scan with layer := layer, quoted := true }.mark document

/-- The double quotation mark that begins a quotation has been read. -/
def doubleMark (scan : Scan) (document : Bool) : Scan :=
  let layer := { scan.layer with mode := .double, quoting := true }
  let layer := if layer.depth > 0 then { layer with flipped := !layer.flipped } else layer
  { scan with layer := layer }.mark document

/-- A backslash stands before a byte. -/
def escape (scan : Scan) (b : UInt8) (document : Bool) : Scan :=
  let layer := scan.layer
  let keeps :=
    layer.quoting && b != 92 && b != 96 && b != 36
      && (b != 34 || (document && layer.depth = 0)) && (b != 125 || layer.depth = 0)
  let scan := if keeps then scan.add (.byte 92 true) else scan
  { scan.add (.byte b true) with quoted := true }

end Scan

/-- A parameter behind its dollar sign, up to the place for a word, if there is one. -/
structure ParameterStart where
  /-- The name. -/
  name : Bytes
  /-- What is done with the value. -/
  treatment : Treatment
  /-- An empty value counts as missing. -/
  orEmpty : Bool := false
  /-- A word has a place behind it. -/
  hasWord : Bool := true
  deriving DecidableEq, Repr, Inhabited

/-- The byte names a parameter by itself. -/
def isSpecial (b : UInt8) : Bool :=
  Text.isDigit b || b == 33 || b == 35 || b == 36 || b == 42 || b == 45 || b == 63 || b == 64

namespace Reading

/-- The bytes with a property at the front of lines that are joined to one. -/
def takeJoinedUpTo (test : UInt8 → Bool) : (most : Nat) → Reading Bytes
  | 0 => return []
  | most + 1 => do
      match ← nextJoined with
      | some b =>
          if test b then
            return b :: (← takeJoinedUpTo test most)
          else
            back (some b)
            return []
      | none => return []

/-- All bytes with a property at the front of lines that are joined to one. -/
def takeJoined (test : UInt8 → Bool) : Reading Bytes := do
  takeJoinedUpTo test ((← get).input.length + 1)

/-- What is done with a value, whose sign has been read but for a colon before it. -/
def treatment? (b : Option UInt8) : Option Treatment :=
  match b with
  | some 125 => some .value
  | some 45 => some .orElse
  | some 43 => some .ifSet
  | some 63 => some .orError
  | some 61 => some .orAssign
  | _ => none

/-- Reads what is done with the value of a parameter in braces. -/
def treatment (name : Bytes) : Reading ParameterStart := do
  match ← nextJoined with
  | some 58 =>
      let treatment := (treatment? (← nextJoined)).getD .unknown
      return { name := name, treatment := treatment, orEmpty := true }
  | some 37 =>
      let b ← nextJoined
      if b != some 37 then back b
      return { name := name, treatment := .cutEnd (b == some 37) }
  | some 35 =>
      let b ← nextJoined
      if b != some 35 then back b
      return { name := name, treatment := .cutStart (b == some 35) }
  | b =>
      match treatment? b with
      | some .value => return { name := name, treatment := .value, hasWord := false }
      | some treatment => return { name := name, treatment := treatment }
      | none => return { name := name, treatment := .unknown }

/-- Reads a name that is known to begin with a byte. -/
def name (b : UInt8) : Reading Bytes := do
  let rest ← takeJoined (if Text.isDigit b then Text.isDigit else Text.isWordByte)
  return b :: rest

/-- Reads the rest of a parameter whose value is counted. -/
def counted (name : Bytes) : Reading ParameterStart := do
  let b ← nextJoined
  back b
  return { name := name, treatment := if b == some 125 then .length else .unknown }

/-- Reads a parameter behind an opening brace. -/
def braced : Reading ParameterStart := do
  match ← nextJoined with
  | some 125 =>
      back (some 125)
      return { name := [], treatment := .unknown }
  | some 35 =>
      match ← nextJoined with
      | some b =>
          if Text.isWordByte b then counted (← name b)
          else
            let after ← nextJoined
            if b = 125 || after != some 125 then
              back after
              back (some b)
              treatment [35]
            else if isSpecial b then
              back after
              counted [b]
            else
              back after
              return { name := [], treatment := .unknown }
      | none => return { name := [], treatment := .unknown }
  | some b =>
      if startsName b || Text.isDigit b then treatment (← name b)
      else if isSpecial b then treatment [b]
      else return { name := [], treatment := .unknown }
  | none => return { name := [], treatment := .unknown }

/-- The bytes up to the backquote that ends a command. -/
def backquotedUpTo (quoting : Bool) : (most : Nat) → Reading Bytes
  | 0 => complain "EOF in backquote substitution"
  | most + 1 => do
      match ← nextJoined with
      | none => complain "EOF in backquote substitution"
      | some 96 => return []
      | some 92 =>
          match ← next with
          | none => complain "EOF in backquote substitution"
          | some b =>
              let bare := b == 92 || b == 96 || b == 36 || (quoting && b == 34)
              let rest ← backquotedUpTo quoting most
              return if bare then b :: rest else 92 :: b :: rest
      | some b =>
          if b = 10 then countLine
          return b :: (← backquotedUpTo quoting most)

/-- Reads a command that stands between backquotes by itself. -/
def backquoted (commands : Reading Command) (quoting : Bool) : Reading Command := do
  let text ← backquotedUpTo quoting ((← get).input.length + 1)
  let outer ← get
  set { outer with
    input := text, complete := true, line := 1, again := false, awaited := [], substitutes := [] }
  let command ← commands
  modify fun inner => { outer with
    documents := inner.documents
    nextDocument := inner.nextDocument
    word := inner.word
    quoted := inner.quoted
    again := false }
  return command

/-- Reads a command up to the parenthesis that ends it. -/
def parenthesised (commands : Reading Command) : Reading Command := do
  let awaited := (← get).awaited
  modify fun reader => { reader with awaited := [] }
  let command ← commands
  if (← get).token != .operator ")" then unexpected (some (.operator ")"))
  modify fun reader => { reader with again := false, awaited := awaited }
  return command

end Reading

namespace Lexeme

open Reading

/-- Reads what stands behind a dollar sign. -/
def dollar (commands : Reading Command) (verbatim : Bool) (scan : Scan) : Reading Scan := do
  let b ← nextJoined
  match b with
  | some 40 =>
      if verbatim then
        back b
        return scan.byte 36
      let second ← nextJoined
      if second == some 40 then
        return (scan.push { mode := .arithmetic, quoting := true }).openPlace .arithmetic
      else
        back second
        return scan.add (.part (.output (← parenthesised commands)))
  | some c =>
      if verbatim || !(c == 123 || startsName c || isSpecial c) then
        back b
        return scan.byte 36
      let start ←
        if c = 123 then braced
        else if startsName c then pure { name := ← name c, treatment := .value, hasWord := false }
        else pure { name := [c], treatment := .value, hasWord := false }
      if !start.hasWord then
        return scan.add (.part (.parameter start.name start.treatment start.orEmpty []))
      let mode := match start.treatment with
        | .cutEnd _ | .cutStart _ => .plain
        | _ => if scan.layer.mode == .arithmetic then .double else scan.layer.mode
      let layered :=
        if mode != scan.layer.mode || scan.layer.flipped then
          scan.push { mode := mode, quoting := mode != .plain, forValue := true }
        else scan
      let layer := layered.layer
      let layer := { layer with
        depth := layer.depth + 1
        quotedDepth := if layer.quoting then layer.quotedDepth + 1 else layer.quotedDepth }
      return { layered with layer := layer }.openPlace
        (.parameter start.name start.treatment start.orEmpty)
  | none => return scan.byte 36

/-- The document ends with the line at the front, which is passed over. -/
def documentEnds (awaited : Awaited) : Reading Bool := do
  if !awaited.literal then skipJoints
  let reader ← get
  let line := reader.input.takeWhile (· != 10)
  if line.length = reader.input.length && !reader.complete then throw .more
  let bare := if awaited.outdented then line.dropWhile (· == 9) else line
  if bare == awaited.mark then
    set { reader with input := reader.input.drop (line.length + 1), line := reader.line + 1 }
    return true
  else
    set { reader with input := reader.input.drop (line.length - bare.length) }
    return false

/-- Takes the next byte of a word. -/
def nextByte (scan : Scan) : Reading (Option UInt8) :=
  if scan.layer.mode == .single then next else nextJoined

/-- Reads a word, or a document that was awaited, and the byte behind it. -/
def scan (commands : Reading Command) (verbatim : Bool) (document : Option Awaited) :
    (most : Nat) → Scan → Reading (Scan × Option UInt8)
  | 0, scanned => return (scanned, none)
  | most + 1, scanned => do
      let go := scan commands verbatim document most
      let c ← nextByte scanned
      match c with
      | none => return (scanned, none)
      | some b =>
          match scanned.layer.mode.meaning b with
          | .lineEnd =>
              if scanned.layer.mode == .plain && scanned.layer.depth = 0 then
                return (scanned, c)
              else
                countLine
                let scanned := scanned.byte b
                match document with
                | some awaited =>
                    if ← documentEnds awaited then return (scanned, none) else go scanned
                | none => go scanned
          | .itself => go (scanned.byte b)
          | .backslash =>
              match ← next with
              | none => go (scanned.add (.byte 92 true))
              | some escaped => go (scanned.escape escaped document.isSome)
          | .singleMark =>
              go ({ scanned with layer := { scanned.layer with mode := .single } }.mark
                document.isSome)
          | .doubleMark => go (scanned.doubleMark document.isSome)
          | .endMark => go (scanned.endMark b document.isSome)
          | .dollar => go (← dollar commands verbatim scanned)
          | .closingBrace =>
              if !scanned.layer.flipped && scanned.layer.depth > 0 then go scanned.closeValue
              else go (scanned.byte b)
          | .openingParen =>
              let layer := { scanned.layer with parens := scanned.layer.parens + 1 }
              go ({ scanned with layer := layer }.byte b)
          | .closingParen =>
              if scanned.layer.parens > 0 then
                let layer := { scanned.layer with parens := scanned.layer.parens - 1 }
                go ({ scanned with layer := layer }.byte b)
              else
                let second ← nextJoined
                if second == some 41 then go scanned.pop.closePlace
                else
                  back second
                  go (scanned.byte b)
          | .backquote =>
              if verbatim then go (scanned.byte b)
              else
                let command ← backquoted commands scanned.layer.quoting
                go (scanned.add (.part (.output command)))
          | .ending =>
              if scanned.layer.depth = 0 then return (scanned, c) else go (scanned.byte b)

/-- Reads up to the end of a word or a document and checks that nothing is left open. -/
def whole (commands : Reading Command) (verbatim : Bool) (document : Option Awaited)
    (start : Scan) : Reading (Scan × Option UInt8) := do
  let most := 2 * (← get).input.length + 2
  let (scanned, c) ← scan commands verbatim document most start
  if scanned.layer.mode == .arithmetic then complain "Missing '))'"
  if scanned.layer.mode != .plain && document.isNone then complain "Unterminated quoted string"
  if scanned.layer.depth != 0 then complain "Missing '\x7d'"
  return (scanned, c)

/-- Reads a document that was awaited. -/
def document (commands : Reading Command) (awaited : Awaited) : Reading Word := do
  if ← documentEnds awaited then return []
  let mode := if awaited.literal then Mode.single else .double
  let (scanned, _) ← whole commands false (some awaited)
    { layer := { mode := mode, quoting := !awaited.literal } }
  return Cell.assemble scanned.cells

/-- Reads all that is left as if it were a document. -/
def text (commands : Reading Command) : Reading Word := do
  let endless : Awaited := { number := 0, mark := [10], literal := false, outdented := false }
  let (scanned, _) ← whole commands false (some endless)
    { layer := { mode := .double, quoting := true } }
  return Cell.assemble scanned.cells

/-- Reads all documents that are awaited. -/
def documents (commands : Reading Command) : Reading Unit := do
  let awaited := (← get).awaited
  modify fun reader => { reader with awaited := [] }
  awaited.forM fun one => do
    let word ← document commands one
    modify fun reader => { reader with documents := (one.number, word) :: reader.documents }

/-- Reads the sign of a redirection whose first byte has been read. -/
def route (first : UInt8) (fd : Option Nat) : Reading Unit := do
  let usual := if first = 62 then 1 else 0
  let settle (route : Route) (document : Option (Nat × Bool)) : Reading Unit :=
    modify fun reader =>
      { reader with route := (fd.getD usual, route), document := document }
  let second ← nextJoined
  match first == 62, second with
  | true, some 62 => settle (.file .append []) none
  | true, some 124 => settle (.file .overwrite []) none
  | _, some 38 => settle (.sameAs []) none
  | true, _ =>
      back second
      settle (.file .output []) none
  | false, some 60 =>
      let third ← nextJoined
      if third != some 45 then back third
      let number := (← get).nextDocument
      modify fun reader => { reader with nextDocument := number + 1 }
      settle (.document number) (some (number, third == some 45))
  | false, some 62 => settle (.file .both []) none
  | false, _ =>
      back second
      settle (.file .input []) none

/-- Reads a word, or the redirection that a digit turns out to belong to. -/
def word (commands : Reading Command) (verbatim : Bool) : Reading Token := do
  let (scanned, c) ← whole commands verbatim none { layer := { mode := .plain } }
  let word := Cell.assemble scanned.cells
  let number := match word with
    | [] => some none
    | [.text [digit]] => if Text.isDigit digit then some (some (digit.toNat - 48)) else none
    | _ => none
  match c, number with
  | some b, some fd =>
      if (b == 60 || b == 62) && !scanned.quoted then
        route b fd
        return ← found .redirection
  | _, _ => pure ()
  back c
  modify fun reader => { reader with word := word, quoted := scanned.quoted }
  found .word

/-- Passes over a comment. -/
def skipComment : Reading Unit := do
  let reader ← get
  let rest := reader.input.dropWhile (· != 10)
  if rest.isEmpty && !reader.complete then throw .more
  set { reader with input := rest }

/-- Reads a piece whatever it may stand for. -/
def bareUpTo (commands : Reading Command) (verbatim : Bool) : (most : Nat) → Reading Token
  | 0 => found .endOfFile
  | most + 1 => do
      let double (spelling : String) (b : UInt8) : Reading Token := do
        let second ← nextJoined
        if second == some b then found (.operator (spelling ++ spelling))
        else
          back second
          found (.operator spelling)
      match ← nextJoined with
      | none => found .endOfFile
      | some b =>
          if b = 32 || b = 9 then bareUpTo commands verbatim most
          else if b = 35 then
            skipComment
            bareUpTo commands verbatim most
          else if b = 10 then
            countLine
            found .newline
          else if b = 38 then double "&" 38
          else if b = 124 then double "|" 124
          else if b = 59 then double ";" 59
          else if b = 40 then found (.operator "(")
          else if b = 41 then found (.operator ")")
          else
            back (some b)
            word commands verbatim

/-- Reads a piece whatever it may stand for, or the last one again. -/
def bare (commands : Reading Command) (verbatim : Bool) : Reading Token := do
  let reader ← get
  if reader.again then
    set { reader with again := false }
    return reader.token
  else bareUpTo commands verbatim (reader.input.length + 1)

/-- Forgets the words that have been read to the end of what they stand for, and tells whether the
next one may stand for others too. -/
def settleSubstitutes : Reading Bool := do
  let reader ← get
  if reader.substitutes.isEmpty then return false
  let left := reader.input.length
  let (reading, read) := reader.substitutes.partition fun substitute => substitute.left ≤ left
  set { reader with substitutes := reading }
  return read.any Substitute.chains

/-- The keyword or the alias that the last word is; an alias gives way to what it stands for. The
second component tells whether that is to be read now. -/
def resolve (expect : Expect) (token : Token) : Reading (Token × Bool) := do
  let reader ← get
  if token != .word || reader.quoted then return (token, false)
  match plain? reader.word with
  | none => return (token, false)
  | some text =>
      match Token.keywords.find? fun keyword =>
          expect.keywords && Text.bytesOf keyword == text with
      | some keyword => return (← found (.keyword keyword), false)
      | none =>
          let used := reader.substitutes.any fun substitute => substitute.name == text
          match if expect.aliases && !used then reader.aliases.lookup text else none with
          | none => return (token, false)
          | some meaning =>
              let substitute : Substitute :=
                { name := text
                  left := reader.input.length
                  chains := meaning.getLast?.any Text.isBlankByte }
              set { reader with
                input := meaning ++ reader.input
                substitutes := substitute :: reader.substitutes }
              return (token, true)

/-- Reads a piece, passing over ends of lines if they have no meaning, and reading so many pieces
at most. -/
def tokenUpTo (commands : Reading Command) (expect : Expect) : (most : Nat) → Reading Token
  | 0 => found .endOfFile
  | most + 1 => do
      let token ← bare commands expect.verbatim
      let chained ← settleSubstitutes
      if token == .newline && expect.overLines then
        documents commands
        tokenUpTo commands expect most
      else
        let (token, again) ← resolve { expect with aliases := expect.aliases || chained } token
        if again then tokenUpTo commands expect most else return token

/-- Reads a piece. -/
def token (commands : Reading Command) (expect : Expect) : Reading Token := do
  let reader ← get
  tokenUpTo commands expect (reader.input.length + 1000 * (reader.aliases.length + 1))

end Lexeme

end LineShell.Script
