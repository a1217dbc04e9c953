import LineShell.Script.Arithmetic
import LineShell.Script.Fields

/-!
# Values in words

- **`Expansion.stretches`** puts values into a word.
- **`Expansion.fields`** makes fields of it, and **`Expansion.text`** one text.
-/

namespace LineShell.Script

/-- What a command within a word writes. -/
abbrev Capture := Command → Activity Bytes

namespace Expansion

open Activity

/-- How values are put into a word. -/
structure Way where
  /-- Arguments stay apart. -/
  apart : Bool := false
  /-- The word stands in double quotation marks. -/
  quoted : Bool := false
  /-- The word stands in for a value, so its text is taken apart like one. -/
  inside : Bool := false
  /-- A tilde at the beginning stands for a directory. -/
  tilde : Bool := false
  /-- So does a tilde behind a colon. -/
  afterColons : Bool := false
  deriving DecidableEq, Repr, Inhabited

/-! ## Text -/

/-- The directory that a tilde with a name behind it stands for. -/
def homeOf (known : Knowledge) (name : Bytes) : Option Bytes :=
  if name.isEmpty then known.get? "HOME"
  else if name == Text.bytesOf "root" then some (Text.bytesOf "/root")
  else none

/-- The stretches for a tilde at the front of text that ends a part of a word, and the text behind
it. There are none if it stands for itself. -/
def tilde (known : Knowledge) (way : Way) (atEnd : Bool) (bytes : Bytes) :
    Option (Stretch × Bytes) :=
  match bytes with
  | 126 :: rest =>
      let name := rest.takeWhile fun b => b != 47 && !(way.afterColons && b == 58)
      let behind := rest.drop name.length
      if behind.isEmpty && !atEnd then none
      else (homeOf known name).map fun home => (⟨Glyph.ofBytes true home, .none⟩, behind)
  | _ => none

/-- A stretch of text that stands in a word itself. -/
def plainStretch (way : Way) (inQuotes : Bool) (bytes : Bytes) : Stretch :=
  { glyphs := Glyph.ofBytes false bytes
    seams := if way.inside && !way.quoted && !inQuotes then .separators else .none }

/-- The stretches for text behind a colon, looking at so many colons at most. -/
def coloned (known : Knowledge) (way : Way) (inQuotes atEnd : Bool) :
    (most : Nat) → Bytes → List Stretch
  | 0, bytes => [plainStretch way inQuotes bytes]
  | most + 1, bytes =>
      let before := bytes.takeWhile (· != 58)
      match bytes.drop before.length with
      | [] => [plainStretch way inQuotes bytes]
      | _ :: rest =>
          let here := plainStretch way inQuotes (before ++ [58])
          match tilde known way atEnd rest with
          | some (home, behind) => here :: home :: coloned known way inQuotes atEnd most behind
          | none => here :: coloned known way inQuotes atEnd most rest

/-- The stretches for text that stands in a word itself, given whether it begins the word and
whether it ends it. -/
def textStretches (known : Knowledge) (way : Way) (inQuotes atStart atEnd : Bool)
    (bytes : Bytes) : List Stretch :=
  let (home, rest) :=
    match if atStart && way.tilde then tilde known way atEnd bytes else none with
    | some (home, rest) => ([home], rest)
    | none => ([], bytes)
  home ++ if way.afterColons then coloned known way inQuotes atEnd rest.length rest
    else [plainStretch way inQuotes rest]

/-! ## Parameters -/

/-- The text that joins arguments, for those that are not kept apart. -/
def joint (known : Knowledge) : Bytes :=
  match known.store.get? (Text.bytesOf "IFS") with
  | some separators => separators.take 1
  | none => [32]

/-- Texts with something between them. -/
def joinWith (between : List Glyph) (texts : List (List Glyph)) : List Glyph :=
  List.intercalate between texts

/-- The value of a parameter that stands for one text. -/
def scalar? (known : Knowledge) (name : Bytes) : Option Bytes :=
  match name with
  | [35] => some (Text.decimal known.arguments.length)
  | [63] => some (Text.bytesOf (toString known.status))
  | [36] => some (Text.decimal known.pid)
  | [33] => known.lastApart.map Text.decimal
  | [45] => some known.optionLetters
  | _ =>
      match Text.number? name with
      | some 0 => some known.name
      | some number => known.arguments[number - 1]?
      | none => known.store.get? name

/-- The parameter stands for all arguments. -/
def isArguments (name : Bytes) : Bool := name == [64] || name == [42]

/-- The value of a parameter. -/
def value? (known : Knowledge) (way : Way) (name : Bytes) : Option (List Glyph) :=
  if isArguments name then
    let texts := known.arguments.map (Glyph.ofBytes way.quoted)
    let between :=
      if way.apart && (!way.quoted || name == [64]) then [Glyph.gap]
      else Glyph.ofBytes way.quoted (joint known)
    some (joinWith between texts)
  else (scalar? known name).map (Glyph.ofBytes way.quoted)

/-- The stretch that a value makes. -/
def valueStretch (known : Knowledge) (way : Way) (name : Bytes) (glyphs : List Glyph) : Stretch :=
  { glyphs := glyphs
    seams :=
      if !way.quoted then .separators
      else if name == [64] && !known.arguments.isEmpty then .gaps
      else .none }

/-- The beginnings of a list, the shortest one first. -/
def beginnings {α : Type} (list : List α) : List Nat := List.range (list.length + 1)

/-- What is left of a value when what a pattern fits has been cut off. -/
def cutOff (treatment : Treatment) (pattern : Text.Glob) (glyphs : List Glyph) : List Glyph :=
  let bytes := glyphs.filterMap Glyph.byte?
  let fitsStart (count : Nat) : Bool := pattern.fits (bytes.take count)
  let fitsEnd (count : Nat) : Bool := pattern.fits (bytes.drop count)
  match treatment with
  | .cutStart longest =>
      let places := beginnings bytes
      match (if longest then places.reverse else places).find? fitsStart with
      | some count => glyphs.drop count
      | none => glyphs
  | .cutEnd longest =>
      let places := beginnings bytes
      match (if longest then places else places.reverse).find? fitsEnd with
      | some count => glyphs.take count
      | none => glyphs
  | _ => glyphs

/-- The complaint that a parameter is missing. -/
def missing {α : Type} (name : Bytes) (message : Bytes) : Activity α :=
  fail (name ++ Text.bytesOf ": " ++ message)

/-- The bytes without the line feeds at their end. -/
def withoutNewlines (bytes : Bytes) : Bytes := (bytes.reverse.dropWhile (· == 10)).reverse

/-- The value of an expression. -/
def calculate (expression : Bytes) : Activity Bytes := do
  let known ← get
  match Arithmetic.evaluate known.store.get? expression with
  | .error .overflow =>
      let _ ← ask (.kill (← ask .processId) 8)
      return []
  | .error fault => fail (fault.message expression)
  | .ok (value, changed) =>
      changed.reverse.forM fun (name, value) =>
        setVariable name (Text.bytesOf (toString value.toInt))
      return Text.bytesOf (toString value.toInt)

/-- The stretches that a parameter stands for. What stands in for a value is found by `inner`. -/
def parameter (way : Way) (name : Bytes) (treatment : Treatment) (orEmpty hasWord : Bool)
    (inner : Way → Activity (List Stretch)) : Activity (List Stretch) := do
  let known ← get
  let value := value? known way name
  let present := match value with
    | some glyphs => !(orEmpty && glyphs.isEmpty)
    | none => false
  let shown : List Stretch := [valueStretch known way name (value.getD [])]
  match treatment with
  | .unknown => failWith "Bad substitution"
  | .orElse => if present then return shown else inner { way with tilde := true, inside := true }
  | .ifSet =>
      if present then inner { way with tilde := true, inside := true }
      else return [valueStretch known way name []]
  | .orError =>
      if present then return shown
      let message := Stretch.bytes (← inner { tilde := true })
      if hasWord then missing name message
      else missing name (Text.bytesOf
        (if orEmpty then "parameter not set or null" else "parameter not set"))
  | .orAssign =>
      if present then return shown
      let bytes := Stretch.bytes (← inner { tilde := true })
      setNamed name (some bytes) {}
      return [valueStretch (← get) way name (Glyph.ofBytes way.quoted bytes)]
  | treatment =>
      if !present && known.has "nounset" then missing name (Text.bytesOf "parameter not set")
      match treatment with
      | .length =>
          let count := Text.decimal (value.getD []).length
          return [⟨Glyph.ofBytes way.quoted count, if way.quoted then .none else .separators⟩]
      | .cutStart _ | .cutEnd _ =>
          let pattern := Glyph.pattern ((← inner { tilde := true }).flatMap Stretch.glyphs)
          return [valueStretch known way name (cutOff treatment pattern (value.getD []))]
      | _ => return shown

/-- The stretches that an output stands for. -/
def outcome (quoted : Bool) (bytes : Bytes) : List Stretch :=
  [⟨Glyph.ofBytes quoted bytes, if quoted then .none else .separators⟩]

/-- The parts begin with a quotation mark. -/
def startsWithMark : List Part → Bool
  | .mark :: _ => true
  | _ => false

/-! ## Words -/

mutual

/-- Puts values into the parts of a word, given whether they stand in quotation marks and whether
they begin the word. A quotation that holds all arguments and nothing else leaves no mark. -/
def parts (capture : Capture) (way : Way) (inQuotes atStart : Bool) :
    List Part → Activity (List Stretch)
  | [] => return []
  | .mark :: .parameter name treatment orEmpty word :: rest => do
      let lone := !inQuotes && name == [64] && treatment == .value && startsWithMark rest
      let quoted := way.quoted || !inQuotes
      let here ← part capture { way with quoted := quoted } false false false
        (.parameter name treatment orEmpty word)
      let later ← parts capture way (!inQuotes) false rest
      return if lone then here ++ later.tail else ⟨[.mark], .none⟩ :: (here ++ later)
  | .mark :: rest => do
      let later ← parts capture way (!inQuotes) false rest
      return ⟨[.mark], .none⟩ :: later
  | first :: rest => do
      let here ← part capture way inQuotes atStart rest.isEmpty first
      let later ← parts capture way inQuotes false rest
      return here ++ later

/-- Puts values into a part of a word. -/
def part (capture : Capture) (way : Way) (inQuotes atStart atEnd : Bool) :
    Part → Activity (List Stretch)
  | .text bytes => do return textStretches (← get) way inQuotes atStart atEnd bytes
  | .quoted bytes => return [⟨Glyph.ofBytes true bytes, .none⟩]
  | .mark => return [⟨[.mark], .none⟩]
  | .parameter name treatment orEmpty word =>
      parameter { way with quoted := way.quoted || inQuotes } name treatment orEmpty
        (!word.isEmpty) fun way => parts capture way false true word
  | .output command => do
      let bytes ← capture command
      return outcome (way.quoted || inQuotes) (withoutNewlines (bytes.filter (· != 0)))
  | .arithmetic expression => do
      let inner ← parts capture {} false false expression
      return outcome (way.quoted || inQuotes) (← calculate (Stretch.bytes inner))

end

/-- Puts values into a word. -/
def stretches (capture : Capture) (way : Way) (word : Word) : Activity (List Stretch) :=
  parts capture way false true word

/-- The text of a word that is not taken apart. -/
def text (capture : Capture) (way : Way) (word : Word) : Activity Bytes := do
  return Stretch.bytes (← stretches capture way word)

/-- The fields of a word. -/
def fields (capture : Capture) (word : Word) : Activity (List Bytes) := do
  let found ← stretches capture { apart := true, tilde := true } word
  let split := Fields.split (← get).separators none found
  return (← split.mapM Fields.resolve).flatten

/-- The fields of words. -/
def allFields (capture : Capture) (words : List Word) : Activity (List Bytes) := do
  return (← words.mapM (fields capture)).flatten

/-- The pattern that a word spells. -/
def pattern (capture : Capture) (word : Word) : Activity Text.Glob := do
  return Glyph.pattern ((← stretches capture { tilde := true } word).flatMap Stretch.glyphs)

/-- The text of an assignment. -/
def assigned (capture : Capture) (word : Word) : Activity Bytes :=
  text capture { tilde := true, afterColons := true } word

/-- The text of a document. -/
def document (capture : Capture) (word : Word) : Activity Bytes :=
  text capture { quoted := true } word

end Expansion

end LineShell.Script
