import LineShell.Regex.Bracket

/-!
# Reading regular expressions

- **`Regex.parse`** reads a text in a dialect.
-/

namespace LineShell.Regex

/-- How far the text of a regular expression has been read. -/
structure Reading where
  /-- The place that is read next. -/
  place : Nat := 0
  /-- An alternative or its first anchor has just begun. -/
  beginning : Bool := true
  /-- The place of a sign that stands for itself although it has a meaning. -/
  plainAt : Option Nat := none
  /-- How many groups have begun. -/
  opened : Nat := 0
  /-- The groups that have ended. -/
  closed : List Nat := []
  /-- The repetition signs that repeat nothing, the last one first. -/
  idle : List String := []
  deriving Repr, Inhabited

/-- The sign that a repetition which repeats nothing is reported as. -/
def Token.sign : Token → String
  | .star => "*"
  | .plus => "+"
  | .question => "?"
  | _ => "\x7b...\x7d"

namespace Dialect

/-- What stands at the next place, and how many bytes it takes. -/
def next (dialect : Dialect) (text : Array UInt8) (reading : Reading) : Token × Nat :=
  if reading.plainAt == some reading.place then
    (.byte (text.getD reading.place 0), 1)
  else dialect.tokenAt text reading.place reading.beginning

/-- The set of a byte, in both cases if the case of letters does not matter. -/
def byteSet (dialect : Dialect) (b : UInt8) : ByteSet :=
  if dialect.foldCase then (ByteSet.single b).foldCase else .single b

/-- A number in bounds: one, none, or something else; and the token that ended it. -/
def boundAt (dialect : Dialect) (text : Array UInt8) : (fuel : Nat) → (place : Nat) →
    (value : Except Unit (Option Nat)) → Except Unit (Option Nat) × Token × Nat
  | 0, place, value => (value, .finish, place)
  | fuel + 1, place, value =>
      let (token, width) := dialect.tokenAt text place false
      match token with
      | .finish => (.error (), .finish, place)
      | .closeBrace => (value, token, place + width)
      | .byte 44 => (value, token, place + width)
      | .byte b =>
          let value := match value with
            | .error () => .error ()
            | .ok sofar =>
                if Text.isDigit b then
                  .ok (some (min 32768 (sofar.getD 0 * 10 + (b.toNat - 48))))
                else .error ()
          boundAt dialect text fuel (place + width) value
      | _ => boundAt dialect text fuel (place + width) (.error ())

/-- The bounds of a repetition. -/
structure Bounds where
  /-- The least number of times. -/
  least : Nat
  /-- The greatest one, if there is one. -/
  most : Option Nat

/-- Reads bounds behind their opening brace. There are none when the brace stands for itself. -/
def bounds (dialect : Dialect) (text : Array UInt8) (place : Nat) :
    Except Fault (Option (Bounds × Nat)) :=
  let fuel := text.size + 1
  let (first, ending, place) := dialect.boundAt text fuel place (.ok none)
  let loose (ending : Token) : Except Fault (Option (Bounds × Nat)) :=
    if dialect.looseBounds then .ok none
    else .error (if ending == .finish then .unmatchedBrace else .braceContent)
  match first, ending with
  | .error (), ending => loose ending
  | .ok none, .closeBrace => .error .braceContent
  | .ok (some least), .closeBrace =>
      if 32767 < least then .error .tooBig else .ok (some (⟨least, some least⟩, place))
  | .ok least, _ =>
      let (second, ending, place) := dialect.boundAt text fuel place (.ok none)
      match second with
      | .error () => loose ending
      | .ok most =>
          let least := least.getD 0
          if ending != .closeBrace || most.any (· < least) then .error .braceContent
          else if 32767 < most.getD least then .error .tooBig
          else .ok (some (⟨least, most⟩, place))

/-- The bounds that a repetition sign stands for, unless it stands for itself. -/
def repetition (dialect : Dialect) (text : Array UInt8) (token : Token) (place : Nat) :
    Except Fault (Option (Bounds × Nat)) :=
  match token with
  | .star => .ok (some (⟨0, none⟩, place))
  | .plus => .ok (some (⟨1, none⟩, place))
  | .question => .ok (some (⟨0, some 1⟩, place))
  | _ => dialect.bounds text place

/-- A sign tells how often what is before it comes. -/
def isRepetition (token : Token) : Bool :=
  token == .star || token == .plus || token == .question || token == .openBrace

/-- A repeated expression; nothing is left of one that comes never. -/
def repeated (body : Regex) (bounds : Bounds) : Regex :=
  if bounds.most == some 0 then .empty else .times body bounds.least bounds.most

/-- Reads the repetition signs behind an expression. -/
def repetitions (dialect : Dialect) (text : Array UInt8) : (fuel : Nat) → Regex → Reading →
    Except Fault (Regex × Reading)
  | 0, body, reading => .ok (body, reading)
  | fuel + 1, body, reading => do
      let (token, width) := dialect.next text reading
      if !isRepetition token then return (body, reading)
      match ← dialect.repetition text token (reading.place + width) with
      | none => return (body, { reading with plainAt := some reading.place })
      | some (bounds, place) =>
          let reading := { reading with place := place }
          let after := (dialect.next text reading).1
          if dialect.singleRepeats && !dialect.extended
              && (after == .star || after == .openBrace) then
            throw .repetition
          repetitions dialect text fuel (repeated body bounds) reading

/-- A repetition sign without anything before it. The text that comes of it is an expression, or
the sign has to be read again as a sign for itself. -/
def leading (dialect : Dialect) (text : Array UInt8) (token : Token) (width : Nat)
    (reading : Reading) : Except Fault (Option (Regex × Reading)) := do
  let plain : Option (Regex × Reading) := none
  if !dialect.extended then
    if dialect.singleRepeats && token == .openBrace then throw .repetition
    else return plain
  else if !dialect.leadingRepeats then throw .repetition
  else match ← dialect.repetition text token (reading.place + width) with
    | none => return plain
    | some (_, place) =>
        let reading := { reading with
          place := place
          idle := token.sign :: reading.idle }
        return some (← repetitions dialect text (text.size + 1) .empty reading)

/-- The sequence of two expressions. -/
def seq (first second : Regex) : Regex :=
  match first with
  | .empty => second
  | _ => .seq first second

mutual

/-- Reads alternatives up to the end of a group of the given depth. -/
def alternatives (dialect : Dialect) (text : Array UInt8) : (fuel : Nat) → (depth : Nat) →
    Reading → Except Fault (Regex × Reading)
  | 0, _, _ => .error .tooBig
  | fuel + 1, depth, reading => do
      let (first, reading) ← branch dialect text fuel depth .empty reading
      let (token, width) := dialect.next text reading
      if token != .bar then return (first, reading)
      let (second, reading) ← alternatives dialect text fuel depth
        { reading with place := reading.place + width, beginning := true }
      return (.alt first second, reading)

/-- Reads a sequence of expressions, given what comes before them. -/
def branch (dialect : Dialect) (text : Array UInt8) : (fuel : Nat) → (depth : Nat) → Regex →
    Reading → Except Fault (Regex × Reading)
  | 0, _, _, _ => .error .tooBig
  | fuel + 1, depth, sofar, reading => do
      let (token, _) := dialect.next text reading
      if token == .bar || token == .finish || (0 < depth && token == .closeGroup) then
        return (sofar, reading)
      let (expression, reading) ← expression dialect text fuel depth reading
      branch dialect text fuel depth (seq sofar expression) reading

/-- Reads an expression with the repetition signs behind it. -/
def expression (dialect : Dialect) (text : Array UInt8) : (fuel : Nat) → (depth : Nat) →
    Reading → Except Fault (Regex × Reading)
  | 0, _, _ => .error .tooBig
  | fuel + 1, depth, reading => do
      let (token, width) := dialect.next text reading
      let after := { reading with place := reading.place + width, beginning := false }
      let finish (body : Regex) (reading : Reading) : Except Fault (Regex × Reading) :=
        dialect.repetitions text (text.size + 1) body { reading with beginning := false }
      let itself : Except Fault (Regex × Reading) :=
        finish (.set (dialect.byteSet (text.getD (after.place - 1) 0))) after
      match token with
      | .byte b => finish (.set (dialect.byteSet b)) after
      | .members listed => finish (.set listed) after
      | .bracket =>
          let (listed, place) ← bracket dialect text after.place
          finish (.set listed) { after with place := place }
      | .openGroup =>
          let number := reading.opened + 1
          let inner := { after with opened := number, beginning := true }
          let (body, reading) ← alternatives dialect text fuel (depth + 1) inner
          let (token, width) := dialect.next text reading
          if token != .closeGroup then throw .unmatchedGroup
          finish (.group number body) { reading with
            place := reading.place + width
            closed := number :: reading.closed }
      | .closeGroup =>
          if dialect.looseClose && dialect.extended then itself else throw .unmatchedClose
      | .closeBrace => itself
      | .back number =>
          if reading.closed.contains number then finish (.back number) after
          else throw .backReference
      | .anchor place =>
          let after := { after with beginning := reading.beginning && !dialect.leadingRepeats }
          let (token, width) := dialect.next text after
          if dialect.leadingRepeats && dialect.extended && isRepetition token then
            match ← dialect.repetition text token (after.place + width) with
            | none => return (.anchor place, { after with plainAt := some after.place })
            | some (bounds, stop) =>
                let idle := if place == .lineStart then token.sign :: after.idle else after.idle
                finish (repeated (.anchor place) bounds) { after with place := stop, idle := idle }
          else return (.anchor place, after)
      | .star | .plus | .question | .openBrace =>
          match ← dialect.leading text token width reading with
          | some result => return result
          | none => itself
      | .lastBackslash => throw .trailingBackslash
      | .bar | .finish => return (.empty, reading)

end

end Dialect

/-- A regular expression that has been read. -/
structure Parsed where
  /-- Its structure. -/
  regex : Regex
  /-- How many groups it has. -/
  groups : Nat
  /-- The repetition signs that repeat nothing. -/
  idle : List String
  deriving Repr, Inhabited

/-- Reads a text in a dialect. -/
def parse (dialect : Dialect) (bytes : Bytes) : Except Fault Parsed := do
  let text := bytes.toArray
  let (regex, reading) ← dialect.alternatives text (4 * text.size + 8) 0 {}
  return ⟨regex, reading.opened, reading.idle.reverse⟩

end LineShell.Regex
