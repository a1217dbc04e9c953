import LineShell.Regex.Dialect

/-!
# Lists of bytes

A list between brackets names bytes, ranges of bytes and classes. A caret in front turns it into
the list of all other bytes.

- **`bracket`** reads a list behind its opening bracket.
-/

namespace LineShell.Regex

/-- An element of a list. -/
inductive Element where
  /-- A byte. -/
  | byte (b : UInt8)
  /-- A class, which cannot end a range. -/
  | members (set : ByteSet)
  deriving DecidableEq, Repr, Inhabited

/-- What stands at a place of a list. -/
inductive Item where
  /-- A byte that stands for itself. -/
  | byte (b : UInt8)
  /-- The sign between the ends of a range. -/
  | dash
  /-- The end of the list. -/
  | close
  /-- The beginning of a name, with the byte that also ends it. -/
  | name (kind : UInt8)
  /-- Nothing is left. -/
  | finish
  deriving DecidableEq, Repr, Inhabited

/-- What stands at a place of a list, and how many bytes it takes. -/
def itemAt (text : Array UInt8) (place : Nat) : Item × Nat :=
  match text[place]? with
  | none => (.finish, 0)
  | some b =>
      match Char.ofNat b.toNat with
      | '[' =>
          match text[place + 1]? with
          | some next =>
              if next == 46 || next == 61 || next == 58 then (.name next, 2) else (.byte b, 1)
          | none => (.byte b, 1)
      | '-' =>
          if text[place + 1]? == some 45 && text[place + 2]? == some 45 then (.byte b, 3)
          else (.dash, 1)
      | ']' => (.close, 1)
      | _ => (.byte b, 1)

/-- Reads a name up to the byte that ends it and the bracket behind that. -/
def nameUpTo (text : Array UInt8) (kind : UInt8) : (fuel : Nat) → (place : Nat) → (read : Bytes) →
    Except Fault (Bytes × Nat)
  | 0, _, _ => .error .unmatchedBracket
  | fuel + 1, place, read =>
      match text[place]?, text[place + 1]? with
      | some b, some next =>
          if b == kind && next == 93 then .ok (read.reverse, place + 2)
          else nameUpTo text kind fuel (place + 1) (b :: read)
      | _, _ => .error .unmatchedBracket

/-- What a name stands for. -/
def named (foldCase : Bool) (kind : UInt8) (name : Bytes) : Except Fault Element :=
  if kind == 58 then
    let spelled := Text.textOf name
    let isOneCase := spelled == "upper" || spelled == "lower"
    let wanted := if foldCase && isOneCase then "alpha" else spelled
    match Text.inClass? wanted with
    | some test => .ok (.members (.ofTest test))
    | none => .error .className
  else match name with
    | [b] => .ok (if kind == 61 then .members (.single b) else .byte b)
    | _ => .error .collation

/-- Reads the element that begins with an item. -/
def element (dialect : Dialect) (text : Array UInt8) (item : Item) (place : Nat)
    (takesDash : Bool) : Except Fault (Element × Nat) :=
  match item with
  | .byte b => .ok (.byte b, place)
  | .dash =>
      if takesDash || (itemAt text place).1 == .close then .ok (.byte 45, place)
      else .error .range
  | .close => .ok (.byte 93, place)
  | .name kind => do
      let (name, place) ← nameUpTo text kind (text.size + 1) place []
      return (← named dialect.foldCase kind name, place)
  | .finish => .error .unmatchedBracket

/-- The bytes of a range. -/
def range (first last : Element) : Except Fault ByteSet :=
  match first, last with
  | .byte a, .byte b =>
      if a ≤ b then .ok (.ofTest fun c => a ≤ c && c ≤ b) else .error .range
  | _, _ => .error .range

/-- The bytes of an element. -/
def Element.set : Element → ByteSet
  | .byte b => .single b
  | .members set => set

/-- Reads the elements up to the end of a list, given what has been read. -/
def elements (dialect : Dialect) (text : Array UInt8) : (fuel : Nat) → (place : Nat) →
    (first : Bool) → (read : ByteSet) → Except Fault (ByteSet × Nat)
  | 0, _, _, _ => .error .unmatchedBracket
  | fuel + 1, place, first, read => do
      let (item, width) := itemAt text place
      if item == .close && !first then return (read, place + width)
      if item == .finish then throw .unmatchedBracket
      let (start, place) ← element dialect text item (place + width) first
      let (sign, signWidth) := itemAt text place
      let (last, lastWidth) := itemAt text (place + signWidth)
      let startsRange := match start with
        | .byte _ => true
        | .members _ => false
      if startsRange && sign == .dash && last == .finish then throw .unmatchedBracket
      if startsRange && sign == .dash && last != .close then
        let (stop, place) ← element dialect text last (place + signWidth + lastWidth) true
        elements dialect text fuel place false (read.union (← range start stop))
      else elements dialect text fuel place false (read.union start.set)

/-- A list looks like the name of a class that lacks its outer brackets. -/
def looksLikeClass (text : Array UInt8) (start stop : Nat) : Bool :=
  let body := ((text.toList.drop start).take (stop - 1 - start))
  body.length > 2 && body.head? == some 58 && body.getLast? == some 58
    && body.all fun b => b == 58 || (b != 91 && b != 45)
    && body.any (· != 58)

/-- Reads a list behind its opening bracket. -/
def bracket (dialect : Dialect) (text : Array UInt8) (place : Nat) :
    Except Fault (ByteSet × Nat) := do
  let negative := text[place]? == some 94
  let start := if negative then place + 1 else place
  if text.size ≤ start then throw .invalid
  let (read, stop) ← elements dialect text (text.size + 1) start true .empty
  if looksLikeClass text start stop then throw .classSyntax
  let folded := if dialect.foldCase then read.foldCase else read
  if !negative then return (folded, stop)
  else
    let others := folded.complement
    return (if dialect.manyLines then others.remove 10 else others, stop)

end LineShell.Regex
