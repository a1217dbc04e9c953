import LineShell.Script.Activity
import LineShell.Text.Glob

/-!
# Fields

When values have been put into a word, what was not quoted is taken apart at separators, and each
field that is a pattern gives way to the names it fits.

- **`Fields.split`** takes stretches of text apart.
- **`Fields.matching`** lists the names that a pattern fits.
-/

namespace LineShell.Script

/-- A piece of text that values have been put into. -/
inductive Glyph where
  /-- A byte, which has no other meaning if it is `literal`. -/
  | byte (b : UInt8) (literal : Bool)
  /-- The mark at the beginning or the end of a quotation. -/
  | mark
  /-- The gap between two arguments. -/
  | gap
  deriving DecidableEq, Repr, Inhabited

/-- Where text is taken apart. -/
inductive Seams where
  /-- Nowhere. -/
  | none
  /-- At the gaps between arguments. -/
  | gaps
  /-- At separators too. -/
  | separators
  deriving DecidableEq, Repr, Inhabited

/-- A stretch of text. -/
structure Stretch where
  /-- Its pieces. -/
  glyphs : List Glyph
  /-- Where it is taken apart. -/
  seams : Seams
  deriving DecidableEq, Repr, Inhabited

namespace Glyph

/-- Bytes as pieces of text. -/
def ofBytes (literal : Bool) (bytes : Bytes) : List Glyph := bytes.map fun b => .byte b literal

/-- The byte of a piece; a gap counts as a NUL. -/
def byte? : Glyph → Option UInt8
  | .byte b _ => some b
  | .gap => some 0
  | .mark => none

/-- The bytes of text. -/
def bytes (glyphs : List Glyph) : Bytes :=
  glyphs.filterMap fun
    | .byte b _ => some b
    | _ => none

/-- The cells of a pattern. A backslash that still has its meaning takes it from the next byte. -/
def cells : List Glyph → List Text.Glob.Cell
  | [] => []
  | .byte 92 false :: .byte b _ :: rest => (b, true) :: cells rest
  | .byte b literal :: rest => (b, literal) :: cells rest
  | _ :: rest => cells rest

/-- The pattern that text spells. -/
def pattern (glyphs : List Glyph) : Text.Glob := Text.Glob.ofCells false (cells glyphs)

end Glyph

/-- The text of stretches. -/
def Stretch.bytes (stretches : List Stretch) : Bytes :=
  stretches.flatMap fun stretch => Glyph.bytes stretch.glyphs

namespace Fields

/-! ## Taking apart -/

/-- Text that is being taken apart. -/
structure Splitter where
  /-- How many fields may still be cut off, if that is limited. -/
  most : Option Nat
  /-- The fields that have been cut off, the last one first. -/
  fields : List (List Glyph) := []
  /-- The field under way, its last piece first. -/
  field : List Glyph := []
  /-- The field as far as it is kept if nothing but separators follows. -/
  kept : Option (List Glyph) := none
  /-- A field has just ended with a blank separator. -/
  afterBlank : Bool := false
  deriving Repr, Inhabited

/-- The piece is a separator, and a blank one. -/
def separates (separators : Bytes) (seams : Seams) (glyph : Glyph) : Bool × Bool :=
  match glyph with
  | .gap => (true, true)
  | .mark => (false, false)
  | .byte b _ =>
      let found := seams == .separators && separators.contains b
      (found, found && Knowledge.blankSeparators.contains b)

namespace Splitter

/-- A piece belongs to the field under way. -/
def keep (splitter : Splitter) (glyph : Glyph) : Splitter :=
  { splitter with field := glyph :: splitter.field }

/-- The field under way ends. -/
def cut (splitter : Splitter) : Splitter :=
  { splitter with fields := splitter.field :: splitter.fields, field := [] }

/-- A separator comes behind a field, given whether it is a blank one that counts as such. -/
def separator (splitter : Splitter) (glyph : Glyph) : Splitter :=
  if splitter.field.isEmpty && splitter.afterBlank then { splitter with afterBlank := false }
  else match splitter.most with
    | some 1 => { splitter with most := some 0, kept := some splitter.field }.keep glyph
    | some (n + 2) => { splitter with most := some (n + 1) }.cut
    | _ => splitter.cut

/-- A piece comes that belongs to the last field. -/
def last (splitter : Splitter) (separates blank : Bool) (glyph : Glyph) : Splitter :=
  if blank then
    { splitter with kept := some (splitter.kept.getD splitter.field) }.keep glyph
  else
    let kept := if separates && splitter.afterBlank then splitter.kept else none
    { splitter with kept := kept, afterBlank := false }.keep glyph

/-- A piece comes from a stretch that is taken apart, given whether gaps alone count in it or in
the one before it. -/
def step (separators : Bytes) (seams : Seams) (gapsOnly : Bool) (splitter : Splitter)
    (glyph : Glyph) : Splitter :=
  let (found, blank) := separates separators seams glyph
  if splitter.most == some 0 then splitter.last found blank glyph
  else if splitter.afterBlank then
    if blank then { splitter with field := [] }
    else if found then { splitter with field := [], afterBlank := false }
    else { splitter with field := [glyph], afterBlank := false }
  else if found then
    { splitter with afterBlank := !gapsOnly && blank }.separator glyph
  else splitter.keep glyph

/-- A stretch comes; the second component tells whether gaps alone counted in the last one that
was taken apart. -/
def stretch (separators : Bytes) (state : Splitter × Bool) (stretch : Stretch) :
    Splitter × Bool :=
  let (splitter, before) := state
  if stretch.seams == .none then (stretch.glyphs.foldl keep splitter, before)
  else
    let gaps := stretch.seams == .gaps
    (stretch.glyphs.foldl (step separators stretch.seams (before || gaps))
      { splitter with afterBlank := false }, gaps)

end Splitter

/-- The fields of stretches of text, of which so many may be cut off if that is limited. -/
def split (separators : Bytes) (most : Option Nat) (stretches : List Stretch) :
    List (List Glyph) :=
  let (splitter, gaps) :=
    stretches.foldl (Splitter.stretch separators) ({ most := most }, false)
  let field := splitter.kept.getD splitter.field
  let fields := if field.isEmpty && !gaps then splitter.fields else field :: splitter.fields
  fields.reverse.map List.reverse

/-! ## Names that patterns fit -/

/-- The slash. -/
def slash : UInt8 := 47

/-- The list behind an opening bracket ends before the next slash. -/
def listEnds (cells : List Text.Glob.Cell) : Bool :=
  let body := match cells with
    | (33, false) :: rest => rest
    | cells => cells
  let inside := body.takeWhile fun cell => cell.1 != slash
  inside.tail.any fun cell => cell == (93, false)

/-- Something in a pattern stands for other text than itself. -/
def hasMeaning : List Text.Glob.Cell → Bool
  | [] => false
  | (b, literal) :: rest =>
      (!literal && (b == 42 || b == 63 || (b == 91 && listEnds rest))) || hasMeaning rest

/-- The parts of a pattern between slashes. -/
def parts (cells : List Text.Glob.Cell) : List (List Text.Glob.Cell) :=
  cells.foldr (fun cell later =>
    match later with
    | [] => [[cell]]
    | part :: more => if cell.1 == slash then [] :: part :: more else (cell :: part) :: more) [[]]

/-- The names in a directory that a part of a pattern fits, in no order. Names that begin with a
dot are passed over unless the part does too. -/
def namesFor (directory : Bytes) (part : List Text.Glob.Cell) : Activity (List Bytes) := do
  let path := if directory.isEmpty then Text.bytesOf "." else directory
  match ← Activity.ask (.names path) with
  | .error _ => return []
  | .ok names =>
      let dotted := part.head?.any fun cell => cell.1 == 46
      let all := Text.bytesOf "." :: Text.bytesOf ".." :: names
      let pattern := Text.Glob.ofCells false part
      return all.filter fun name =>
        (dotted || name.head? != some 46) && pattern.fits name

/-- The names that the parts of a pattern fit behind the beginning of a path. -/
def matchingFrom : (start : Bytes) → (found : Bool) → List (List Text.Glob.Cell) →
    Activity (List Bytes)
  | start, found, [] => return if found then [start] else []
  | start, found, part :: rest => do
      if hasMeaning part then
        let names ← namesFor start part
        match rest with
        | [] => return names.map (start ++ ·)
        | rest =>
            let lists ← names.mapM fun name => matchingFrom (start ++ name ++ [slash]) true rest
            return lists.flatten
      else
        let plain := part.map Prod.fst
        match rest with
        | [] =>
            if !found then return []
            match ← Activity.ask (.status (start ++ plain) false) with
            | .ok _ => return [start ++ plain]
            | .error _ => return []
        | rest => matchingFrom (start ++ plain ++ [slash]) found rest

/-- The names that a pattern fits, in order; none if it is no pattern. -/
def matching (cells : List Text.Glob.Cell) : Activity (List Bytes) := do
  if !hasMeaning cells then return []
  return (← matchingFrom [] false (parts cells)).mergeSort Text.bytesLe

/-- What a field stands for. -/
def resolve (field : List Glyph) : Activity (List Bytes) := do
  let plain := Glyph.bytes field
  if (← get).has "noglob" then return [plain]
  match ← matching (Glyph.cells field) with
  | [] => return [plain]
  | names => return names

end Fields

end LineShell.Script
