import LineShell.Text.Ascii

/-!
# Patterns for names

A pattern for names matches a whole name: a star stands for any text, a question mark for any byte
and a list between brackets for one of its members.

- **`Glob.parse`** reads a pattern in which a backslash takes the meaning from the next byte.
- **`Glob.fits`** tells whether a pattern fits a name.
-/

namespace LineShell.Text

/-- A member of a list. -/
inductive GlobMember where
  /-- The bytes from one to another. -/
  | range (first last : UInt8)
  /-- The bytes of a class. -/
  | named (className : String)
  deriving DecidableEq, Repr, Inhabited

/-- A piece of a pattern. -/
inductive GlobPiece where
  /-- This byte. -/
  | byte (b : UInt8)
  /-- Any byte. -/
  | any
  /-- Any text. -/
  | star
  /-- A byte of a list, or one that is not in it. -/
  | oneOf (negative : Bool) (members : List GlobMember)
  deriving DecidableEq, Repr, Inhabited

/-- A pattern. -/
abbrev Glob := List GlobPiece

/-- The member stands for the byte. -/
def GlobMember.contains (b : UInt8) : GlobMember → Bool
  | .range first last => first ≤ b && b ≤ last
  | .named className => ((inClass? className).map fun test => test b).getD false

/-- The piece stands for the byte. -/
def GlobPiece.fitsByte (piece : GlobPiece) (b : UInt8) : Bool :=
  match piece with
  | .byte c => b == c
  | .any => true
  | .star => false
  | .oneOf negative members => negative != members.any (GlobMember.contains b)

namespace Glob

/-- A byte of a pattern, and whether it has lost its meaning. -/
abbrev Cell := UInt8 × Bool

/-- The cell is a byte that has kept its meaning. -/
def Cell.means (cell : Cell) (b : Char) : Bool := !cell.2 && cell.1.toNat == b.toNat

/-- The name of a class at the front of a list, and what follows it. -/
def className? (cells : List Cell) : Option (String × List Cell) :=
  match cells with
  | first :: second :: rest =>
      if Cell.means first '[' && Cell.means second ':' then
        let name := rest.takeWhile fun cell => !Cell.means cell ':'
        match rest.drop name.length with
        | _ :: close :: left =>
            let spelled := textOf (name.map Prod.fst)
            if Cell.means close ']' && (inClass? spelled).isSome then some (spelled, left) else none
        | _ => none
      else none
  | _ => none

/-- The members of a list up to its end, and what follows it. There are none if it has no end. -/
def members? : (fuel : Nat) → (first : Bool) → List Cell → Option (List GlobMember × List Cell)
  | 0, _, _ => none
  | _, _, [] => none
  | fuel + 1, first, cell :: rest =>
      if Cell.means cell ']' && !first then some ([], rest)
      else match className? (cell :: rest) with
        | some (name, left) =>
            (members? fuel false left).map fun (more, left) => (.named name :: more, left)
        | none =>
            match rest with
            | dash :: last :: left =>
                if Cell.means dash '-' && !Cell.means last ']' then
                  (members? fuel false left).map fun (more, left) =>
                    (.range cell.1 last.1 :: more, left)
                else
                  (members? fuel false rest).map fun (more, left) =>
                    (.range cell.1 cell.1 :: more, left)
            | _ =>
                (members? fuel false rest).map fun (more, left) =>
                  (.range cell.1 cell.1 :: more, left)

/-- The list behind an opening bracket, and what follows it. A caret turns it round as an
exclamation mark does, if `carets` holds. -/
def list? (carets : Bool) (cells : List Cell) : Option (GlobPiece × List Cell) :=
  let negative := cells.head?.any fun cell =>
    Cell.means cell '!' || (carets && Cell.means cell '^')
  let body := if negative then cells.tail else cells
  (members? (body.length + 1) true body).map fun (found, left) => (.oneOf negative found, left)

/-- The pattern that cells spell, looking at so many pieces at most. -/
def ofCellsUpTo (carets : Bool) : (fuel : Nat) → List Cell → Glob
  | 0, _ => []
  | _, [] => []
  | fuel + 1, cell :: rest =>
      if Cell.means cell '*' then .star :: ofCellsUpTo carets fuel rest
      else if Cell.means cell '?' then .any :: ofCellsUpTo carets fuel rest
      else if Cell.means cell '[' then
        match list? carets rest with
        | some (piece, left) => piece :: ofCellsUpTo carets fuel left
        | none => .byte cell.1 :: ofCellsUpTo carets fuel rest
      else .byte cell.1 :: ofCellsUpTo carets fuel rest

/-- The pattern that cells spell. -/
def ofCells (carets : Bool) (cells : List Cell) : Glob := ofCellsUpTo carets cells.length cells

/-- Bytes as cells: a backslash takes the meaning from the next one. -/
def cellsOf : Bytes → List Cell
  | [] => []
  | [b] => [(b, false)]
  | 92 :: b :: rest => (b, true) :: cellsOf rest
  | b :: rest => (b, false) :: cellsOf rest

/-- The pattern that a text spells. -/
def parse (bytes : Bytes) : Glob := ofCells true (cellsOf bytes)

/-- A pattern fits a whole text. -/
def fits : Glob → Bytes → Bool
  | [], text => text.isEmpty
  | .star :: rest, [] => fits rest []
  | .star :: rest, b :: text => fits rest (b :: text) || fits (.star :: rest) text
  | _ :: _, [] => false
  | piece :: rest, b :: text => piece.fitsByte b && fits rest text
termination_by pattern text => pattern.length + text.length

/-- A pattern without signs that stand for other bytes than themselves. -/
def plain? (pattern : Glob) : Option Bytes :=
  pattern.mapM fun piece =>
    match piece with
    | .byte b => some b
    | _ => none

end Glob

end LineShell.Text
