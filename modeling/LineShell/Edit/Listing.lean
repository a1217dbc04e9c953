import LineShell.Text.Ascii

/-!
# Lines with everything in them made visible

- **`list`** shows a line such that every byte of it can be told.
-/

namespace LineShell.Edit.Listing

/-- The letter that stands for a byte behind a backslash. -/
def letter? (b : UInt8) : Option Char :=
  match b with
  | 7 => some 'a'
  | 8 => some 'b'
  | 9 => some 't'
  | 10 => some 'n'
  | 11 => some 'v'
  | 12 => some 'f'
  | 13 => some 'r'
  | 92 => some '\\'
  | _ => none

/-- A byte made visible. -/
def shown (b : UInt8) : Bytes :=
  match letter? b with
  | some letter => Text.encode ['\\', letter]
  | none =>
      if Text.isPrint b then [b]
      else 92 :: [b >>> 6, (b >>> 3) &&& 7, b &&& 7].map (· + 48)

/-- Lays out pieces behind so many columns; there is room for a limited number of columns and a
sign that the line goes on. -/
def wrap (limit : Option Nat) : (column : Nat) → List Bytes → Bytes
  | _, [] => []
  | column, piece :: rest =>
      if limit.any fun most => most < column + piece.length then
        Text.bytesOf "\\\n" ++ piece ++ wrap limit piece.length rest
      else piece ++ wrap limit (column + piece.length) rest

/-- A line made visible, in lines of a width if one is given, behind the last of which comes a
delimiter. -/
def list (width : Nat) (delimiter : UInt8) (line : Bytes) : Bytes :=
  let limit := if width = 0 then none else some (width - 1)
  wrap limit 0 (line.map shown) ++ [36, delimiter]

end LineShell.Edit.Listing
