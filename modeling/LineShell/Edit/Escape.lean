import LineShell.Edit.Basic

/-!
# Escapes in scripts

A backslash gives some letters a meaning: control characters, and numbers of bytes.

- **`Escapes.convert`** writes what they mean in their place.
-/

namespace LineShell.Edit

/-- How escapes are treated in a part of a script. -/
structure Escapes where
  /-- A backslash before anything else stays there. -/
  keepsOthers : Bool
  /-- The bytes that need a backslash to stand for themselves. -/
  guarded : Bytes := []
  deriving DecidableEq, Repr, Inhabited

/-- The backslash. -/
def backslash : UInt8 := 92

namespace Escapes

/-- The control character that a letter means. -/
def letter? (b : UInt8) : Option UInt8 :=
  match Char.ofNat b.toNat with
  | 'a' => some 7
  | 'f' => some 12
  | 'n' => some 10
  | 'r' => some 13
  | 't' => some 9
  | 'v' => some 11
  | _ => none

/-- The base of the number behind a letter, and how many digits it has at most. -/
def base? (b : UInt8) : Option (Nat × Nat) :=
  match Char.ofNat b.toNat with
  | 'd' => some (10, 3)
  | 'o' => some (8, 3)
  | 'x' => some (16, 2)
  | _ => none

/-- The byte with the number in front of a text, and how many digits that has. -/
def byteAt? (base most : Nat) (bytes : Bytes) : Option (UInt8 × Nat) :=
  let digits := (bytes.take most).takeWhile fun b => (Text.digitValue? base b).isSome
  if digits.isEmpty then none
  else some (UInt8.ofNat (Text.valueOf base digits), digits.length)

/-- A byte that stands for itself. -/
def itself (escapes : Escapes) (b : UInt8) : Bytes :=
  if escapes.guarded.contains b then [backslash, b] else [b]

/-- The control character that goes with a byte. -/
def control (b : UInt8) : UInt8 := Text.upper b ^^^ 64

/-- The text with the meaning of its escapes in their place. -/
def convert (escapes : Escapes) : Bytes → Except Fault Bytes
  | [] => .ok []
  | [b] => .ok [b]
  | b :: c :: rest =>
      if b ≠ backslash then (convert escapes (c :: rest)).map (b :: ·)
      else match letter? c with
        | some meant => (convert escapes rest).map (meant :: ·)
        | none =>
            match (base? c).bind fun (base, most) => byteAt? base most rest with
            | some (meant, count) =>
                (convert escapes (rest.drop count)).map (escapes.itself meant ++ ·)
            | none =>
                if c = 99 then
                  match rest with
                  | [] => .ok [backslash]
                  | d :: rest =>
                      if d ≠ backslash then
                        (convert escapes rest).map (escapes.itself (control d) ++ ·)
                      else match rest with
                        | e :: rest =>
                            if e = backslash then
                              (convert escapes rest).map (escapes.itself (control e) ++ ·)
                            else .error .controlEscape
                        | [] => .error .controlEscape
                else
                  (convert escapes rest).map ((if escapes.keepsOthers then [b, c] else [c]) ++ ·)
termination_by bytes => bytes.length
decreasing_by all_goals grind

/-- A regular expression keeps the escapes that mean something there. -/
def pattern : Escapes := { keepsOthers := true }

/-- A replacement keeps escapes too, and has two signs of its own. -/
def replacement : Escapes := { keepsOthers := true, guarded := [38, backslash] }

/-- Text that is written has no escapes left. -/
def text : Escapes := { keepsOthers := false }

end Escapes

end LineShell.Edit
