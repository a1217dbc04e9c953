import LineShell.Edit.Escape
import LineShell.Regex.Matcher

/-!
# Replacements

- **`Piece.ofText`** reads what takes the place of a match.
- **`Piece.fill`** writes it for one match.
- **`Substitution.apply`** replaces matches in a line.
-/

namespace LineShell.Edit

namespace LetterCase

/-- A byte in the case that is asked for. -/
def change : LetterCase → UInt8 → UInt8
  | .same, b => b
  | .upper, b => Text.upper b
  | .lower, b => Text.lower b

/-- Text with its first letter in one case and the others in another one. -/
def changeText (first others : LetterCase) : Bytes → Bytes
  | [] => []
  | b :: rest =>
      (if first = .same then others.change b else first.change b) :: rest.map others.change

end LetterCase

namespace Piece

/-- How a piece is written. -/
structure Manner where
  /-- What becomes of its letters. -/
  letters : LetterCase := .same
  /-- What becomes of its first letter. -/
  first : LetterCase := .same
  deriving DecidableEq, Repr, Inhabited

/-- The manner behind a letter that changes it. -/
def Manner.after? (manner : Manner) (letter : UInt8) : Option Manner :=
  match Char.ofNat letter.toNat with
  | 'L' => some ⟨.lower, .same⟩
  | 'U' => some ⟨.upper, .same⟩
  | 'E' => some ⟨.same, .same⟩
  | 'l' => some ⟨manner.letters, .lower⟩
  | 'u' => some ⟨manner.letters, .upper⟩
  | _ => none

/-- The manner of the next piece. -/
def Manner.later (manner : Manner) : Manner := { letters := manner.letters }

/-- A piece of the text that has been read, the last byte of which comes first. -/
def Manner.piece (manner : Manner) (read : Bytes) (group : Option Nat) : Piece :=
  ⟨read.reverse, manner.letters, manner.first, group⟩

/-- Reads pieces behind some text that has been read. -/
def ofTextFrom (manner : Manner) (read : Bytes) : Bytes → List Piece
  | [] => if read.isEmpty then [] else [manner.piece read none]
  | [b] => if b = 38 then [manner.piece read (some 0)] else [manner.piece (b :: read) none]
  | b :: c :: rest =>
      if b = 38 then manner.piece read (some 0) :: ofTextFrom manner.later [] (c :: rest)
      else if b ≠ backslash then ofTextFrom manner (b :: read) (c :: rest)
      else if Text.isDigit c then
        manner.piece read (some (c.toNat - 48)) :: ofTextFrom manner.later [] rest
      else match manner.after? c with
        | some changed => manner.piece read none :: ofTextFrom changed [] rest
        | none => ofTextFrom manner (c :: read) rest

/-- The pieces of a replacement. -/
def ofText (bytes : Bytes) : List Piece := ofTextFrom {} [] bytes

/-- The greatest group that pieces ask for. -/
def greatestGroup (pieces : List Piece) : Nat :=
  pieces.foldl (fun greatest piece => max greatest (piece.group.getD 0)) 0

/-- What pieces stand for, given what groups stand for. What is to become of a first letter that
is not there is left to the next piece. -/
def fill (group : Nat → Bytes) : (waiting : LetterCase) → List Piece → Bytes
  | _, [] => []
  | waiting, piece :: rest =>
      let first := if piece.first = .same then waiting else piece.first
      let text := LetterCase.changeText first piece.letters piece.text
      let behind := if piece.text.isEmpty then first else .same
      let found := (piece.group.map group).getD []
      let later := if found.isEmpty && piece.group.isSome && piece.first ≠ .same then behind
        else .same
      text ++ LetterCase.changeText behind piece.letters found ++ fill group later rest

end Piece

namespace Substitution

/-- How far the matches of a line have been replaced. -/
structure Progress where
  /-- The place from where the next match is sought. -/
  place : Nat := 0
  /-- Where the last match has ended. -/
  matchEnd : Option Nat := none
  /-- How many matches have been found. -/
  count : Nat := 0
  /-- What has been written, the last part first. -/
  written : List Bytes := []
  deriving Repr, Inhabited

/-- Replaces matches from a place on, given a bound on how many are looked for. -/
def applyFrom (substitution : Substitution) (program : Regex.Program)
    (subject : Regex.Subject) : (fuel : Nat) → Progress → Progress
  | 0, progress => progress
  | fuel + 1, progress =>
      let size := subject.bytes.size
      let part (start stop : Nat) : Bytes := (subject.bytes.extract start stop).toList
      if size < progress.place then progress
      else match program.search subject progress.place with
        | none => progress
        | some found =>
            let isEmpty := found.start == found.stop
            let behind := if isEmpty then found.stop + 1 else found.stop
            let skipped := part found.stop behind
            let before := part progress.place found.start
            if isEmpty && progress.matchEnd == some found.start then
              applyFrom substitution program subject fuel
                { progress with
                  place := behind
                  written := skipped :: before :: progress.written }
            else
              let count := progress.count + 1
              let group (number : Nat) : Bytes :=
                match found.group? number with
                | some (start, stop) => part start stop
                | none => []
              let put := if count < substitution.nth then part found.start found.stop
                else Piece.fill group .same substitution.replacement
              let progress : Progress :=
                { place := behind
                  matchEnd := some found.stop
                  count := count
                  written := skipped :: put :: before :: progress.written }
              if substitution.nth ≤ count && !substitution.throughout then progress
              else applyFrom substitution program subject fuel progress

/-- The line after matches have been replaced, unless none had to be. -/
def replaced? (substitution : Substitution) (program : Regex.Program) (line : Bytes) :
    Option Bytes :=
  let subject : Regex.Subject := { bytes := line.toArray }
  let size := subject.bytes.size
  let progress := substitution.applyFrom program subject (size + 2) {}
  if progress.count < substitution.nth then none
  else
    let rest := (subject.bytes.extract progress.place size).toList
    some (rest :: progress.written).reverse.flatten

end Substitution

end LineShell.Edit
