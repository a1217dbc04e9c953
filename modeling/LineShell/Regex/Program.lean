import LineShell.Regex.Parser

/-!
# Regular expressions as programs

A regular expression becomes a sequence of instructions, through which a matcher follows all ways
at once.

- **`Program.ofRegex`** translates a regular expression.
-/

namespace LineShell.Regex

/-- An instruction. Unless it says otherwise the next one follows. -/
inductive Instruction where
  /-- Takes one byte of a set. -/
  | take (members : ByteSet)
  /-- Goes on only at a certain place. -/
  | check (place : Anchor)
  /-- Remembers the place under a number: the beginnings of groups have even ones. -/
  | mark (slot : Nat)
  /-- Takes what a group stands for. -/
  | takeGroup (number : Nat)
  /-- Goes on at one instruction or, with less right, at another. -/
  | split (first second : Nat)
  /-- Goes on at another instruction. -/
  | jump (target : Nat)
  /-- All has been matched. -/
  | accept
  deriving DecidableEq, Repr, Inhabited

/-- How a match can begin. -/
structure Opening where
  /-- The bytes with which a match that is not empty can begin. -/
  first : ByteSet
  /-- A match may be empty, or begin in a way that is not known. -/
  mayBeEmpty : Bool
  deriving Repr, Inhabited

/-- How a match of a regular expression can begin. -/
def opening : Regex → Opening
  | .empty | .anchor _ => ⟨.empty, true⟩
  | .set members => ⟨members, false⟩
  | .group _ body => opening body
  | .back _ => ⟨.empty, true⟩
  | .seq first second =>
      let before := opening first
      if before.mayBeEmpty then
        let behind := opening second
        ⟨before.first.union behind.first, behind.mayBeEmpty⟩
      else before
  | .alt first second =>
      let one := opening first
      let other := opening second
      ⟨one.first.union other.first, one.mayBeEmpty || other.mayBeEmpty⟩
  | .times body least _ =>
      let once := opening body
      ⟨once.first, once.mayBeEmpty || least == 0⟩

/-- A regular expression, ready to be matched. -/
structure Program where
  /-- The instructions. -/
  code : Array Instruction
  /-- How a match can begin. -/
  opening : Opening
  /-- How many groups there are. -/
  groups : Nat
  /-- Some instruction takes what a group stands for. -/
  refersBack : Bool
  /-- The case of letters does not matter. -/
  foldCase : Bool
  /-- Line feeds within the text end lines. -/
  manyLines : Bool
  deriving Repr, Inhabited

/-- Adds the instructions of a regular expression that comes at least so often. -/
def emitLeast (emit : Array Instruction → Array Instruction) : (least : Nat) →
    Array Instruction → Array Instruction
  | 0, code => code
  | least + 1, code => emitLeast emit least (emit code)

/-- Adds the instructions of a regular expression that may come again any number of times. -/
def emitStar (emit : Array Instruction → Array Instruction) (code : Array Instruction) :
    Array Instruction :=
  let start := code.size
  let inner := (emit (code.push (.jump 0))).push (.jump start)
  inner.setIfInBounds start (.split (start + 1) inner.size)

/-- Adds the instructions of a regular expression that may come so often or less. -/
def emitMost (emit : Array Instruction → Array Instruction) : (most : Nat) →
    Array Instruction → Array Instruction
  | 0, code => code
  | most + 1, code =>
      let start := code.size
      let inner := emitMost emit most (emit (code.push (.jump 0)))
      inner.setIfInBounds start (.split (start + 1) inner.size)

/-- Adds the instructions of a regular expression. -/
def emit : Regex → Array Instruction → Array Instruction
  | .empty, code => code
  | .set members, code => code.push (.take members)
  | .anchor place, code => code.push (.check place)
  | .group number body, code =>
      (emit body (code.push (.mark (2 * number)))).push (.mark (2 * number + 1))
  | .back number, code => code.push (.takeGroup number)
  | .seq first second, code => emit second (emit first code)
  | .alt first second, code =>
      let start := code.size
      let left := emit first (code.push (.jump 0))
      let middle := left.size
      let right := emit second (left.push (.jump 0))
      (right.setIfInBounds start (.split (start + 1) (middle + 1))).setIfInBounds middle
        (.jump right.size)
  | .times body least most, code =>
      let code := emitLeast (emit body) least code
      match most with
      | none => emitStar (emit body) code
      | some most => emitMost (emit body) (most - least) code

/-- The program of a regular expression. -/
def Program.ofRegex (dialect : Dialect) (groups : Nat) (regex : Regex) : Program :=
  let code := (emit regex #[]).push .accept
  let refersBack := code.any fun instruction => match instruction with
    | .takeGroup _ => true
    | _ => false
  let known := Regex.opening regex
  { code := code
    opening := ⟨known.first, known.mayBeEmpty || refersBack⟩
    groups := groups
    refersBack := refersBack
    foldCase := dialect.foldCase
    manyLines := dialect.manyLines }

/-- Reads a text in a dialect and translates it. -/
def compile (dialect : Dialect) (bytes : Bytes) : Except Fault Program :=
  (parse dialect bytes).map fun parsed => .ofRegex dialect parsed.groups parsed.regex

end LineShell.Regex
