import LineShell.Regex.Program

/-!
# Matching

Of all matches of a regular expression in a text the one that begins first counts, and of those
the longest one. Its groups are found by following the program once more towards that end, each
split by its first way if that leads there.

- **`Program.search`** finds the match that counts.
- **`Program.isMatched`** tells whether there is one.
-/

namespace LineShell.Regex

/-- A text in which matches are sought. -/
structure Subject where
  /-- The bytes. -/
  bytes : Array UInt8
  /-- The text does not begin a line. -/
  midLine : Bool := false

namespace Subject

/-- A word character comes before a place. -/
def wordBefore (subject : Subject) (place : Nat) : Bool :=
  place != 0 && (subject.bytes[place - 1]?).any Text.isWordByte

/-- A word character comes behind a place. -/
def wordBehind (subject : Subject) (place : Nat) : Bool :=
  (subject.bytes[place]?).any Text.isWordByte

end Subject

/-- The groups of a match: for each number the places where its group begins and ends. -/
abbrev Marks := Array (Option Nat)

/-- A match. -/
structure Match where
  /-- Where it begins. -/
  start : Nat
  /-- Where it ends. -/
  stop : Nat
  /-- The places of its groups. -/
  marks : Marks
  deriving Repr, Inhabited

namespace Match

/-- The beginning and the end of a group, the whole match having the number zero. -/
def group? (found : Match) (number : Nat) : Option (Nat × Nat) :=
  if number = 0 then some (found.start, found.stop)
  else match found.marks.getD (2 * number) none, found.marks.getD (2 * number + 1) none with
    | some start, some stop => some (start, stop)
    | _, _ => none

end Match

namespace Program

/-- A place is of a certain kind. -/
def holds (program : Program) (subject : Subject) (kind : Anchor) (place : Nat) : Bool :=
  let size := subject.bytes.size
  let before := subject.wordBefore place
  let behind := subject.wordBehind place
  match kind with
  | .lineStart =>
      (place == 0 && !subject.midLine)
        || (program.manyLines && place != 0 && subject.bytes[place - 1]? == some 10)
  | .lineEnd => place == size || (program.manyLines && subject.bytes[place]? == some 10)
  | .textStart => place == 0 && !subject.midLine
  | .textEnd => place == size
  | .wordStart => !before && behind
  | .wordEnd => before && !behind
  | .wordEdge => before != behind
  | .noWordEdge => before == behind
  | .noWordBefore => !before
  | .noWordBehind => !behind

/-! ## Following all ways at once -/

/-- Instructions that wait for a byte, and which instructions have been met at the place. -/
structure Front where
  /-- The waiting instructions. -/
  waiting : List Nat
  /-- All has been matched. -/
  accepted : Bool
  /-- The instructions that have been met. -/
  met : Array Bool

/-- Adds to a front what can be reached from some instructions without taking a byte. -/
def reach (program : Program) (subject : Subject) (place : Nat) : (fuel : Nat) → List Nat →
    Front → Front
  | 0, _, front => front
  | _, [], front => front
  | fuel + 1, here :: rest, front =>
      if front.met.getD here true then reach program subject place fuel rest front
      else
        let front := { front with met := front.met.setIfInBounds here true }
        match program.code[here]? with
        | some (.take _) =>
            reach program subject place fuel rest { front with waiting := here :: front.waiting }
        | some (.check kind) =>
            reach program subject place fuel
              (if program.holds subject kind place then (here + 1) :: rest else rest) front
        | some (.mark _) => reach program subject place fuel ((here + 1) :: rest) front
        | some (.split first second) =>
            reach program subject place fuel (first :: second :: rest) front
        | some (.jump target) => reach program subject place fuel (target :: rest) front
        | some .accept => reach program subject place fuel rest { front with accepted := true }
        | _ => reach program subject place fuel rest front

/-- The front that some instructions lead to. -/
def front (program : Program) (subject : Subject) (place : Nat) (starts : List Nat) : Front :=
  program.reach subject place (2 * program.code.size + starts.length + 2) starts
    ⟨[], false, Array.replicate program.code.size false⟩

/-- The instructions behind those that take a byte. -/
def advance (program : Program) (waiting : List Nat) (b : UInt8) : List Nat :=
  waiting.filterMap fun (here : Nat) =>
    match program.code[here]? with
    | some (.take members) => if members.contains b then some (here + 1) else none
    | _ => none

/-- The last place at which a match ends that has come to a front, given the best one so far. -/
def farthest (program : Program) (subject : Subject) : (fuel : Nat) → (place : Nat) → Front →
    (best : Option Nat) → Option Nat
  | 0, _, _, best => best
  | fuel + 1, place, current, best =>
      let best := if current.accepted then some place else best
      match current.waiting, subject.bytes[place]? with
      | [], _ | _, none => best
      | waiting, some b =>
          match program.advance waiting b with
          | [] => best
          | starts =>
              farthest program subject fuel (place + 1)
                (program.front subject (place + 1) starts) best

/-- The end of the longest match that begins at a place. -/
def longest? (program : Program) (subject : Subject) (start : Nat) : Option Nat :=
  program.farthest subject (subject.bytes.size + 1 - start) start
    (program.front subject start [0]) none

/-- Some match begins at a place of the text or behind it: all beginnings are followed at once. -/
def anyMatch (program : Program) (subject : Subject) : (fuel : Nat) → (place : Nat) →
    (starts : List Nat) → Bool
  | 0, _, _ => false
  | fuel + 1, place, starts =>
      let current := program.front subject place (0 :: starts)
      current.accepted || match subject.bytes[place]? with
        | none => false
        | some b => anyMatch program subject fuel (place + 1) (program.advance current.waiting b)

/-! ## Groups -/

/-- A way through the program that has not been followed to its end. -/
structure Way where
  /-- The instruction. -/
  here : Nat
  /-- The place. -/
  place : Nat
  /-- The places of the groups so far. -/
  marks : Marks

/-- Follows ways, the first one first, until one of them ends at a place. No instruction is met
twice at one place. -/
def follow (program : Program) (subject : Subject) (stop : Nat) : (fuel : Nat) → List Way →
    (met : Array Bool) → Option Marks
  | 0, _, _ => none
  | _, [], _ => none
  | fuel + 1, way :: rest, met =>
      let index := way.place * program.code.size + way.here
      if met.getD index true then follow program subject stop fuel rest met
      else
        let met := met.setIfInBounds index true
        let next : Way := { way with here := way.here + 1 }
        let onward (ways : List Way) : Option Marks :=
          follow program subject stop fuel (ways ++ rest) met
        match program.code[way.here]? with
        | some (.take members) =>
            if way.place < stop && (subject.bytes[way.place]?).any members.contains then
              onward [{ next with place := way.place + 1 }]
            else onward []
        | some (.check kind) =>
            onward (if program.holds subject kind way.place then [next] else [])
        | some (.mark slot) =>
            onward [{ next with marks := way.marks.setIfInBounds slot (some way.place) }]
        | some (.split first second) =>
            onward [{ way with here := first }, { way with here := second }]
        | some (.jump target) => onward [{ way with here := target }]
        | some .accept => if way.place == stop then some way.marks else onward []
        | _ => onward []

/-- No group has been found. -/
def noMarks (program : Program) : Marks := Array.replicate (2 * program.groups + 2) none

/-- The groups of a match. -/
def groupsOf (program : Program) (subject : Subject) (start stop : Nat) : Marks :=
  if program.groups = 0 then program.noMarks
  else
    let size := (subject.bytes.size + 1) * program.code.size
    (program.follow subject stop (3 * size + 3) [⟨0, start, program.noMarks⟩]
      (Array.replicate size false)).getD program.noMarks

/-! ## Matches that refer to groups -/

/-- Two bytes are the same, or the same letter if case does not matter. -/
def sameByte (program : Program) (a b : UInt8) : Bool :=
  a == b || (program.foldCase && Text.lower a == Text.lower b)

/-- The end of what a group stands for when it comes again at a place. -/
def again? (program : Program) (subject : Subject) (marks : Marks) (number place : Nat) :
    Option Nat :=
  match marks.getD (2 * number) none, marks.getD (2 * number + 1) none with
  | some start, some stop =>
      let piece := (List.range (stop - start)).all fun offset =>
        match subject.bytes[start + offset]?, subject.bytes[place + offset]? with
        | some a, some b => program.sameByte a b
        | _, _ => false
      if piece then some (place + (stop - start)) else none
  | _, _ => none

/-- How many steps are taken at most to find a match that refers to groups. -/
def patience : Nat := 2000000

/-- A way that also knows the splits it has met since it last took a byte. -/
abbrev LongWay := Way × List Nat

/-- Follows all ways to their ends and keeps the first of those that end last. -/
def exhaust (program : Program) (subject : Subject) : (fuel : Nat) → List LongWay →
    (best : Option (Nat × Marks)) → Option (Nat × Marks)
  | 0, _, best => best
  | _, [], best => best
  | fuel + 1, (way, met) :: rest, best =>
      let next : Way := { way with here := way.here + 1 }
      match program.code[way.here]? with
      | some (.take members) =>
          if (subject.bytes[way.place]?).any members.contains then
            exhaust program subject fuel (({ next with place := way.place + 1 }, []) :: rest) best
          else exhaust program subject fuel rest best
      | some (.takeGroup number) =>
          match program.again? subject way.marks number way.place with
          | some place =>
              exhaust program subject fuel (({ next with place := place },
                if place = way.place then met else []) :: rest) best
          | none => exhaust program subject fuel rest best
      | some (.check kind) =>
          if program.holds subject kind way.place then
            exhaust program subject fuel ((next, met) :: rest) best
          else exhaust program subject fuel rest best
      | some (.mark slot) =>
          exhaust program subject fuel
            (({ next with marks := way.marks.setIfInBounds slot (some way.place) }, met) :: rest)
            best
      | some (.split first second) =>
          if met.contains way.here then exhaust program subject fuel rest best
          else
            exhaust program subject fuel
              (({ way with here := first }, way.here :: met)
                :: ({ way with here := second }, way.here :: met) :: rest) best
      | some (.jump target) =>
          exhaust program subject fuel (({ way with here := target }, met) :: rest) best
      | some .accept =>
          let better := match best with
            | none => true
            | some (stop, _) => stop < way.place
          exhaust program subject fuel rest
            (if better then some (way.place, way.marks) else best)
      | none => exhaust program subject fuel rest best

/-! ## Searching -/

/-- The match that counts of those that begin at a place. -/
def matchAt? (program : Program) (subject : Subject) (start : Nat) : Option Match :=
  if program.refersBack then
    (program.exhaust subject patience [(⟨0, start, program.noMarks⟩, [])] none).map
      fun (stop, marks) => ⟨start, stop, marks⟩
  else
    (program.longest? subject start).map fun stop =>
      ⟨start, stop, program.groupsOf subject start stop⟩

/-- The match that counts of those that begin at some place or behind it, looking at so many
places at most. -/
def searchUpTo (program : Program) (subject : Subject) : (fuel : Nat) → (place : Nat) →
    Option Match
  | 0, _ => none
  | fuel + 1, place =>
      let hopeful := program.opening.mayBeEmpty
        || (subject.bytes[place]?).any program.opening.first.contains
      match if hopeful then program.matchAt? subject place else none with
      | some found => some found
      | none => searchUpTo program subject fuel (place + 1)

/-- The match that counts of those that begin at a place of the text or behind it. -/
def search (program : Program) (subject : Subject) (place : Nat) : Option Match :=
  program.searchUpTo subject (subject.bytes.size + 1 - place) place

/-- Some match begins in the text. -/
def isMatched (program : Program) (subject : Subject) : Bool :=
  if program.refersBack then (program.search subject 0).isSome
  else program.anyMatch subject (subject.bytes.size + 1) 0 []

end Program

end LineShell.Regex
