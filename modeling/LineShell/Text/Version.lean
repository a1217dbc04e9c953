import LineShell.Text.Ascii

/-!
# The order of versions

Names that hold numbers are compared such that the numbers count as numbers, and such that the
ends of file names count last.

- **`Version.order`** compares two names.
-/

namespace LineShell.Text.Version

/-- The weight of the first byte of what is left of a name, which a digit ends. -/
def weight : Bytes → Int
  | [] => -1
  | b :: _ =>
      if isDigit b then 0
      else if isAlpha b then b.toNat
      else if b == 126 then -2
      else b.toNat + 256

/-- Compares what comes before the next digits, and gives back what is left. -/
def orderText : Bytes → Bytes → Ordering × Bytes × Bytes
  | a :: restA, b :: restB =>
      if isDigit a && isDigit b then (.eq, a :: restA, b :: restB)
      else
        let order := compare (weight (a :: restA)) (weight (b :: restB))
        if order == .eq then orderText restA restB else (order, [], [])
  | [], b :: restB =>
      if isDigit b then (.eq, [], b :: restB) else (compare (-1) (weight (b :: restB)), [], [])
  | a :: restA, [] =>
      if isDigit a then (.eq, a :: restA, []) else (compare (weight (a :: restA)) (-1), [], [])
  | [], [] => (.eq, [], [])

/-- Compares two names piece by piece, at most so many times. -/
def orderPieces : (fuel : Nat) → Bytes → Bytes → Ordering
  | 0, _, _ => .eq
  | fuel + 1, a, b =>
      if a.isEmpty && b.isEmpty then .eq
      else
        let (order, a, b) := orderText a b
        if order != .eq then order
        else
          let digits (bytes : Bytes) : Bytes := bytes.takeWhile isDigit
          let numbers := compare (valueOf 10 (digits a)) (valueOf 10 (digits b))
          if numbers != .eq then numbers
          else orderPieces fuel (a.drop (digits a).length) (b.drop (digits b).length)

/-- How much of a name is left when the endings behind points are left out, given how much has
been passed. -/
def bareLength : (fuel : Nat) → (passed : Nat) → (bare : Nat) → Bytes → Nat
  | 0, _, bare, _ => bare
  | fuel + 1, passed, bare, name =>
      match name with
      | [] => bare
      | _ :: rest => endings fuel fuel (passed + 1) (passed + 1) rest
where
  /-- Passes over endings. -/
  endings (fuel : Nat) : (turns : Nat) → (passed bare : Nat) → Bytes → Nat
    | 0, passed, bare, rest => bareLength fuel passed bare rest
    | turns + 1, passed, bare, rest =>
        match rest with
        | 46 :: b :: more =>
            if isAlpha b || b == 126 then
              let tail := more.takeWhile fun c => isAlnum c || c == 126
              endings fuel turns (passed + 2 + tail.length) bare (more.drop tail.length)
            else bareLength fuel passed bare rest
        | _ => bareLength fuel passed bare rest

/-- The rank of a name by the points at its front. -/
def pointRank (name : Bytes) : Nat :=
  if name == [46] then 0
  else if name == [46, 46] then 1
  else if name.head? == some 46 then 2
  else 3

/-- Compares two names. -/
def order (a b : Bytes) : Ordering :=
  if a.isEmpty || b.isEmpty then compare a.length b.length
  else if pointRank a != pointRank b then compare (pointRank a) (pointRank b)
  else
    let fuel := a.length + b.length + 2
    let bareA := bareLength fuel 0 0 a
    let bareB := bareLength fuel 0 0 b
    let bare := orderPieces fuel (a.take bareA) (b.take bareB)
    if bare != .eq then bare else orderPieces fuel a b

end LineShell.Text.Version
