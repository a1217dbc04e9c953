import LineShell.Number.Total
import LineShell.Text.ClusterClass

/-!
# Clusters of characters

- **`clusters`** cuts a text into what a reader takes for its characters, by the rules of the
  Unicode standard for extended grapheme clusters.
- **`applyBackspaces`** carries out the backspaces in a text: each takes back the cluster before
  it.
-/

namespace LineShell.Text

/-- How far a conjunct of consonants has come. -/
inductive Conjunct where
  /-- None has begun. -/
  | none
  /-- A consonant has begun one. -/
  | begun
  /-- A linker has come after the consonant. -/
  | linked
  deriving DecidableEq, Repr, Inhabited

/-- How far a sequence of pictographs has come. -/
inductive Pictures where
  /-- None has begun. -/
  | none
  /-- A pictograph has begun one. -/
  | begun
  /-- A joiner has come after the pictograph. -/
  | joined
  deriving DecidableEq, Repr, Inhabited

/-- What matters of the characters before a place. -/
structure ClusterState where
  /-- The class of the last one. -/
  last : ClusterClass
  /-- An odd number of regional signs comes last. -/
  oddRegional : Bool
  /-- The sequence of pictographs at the end. -/
  pictures : Pictures
  /-- The conjunct at the end. -/
  conjunct : Conjunct

namespace ClusterState

/-- What matters of a character behind the given ones, whether or not it begins a cluster. -/
def after (before : Option ClusterState) (c : Char) : ClusterState :=
  let kind := c.clusterClass
  let pictures := (before.map ClusterState.pictures).getD .none
  let conjunct := (before.map ClusterState.conjunct).getD .none
  { last := kind
    oddRegional := kind == .regional && !(before.any ClusterState.oddRegional)
    pictures :=
      if c.isPictograph then .begun
      else if kind == .extend && pictures == .begun then .begun
      else if kind == .joiner && pictures == .begun then .joined
      else .none
    conjunct :=
      if c.isConsonant then .begun
      else if conjunct == .none then .none
      else if c.isLinker then .linked
      else if (kind == .extend || kind == .joiner) && c.toNat != 0x200C then conjunct
      else .none }

/-- A character stands alone. -/
def isAlone (kind : ClusterClass) : Bool :=
  kind == .control || kind == .return || kind == .lineFeed

/-- No cluster ends between the characters before and the next one. -/
def joins (before : ClusterState) (c : Char) : Bool :=
  let next := c.clusterClass
  if before.last == .return && next == .lineFeed then true
  else if isAlone before.last || isAlone next then false
  else
    (before.last == .leading && (next == .leading || next == .vowel || next == .openSyllable
        || next == .closedSyllable))
      || ((before.last == .openSyllable || before.last == .vowel)
        && (next == .vowel || next == .trailing))
      || ((before.last == .closedSyllable || before.last == .trailing) && next == .trailing)
      || next == .extend || next == .joiner || next == .spacing || before.last == .prepend
      || (before.conjunct == .linked && c.isConsonant)
      || (before.pictures == .joined && c.isPictograph)
      || (before.oddRegional && next == .regional)

end ClusterState

/-- What has been cut of a text: the clusters, the last one first, each with its last character
first, and what matters of them. -/
abbrev Cutting := Option ClusterState × List (List Char)

/-- Takes a character to the cluster under way or begins another one. -/
def Cutting.add (cutting : Cutting) (c : Char) : Cutting :=
  match cutting with
  | (some before, cluster :: done) =>
      (some (ClusterState.after before c),
        if before.joins c then (c :: cluster) :: done else [c] :: cluster :: done)
  | (_, done) => (some (ClusterState.after none c), [c] :: done)

/-- The clusters of a text. -/
def clusters (text : List Char) : List (List Char) :=
  ((text.foldl Cutting.add (none, [])).2.map List.reverse).reverse

/-- The character that takes back what is before it. -/
def backspace : Char := '\x08'

/-- A text, its last character first, without so many bytes at its end. -/
def withoutBytes (count : Nat) : List Char → List Char
  | [] => []
  | c :: rest => if count = 0 then c :: rest else withoutBytes (count - c.utf8Size) rest

/-- Takes a cluster to a text, or takes the last one back. The text has its last character first,
and beside it stand the sizes of its clusters, of which only one byte is kept. -/
def typeCluster (typed : List Char × List Nat) (cluster : List Char) : List Char × List Nat :=
  if cluster == [backspace] then
    match typed with
    | (text, size :: sizes) => (withoutBytes size text, sizes)
    | (text, []) => (text, [])
  else
    let size := Number.total (cluster.map Char.utf8Size)
    (cluster.reverse ++ typed.1, (size % 256) :: typed.2)

/-- A text after its backspaces have been carried out. -/
def applyBackspaces (text : List Char) : List Char :=
  ((clusters text).foldl typeCluster ([], [])).1.reverse

end LineShell.Text
