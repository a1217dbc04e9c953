import LineShell.Number.Total
import LineShell.Utility.Options

/-!
# Replacing characters

`tr` replaces, deletes or thins out the bytes of a set. A set is described by characters, ranges,
classes and repetitions.

- **`SetItem.ofDescription`** reads the description of a set.
- **`Change.ofSets`** makes of two sets what is done to bytes.
- **`tr`** changes standard input.
-/

namespace LineShell.Utility.Translate

/-! ## Descriptions -/

/-- A byte of a description, and whether it stood behind a backslash. -/
structure Mark where
  /-- The byte. -/
  byte : UInt8
  /-- It stood behind a backslash. -/
  escaped : Bool := false
  deriving DecidableEq, Repr, Inhabited

/-- The mark is a byte that stood for itself. -/
def Mark.is (mark : Mark) (b : UInt8) : Bool := mark.byte == b && !mark.escaped

/-- The byte that a letter behind a backslash stands for. -/
def escapeOf (b : UInt8) : UInt8 :=
  match Char.ofNat b.toNat with
  | 'a' => 7
  | 'b' => 8
  | 'f' => 12
  | 'n' => 10
  | 'r' => 13
  | 't' => 9
  | 'v' => 11
  | _ => b

/-- The byte is an octal digit. -/
def isOctal (b : UInt8) : Bool := 48 ≤ b && b ≤ 55

/-- The value of up to three octal digits that is a byte, how many digits that took, and the
warning about digits that could have been taken too. -/
def octalAt (bytes : Bytes) : UInt8 × Nat × Option Bytes :=
  let digits := (bytes.take 3).takeWhile isOctal
  let value := Text.valueOf 8 digits
  if value < 256 then (UInt8.ofNat value, digits.length, none)
  else
    let first := digits.take 2
    let last := digits.drop 2
    (UInt8.ofNat (Text.valueOf 8 first), 2,
      some (text "warning: the ambiguous octal escape \\" ++ digits
        ++ text " is being\n\tinterpreted as the 2-byte sequence \\0"
        ++ first ++ text ", " ++ last))

/-- The marks of a description, and the warnings about it, looking at so many bytes at most. -/
def marksUpTo : (fuel : Nat) → Bytes → List Mark × List Bytes
  | 0, _ => ([], [])
  | _, [] => ([], [])
  | fuel + 1, 92 :: rest =>
      match rest with
      | [] => ([⟨92, false⟩],
          [text "warning: an unescaped backslash at end of string is not portable"])
      | b :: more =>
          if isOctal b then
            let (byte, width, warning) := octalAt rest
            let (marks, warnings) := marksUpTo fuel (rest.drop width)
            (⟨byte, true⟩ :: marks, warning.toList ++ warnings)
          else
            let (marks, warnings) := marksUpTo fuel more
            (⟨escapeOf b, true⟩ :: marks, warnings)
  | fuel + 1, b :: rest =>
      let (marks, warnings) := marksUpTo fuel rest
      (⟨b, false⟩ :: marks, warnings)

/-- The marks of a description, and the warnings about it. -/
def marksOf (description : Bytes) : List Mark × List Bytes :=
  marksUpTo (description.length + 1) description

/-- An element of the description of a set. -/
inductive SetItem where
  /-- A byte. -/
  | byte (b : UInt8)
  /-- The bytes from one to another. -/
  | range (first last : UInt8)
  /-- The bytes of a class. -/
  | named (name : String)
  /-- The bytes that are sorted with a byte. -/
  | equivalent (b : UInt8)
  /-- A byte several times, or as often as needed. -/
  | repeated (b : UInt8) (count : Option Nat)
  deriving DecidableEq, Repr, Inhabited

/-- A byte as it is shown in messages. -/
def shown (b : UInt8) : Bytes := if Text.isPrint b then [b] else Quote.octal b

/-- The bytes of marks. -/
def bytesOf (marks : List Mark) : Bytes := marks.map Mark.byte

/-- What stands up to a closing pair, and what follows it. -/
def closing? (delimiter : UInt8) : (before : List Mark) → List Mark →
    Option (List Mark × List Mark)
  | before, mark :: next :: rest =>
      if mark.is delimiter && next.is 93 then some (before.reverse, rest)
      else closing? delimiter (mark :: before) (next :: rest)
  | _, _ => none

/-- A star, digits and a closing bracket come next. -/
def isStarred : List Mark → Bool
  | mark :: rest =>
      mark.is 42
        && ((rest.dropWhile fun digit => Text.isDigit digit.byte).head?).any fun m => m.is 93
  | [] => false

/-- How a repetition can be read. -/
inductive Repetition where
  /-- There is none. -/
  | missing
  /-- A byte, how often it comes, and what follows. -/
  | found (b : UInt8) (count : Option Nat) (rest : List Mark)
  /-- The number makes no sense. -/
  | malformed (digits : Bytes)

/-- The greatest number of repetitions. -/
def mostRepetitions : Nat := Nat.pow 2 64 - 2

/-- Reads a repetition behind its opening bracket. -/
def repetition (marks : List Mark) : Repetition :=
  match marks with
  | b :: star :: rest =>
      if !star.is 42 then .missing
      else
        let digits := rest.takeWhile fun mark => !mark.escaped && mark.byte != 93
        match rest.drop digits.length with
        | close :: left =>
            if !close.is 93 then .missing
            else
              let number := bytesOf digits
              let base := if number.head? == some 48 then 8 else 10
              if number.isEmpty then .found b.byte none left
              else if number.all fun digit => (Text.digitValue? base digit).isSome then
                let count := Text.valueOf base number
                if mostRepetitions < count then .malformed number
                else .found b.byte (if count = 0 then none else some count) left
              else .malformed number
        | [] => .missing
  | _ => .missing

/-- The construct that begins with a bracket, and what follows it, if there is one. -/
def construct (marks : List Mark) : Except Bytes (Option (SetItem × List Mark)) :=
  let repeatedOr : Except Bytes (Option (SetItem × List Mark)) :=
    match repetition marks with
    | .missing => .ok none
    | .found b count rest => .ok (some (.repeated b count, rest))
    | .malformed digits =>
        .error (text "invalid repeat count " ++ Quote.plain digits
          ++ text " in [c*n] construct")
  match marks with
  | kind :: rest =>
      if kind.is 58 || kind.is 61 then
        match closing? kind.byte [] rest with
        | none => repeatedOr
        | some (inner, left) =>
            let name := bytesOf inner
            if kind.is 58 then
              if name.isEmpty then .error (text "missing character class name '[::]'")
              else if (Text.inClass? (Text.textOf name)).isSome then
                .ok (some (.named (Text.textOf name), left))
              else if isStarred rest then repeatedOr
              else .error (text "invalid character class " ++ Quote.plain name)
            else match name with
              | [] => .error (text "missing equivalence class character '[==]'")
              | [b] => .ok (some (.equivalent b, left))
              | _ =>
                  if isStarred rest then repeatedOr
                  else .error (name
                    ++ text ": equivalence class operand must be a single character")
      else repeatedOr
  | [] => .ok none

/-- The elements of a description, looking at so many marks at most. -/
def itemsUpTo : (fuel : Nat) → List Mark → Except Bytes (List SetItem)
  | 0, _ => .ok []
  | fuel + 1, a :: b :: c :: rest => do
      let found ← if a.is 91 then construct (b :: c :: rest) else .ok none
      match found with
      | some (item, left) => return item :: (← itemsUpTo fuel left)
      | none =>
          if b.is 45 then
            if c.byte < a.byte then
              throw (text "range-endpoints of '" ++ shown a.byte ++ text "-" ++ shown c.byte
                ++ text "' are in reverse collating sequence order")
            return .range a.byte c.byte :: (← itemsUpTo fuel rest)
          else return .byte a.byte :: (← itemsUpTo fuel (b :: c :: rest))
  | _ + 1, marks => .ok (marks.map fun mark => .byte mark.byte)

/-- The elements of a description, or what is wrong with it. -/
def SetItem.ofDescription (marks : List Mark) : Except Bytes (List SetItem) :=
  itemsUpTo (marks.length + 1) marks

/-! ## Sets -/

/-- What the case of letters has to do with an element. -/
inductive LetterCase where
  /-- Nothing. -/
  | none
  /-- It stands for all capital letters. -/
  | upper
  /-- It stands for all small letters. -/
  | lower
  deriving DecidableEq, Repr, Inhabited

/-- The bytes of a class. -/
def membersOf (name : String) : Bytes :=
  match Text.inClass? name with
  | some test => Text.allBytes.filter test
  | none => []

/-- How often a byte is repeated at most; no set is larger. -/
def enough : Nat := 65536

namespace SetItem

/-- The bytes that an element stands for. -/
def bytes : SetItem → Bytes
  | .byte b => [b]
  | .range first last => Text.byteRange first.toNat last.toNat
  | .named name => membersOf name
  | .equivalent b => [b]
  | .repeated b count => List.replicate (min enough (count.getD 0)) b

/-- How many bytes an element stands for. -/
def length : SetItem → Nat
  | .repeated _ count => count.getD 0
  | item => item.bytes.length

/-- What the case of letters has to do with an element. -/
def letterCase : SetItem → LetterCase
  | .named "upper" => .upper
  | .named "lower" => .lower
  | _ => .none

/-- The element is a class. -/
def isClass : SetItem → Bool
  | .named _ => true
  | _ => false

/-- The element is repeated as often as needed. -/
def isOpen : SetItem → Bool
  | .repeated _ none => true
  | _ => false

/-- The element is a byte and those sorted with it. -/
def isEquivalent : SetItem → Bool
  | .equivalent _ => true
  | _ => false

end SetItem

/-- The bytes of a list of elements. -/
def allBytesOf (items : List SetItem) : Bytes := items.flatMap SetItem.bytes

/-- How many bytes a list of elements stands for. -/
def lengthOf (items : List SetItem) : Nat := Number.total (items.map SetItem.length)

/-- One truth value for each byte. -/
def table (bytes : Bytes) : Array Bool :=
  bytes.foldl (fun values b => values.set! b.toNat true) (Array.replicate 256 false)

/-- The bytes that are not in a list. -/
def complementOf (bytes : Bytes) : Bytes :=
  let members := table bytes
  Text.allBytes.filter fun b => !members.getD b.toNat false

/-! ## Changes -/

/-- What is asked for. -/
structure Settings where
  /-- The first set is all that is not in its description. -/
  complement : Bool := false
  /-- Bytes of the first set are deleted. -/
  deletes : Bool := false
  /-- Bytes that follow themselves are left out. -/
  squeezes : Bool := false
  /-- The first set is cut to the length of the second one. -/
  truncates : Bool := false
  deriving DecidableEq, Repr, Inhabited

/-- What is done to bytes. -/
structure Change where
  /-- What each byte becomes, if it is not deleted. -/
  images : Array (Option UInt8)
  /-- The bytes that do not follow themselves. -/
  squeezed : Array Bool

/-- A byte of a set, in the place it has there. -/
structure Member where
  /-- The byte. -/
  byte : UInt8
  /-- The number of the element it belongs to. -/
  item : Nat
  /-- What the case of letters has to do with that. -/
  letterCase : LetterCase
  deriving DecidableEq, Repr, Inhabited

/-- The bytes of elements in their places. -/
def membersIn (items : List SetItem) : List Member :=
  items.zipIdx.flatMap fun (item, number) =>
    item.bytes.map fun b => ⟨b, number, item.letterCase⟩

/-- The bytes behind those of the present element. -/
def nextItem (members : List Member) : List Member :=
  match members with
  | first :: _ => members.dropWhile fun member => member.item == first.item
  | [] => []

/-- Pairs of bytes of two sets, of which the first one becomes the second one. Where letters of
one case stand against those of the other, each becomes its counterpart. -/
def pairs : (fuel : Nat) → List Member → List Member → List (UInt8 × UInt8)
  | 0, _, _ => []
  | fuel + 1, a :: restA, b :: restB =>
      match a.letterCase, b.letterCase with
      | .lower, .upper =>
          (membersOf "lower").map (fun c => (c, Text.upper c))
            ++ pairs fuel (nextItem (a :: restA)) (nextItem (b :: restB))
      | .upper, .lower =>
          (membersOf "upper").map (fun c => (c, Text.lower c))
            ++ pairs fuel (nextItem (a :: restA)) (nextItem (b :: restB))
      | _, _ => (a.byte, b.byte) :: pairs fuel restA restB
  | _ + 1, _, _ => []

/-- What is wrong with the places of letters of one case, given whether the last bytes began
elements, and the lengths of the sets without such letters. -/
def alignment : (fuel : Nat) → (newA newB : Bool) → List Member → List Member →
    (lengthA lengthB : Int) → Except Bytes (Int × Int)
  | 0, _, _, _, _, lengthA, lengthB => .ok (lengthA, lengthB)
  | fuel + 1, newA, newB, a, b, lengthA, lengthB =>
      let caseOf (members : List Member) : LetterCase :=
        (members.head?.map Member.letterCase).getD .none
      let isNew (before after : List Member) : Bool :=
        (before.head?.map Member.item) != (after.head?.map Member.item)
      if newB && caseOf b != .none && !(newA && caseOf a != .none) then
        .error (text "misaligned [:upper:] and/or [:lower:] construct")
      else if a.isEmpty || b.isEmpty then .ok (lengthA, lengthB)
      else if caseOf b != .none then
        alignment fuel true true (nextItem a) (nextItem b) (lengthA - 25) (lengthB - 25)
      else
        alignment fuel (isNew a a.tail) (isNew b b.tail) a.tail b.tail lengthA lengthB

/-- The second set with its last byte repeated until it is as long as the first one. -/
def extended (items : List SetItem) (missing : Nat) : Except Bytes (List SetItem) :=
  match items.getLast? with
  | none => .error (text "when not truncating set1, string2 must be non-empty")
  | some (.named _) =>
      .error (text "when translating with string1 longer than string2,\nthe latter string must "
        ++ text "not end with a character class")
  | some item => .ok (items ++ [.repeated (item.bytes.getLast?.getD 0) (some missing)])

/-- The second set when it is to be put in the place of the first one. -/
def fitted (settings : Settings) (first second : List SetItem) : Except Bytes (List SetItem) := do
  let own := lengthOf first
  let length := if settings.complement then (complementOf (allBytesOf first)).length else own
  let filled := second.map fun item => match item with
    | .repeated b none => .repeated b (some (length - lengthOf second))
    | item => item
  if 1 < (second.filter SetItem.isOpen).length then
    throw (text "only one [c*] repeat construct may appear in string2")
  if second.any SetItem.isEquivalent then
    throw (text "[=c=] expressions may not appear in string2 when translating")
  if second.any fun item => item.isClass && item.letterCase == .none then
    throw (text "when translating, the only character classes that may appear in\nstring2 are "
      ++ text "'upper' and 'lower'")
  let (lengthA, lengthB) ←
    if settings.complement || !second.any SetItem.isClass then
      pure ((length : Int), (lengthOf filled : Int))
    else
      alignment (length + lengthOf filled + 2) true true (membersIn first) (membersIn filled)
        length (lengthOf filled)
  let result ←
    if lengthA ≤ lengthB || settings.truncates then pure filled
    else extended filled (lengthA - lengthB).toNat
  if settings.complement && first.any SetItem.isClass
      && !(lengthOf result == length && ((allBytesOf result).eraseDups).length ≤ 1) then
    throw (text "when translating with complemented character classes,\nstring2 must map all "
      ++ text "characters in the domain to one")
  return result

/-- Each byte as it stands, but for some that become others. -/
def imagesOf (changes : List (UInt8 × UInt8)) : Array (Option UInt8) :=
  changes.foldl (fun images (b, image) => images.set! b.toNat (some image))
    (Text.allBytes.map some).toArray

/-- What is done to bytes, given one set or two. -/
def Change.ofSets (settings : Settings) (first : List SetItem) (second : Option (List SetItem)) :
    Except Bytes Change := do
  if first.any SetItem.isOpen then
    throw (text "the [c*] repeat construct may not appear in string1")
  let listed := allBytesOf first
  let domain := if settings.complement then complementOf listed else listed
  let deleting : Array (Option UInt8) :=
    (table domain).zipIdx.map fun (member, b) => if member then none else some (UInt8.ofNat b)
  match second with
  | none =>
      if settings.deletes then return ⟨deleting, table []⟩
      else return ⟨imagesOf [], table domain⟩
  | some second =>
      if settings.deletes then
        if second.any SetItem.isOpen then
          throw (text "the [c*] construct may appear in string2 only when translating")
        return ⟨deleting, table (allBytesOf second)⟩
      let second ← fitted settings first second
      let changes :=
        if settings.complement then domain.zip (allBytesOf second)
        else pairs (listed.length + 1) (membersIn first) (membersIn second)
      return ⟨imagesOf changes,
        table (if settings.squeezes then allBytesOf second else [])⟩

/-- The last byte that was written, and what is written for some bytes. -/
def Change.feed (change : Change) (last : Option UInt8) (bytes : Bytes) : Option UInt8 × Bytes :=
  let (last, written) := bytes.foldl (fun (last, written) b =>
    match (change.images[b.toNat]?).join with
    | none => (last, written)
    | some image =>
        if last == some image && change.squeezed.getD image.toNat false then (last, written)
        else (some image, image :: written)) (last, [])
  (last, written.reverse)

/-- The options. -/
def options : OptionTable where
  letters := "AcCdst"
  names :=
    [("complement", "c"), ("delete", "d"), ("squeeze-repeats", "s"), ("truncate-set1", "t")]
  strict := true

/-- The effect of an option. -/
def effect : OptionEffect Settings := fun settings key _ =>
  .ok (match key with
    | "c" | "C" => { settings with complement := true }
    | "d" => { settings with deletes := true }
    | "s" => { settings with squeezes := true }
    | "t" => { settings with truncates := true }
    | _ => settings)

/-- The complaint about too few or too many operands. -/
def operandFault? (settings : Settings) (operands : List Bytes) : Option Complaint :=
  let least := if settings.deletes == settings.squeezes then 2 else 1
  let most := if settings.deletes && !settings.squeezes then 1 else 2
  match operands with
  | [] => some .missing
  | first :: _ =>
      if operands.length < least then
        some (.usage (text "missing operand after " ++ Quote.plain first ++ text
          (if settings.squeezes then
            "\nTwo strings must be given when both deleting and squeezing repeats."
           else "\nTwo strings must be given when translating.")))
      else if most < operands.length then
        some (.usage (text "extra operand " ++ Quote.plain (operands.getD most []) ++ text
          (if operands.length = 2 then
            "\nOnly one string may be given when deleting without squeezing repeats."
           else "")))
      else none

/-- The elements of descriptions, after the warnings about them, or nothing after a complaint. -/
def readSets (name : Bytes) : List Bytes → Prog (Option (List (List SetItem)))
  | [] => pure (some [])
  | description :: rest => do
      let (marks, warnings) := marksOf description
      complainEach name warnings
      match SetItem.ofDescription marks with
      | .error message =>
          complain name message
          return none
      | .ok items => return (← readSets name rest).map (items :: ·)

/-- Changes standard input as it comes. -/
def run (name : Bytes) (change : Change) : Prog Int :=
  Prog.iterate (fun (last : Option UInt8) => do
    match ← Prog.call (.read Fd.stdin 65536) with
    | .error errno =>
        complainOf name (text "read error") errno
        return .inr 1
    | .ok [] => return .inr 0
    | .ok bytes =>
        let (last, written) := change.feed last bytes
        let result ← if written.isEmpty then pure (.ok ()) else Prog.write Fd.stdout written
        match result with
        | .ok () => return .inl last
        | .error errno =>
            complainOf name (text "write error") errno
            return .inr 1) none

end Translate

/-- Replaces, deletes or thins out bytes of standard input. -/
def tr : Utility := fun arguments =>
  withOptions Translate.options 1 {} Translate.effect arguments fun name settings operands => do
    match Translate.operandFault? settings operands with
    | some complaint => report name 1 complaint
    | none =>
        match ← Translate.readSets name operands with
        | none => return 1
        | some sets =>
            match Translate.Change.ofSets settings (sets.headD []) sets.tail.head? with
            | .error message =>
                complain name message
                return 1
            | .ok change => Translate.run name change

end LineShell.Utility
