import LineShell.Text.Ascii

/-!
# Changes of permissions

Permissions are bits: reading, writing and searching for the owner, the group and all others, and
three bits above them. A change names whom it concerns and which permissions it adds, removes or
sets.

- **`Mode.parse?`** reads changes.
- **`Mode.change`** tells which permissions they lead to.
- **`Mode.shown`** writes permissions with letters, and **`Mode.octal`** as a number.
-/

namespace LineShell.Mode

/-- All bits. -/
def all : Nat := 0o7777

/-- Which permissions a change is about. -/
inductive Grant where
  /-- Certain ones. -/
  | bits (value : Nat)
  /-- Certain ones, and searching if anybody may search or the file is a directory. -/
  | bitsAndSearch (value : Nat)
  /-- Those that the file grants to some users. -/
  | copied (users : Nat)
  deriving DecidableEq, Repr, Inhabited

/-- What a change does with permissions. -/
inductive Operator where
  /-- It adds them. -/
  | add
  /-- It removes them. -/
  | remove
  /-- It grants them and no others. -/
  | set
  deriving DecidableEq, Repr, Inhabited

/-- A change of permissions. -/
structure Change where
  /-- What it does. -/
  operator : Operator
  /-- The bits of the users whom it concerns; zero if it names nobody. -/
  users : Nat
  /-- The permissions it is about. -/
  grant : Grant
  /-- The bits that are named in it. -/
  mentioned : Nat
  deriving DecidableEq, Repr, Inhabited

/-- A letter that names users, and their bits. -/
def users? (b : UInt8) : Option Nat :=
  match Char.ofNat b.toNat with
  | 'u' => some 0o4700
  | 'g' => some 0o2070
  | 'o' => some 0o1007
  | 'a' => some all
  | _ => none

/-- The sign of an operator. -/
def operator? (b : UInt8) : Option Operator :=
  match Char.ofNat b.toNat with
  | '+' => some .add
  | '-' => some .remove
  | '=' => some .set
  | _ => none

/-- A letter that names permissions, and their bits for all users. -/
def bits? (b : UInt8) : Option Nat :=
  match Char.ofNat b.toNat with
  | 'r' => some 0o444
  | 'w' => some 0o222
  | 'x' => some 0o111
  | 'X' => some 0
  | 's' => some 0o6000
  | 't' => some 0o1000
  | _ => none

/-- The union of what letters stand for. -/
def union (meaning : UInt8 → Option Nat) (letters : Bytes) : Nat :=
  letters.foldl (fun bits b => bits ||| (meaning b).getD 0) 0

/-- A digit of a number in base eight. -/
def isOctal (b : UInt8) : Bool := 48 ≤ b && b ≤ 55

/-- What a change for some users is about, and what follows it. -/
def grant? (users : Nat) (bytes : Bytes) : Option (Grant × Nat × Nat × Bytes) :=
  let digits := bytes.takeWhile isOctal
  if !digits.isEmpty then
    let value := Text.valueOf 8 digits
    let rest := bytes.drop digits.length
    if all < value || users ≠ 0 || !(rest.isEmpty || rest.head? == some 44) then none
    else some (.bits value, all, all, rest)
  else
    let copied := (bytes.head?.filter (· != 97)).bind users?
    match copied with
    | some bits =>
        let value := bits &&& 0o777
        some (.copied value, users, if users = 0 then value else users &&& value, bytes.tail)
    | none =>
        let letters := bytes.takeWhile fun b => (bits? b).isSome
        let value := union bits? letters
        let grant := if letters.contains 88 then .bitsAndSearch value else .bits value
        some (grant, users, if users = 0 then value else users &&& value,
          bytes.drop letters.length)

/-- Changes for the same users, so many at most, and what follows them. -/
def changes? (users : Nat) : (most : Nat) → Bytes → Option (List Change × Bytes)
  | most + 1, b :: rest =>
      match operator? b with
      | none => some ([], b :: rest)
      | some operator => do
          let (grant, concerned, mentioned, rest) ← grant? users rest
          let (later, rest) ← changes? users most rest
          return (⟨operator, concerned, grant, mentioned⟩ :: later, rest)
  | _, rest => some ([], rest)

/-- Changes for several users, so many at most. -/
def symbolic? : (most : Nat) → Bytes → Option (List Change)
  | 0, _ => none
  | most + 1, bytes => do
      let letters := bytes.takeWhile fun b => (users? b).isSome
      let (changes, rest) ← changes? (union users? letters) bytes.length
        (bytes.drop letters.length)
      if changes.isEmpty then none
      match rest with
      | [] => return changes
      | 44 :: rest => return changes ++ (← symbolic? most rest)
      | _ => none

/-- The changes that a text asks for: a number for all permissions, or letters. -/
def parse? (bytes : Bytes) : Option (List Change) :=
  if bytes.head?.any isOctal then
    if bytes.all isOctal && Text.valueOf 8 bytes ≤ all then
      let value := Text.valueOf 8 bytes
      let mentioned := if bytes.length < 5 then (value &&& 0o6000) ||| 0o1777 else all
      some [⟨.set, all, .bits value, mentioned⟩]
    else none
  else symbolic? (bytes.length + 1) bytes

/-- The bits that are missing from others. -/
def without (bits others : Nat) : Nat := bits &&& (all ^^^ (others &&& all))

/-- The permissions that those granted to some users are, granted to everybody. -/
def spread (bits : Nat) : Nat :=
  let part (mask : Nat) : Nat := if bits &&& mask = 0 then 0 else mask
  part 0o444 ||| part 0o222 ||| part 0o111

/-- The permissions behind one change. -/
def changeOnce (isDirectory : Bool) (mask : Nat) (mode : Nat) (change : Change) : Nat :=
  let omitted := without (if isDirectory then 0o6000 else 0) change.mentioned
  let value := match change.grant with
    | .bits value => value
    | .bitsAndSearch value =>
        if isDirectory || mode &&& 0o111 ≠ 0 then value ||| 0o111 else value
    | .copied users => spread (mode &&& users)
  let concerned := if change.users = 0 then without all mask else change.users
  let value := without (value &&& concerned) omitted
  match change.operator with
  | .add => mode ||| value
  | .remove => without mode value
  | .set =>
      let kept := (if change.users = 0 then 0 else without all change.users) ||| omitted
      (mode &&& kept) ||| value

/-- The permissions behind changes. The mask is withheld where a change names nobody. -/
def change (isDirectory : Bool) (mask : Nat) (mode : Nat) (changes : List Change) : Nat :=
  changes.foldl (changeOnce isDirectory mask) (mode &&& all)

/-- Permissions as a number in base eight with four digits. -/
def octal (mode : Nat) : Bytes :=
  [mode / 512 % 8, mode / 64 % 8, mode / 8 % 8, mode % 8].map fun n => UInt8.ofNat (48 + n)

/-- Permissions with letters. -/
def shown (mode : Nat) : Bytes :=
  let one (shift extra : Nat) (letter : Char) : List Char :=
    let bits := mode / shift % 8
    let special := mode &&& extra ≠ 0
    [if bits / 4 % 2 = 1 then 'r' else '-', if bits / 2 % 2 = 1 then 'w' else '-',
     if bits % 2 = 1 then (if special then letter else 'x')
     else if special then letter.toUpper else '-']
  Text.encode (one 64 0o4000 's' ++ one 8 0o2000 's' ++ one 1 0o1000 't')

end LineShell.Mode
