import LineShell.Script.Builtin.Options
import LineShell.Script.Lookup

/-!
# Directories, permissions and names

- **`cd`** and **`pwd`** deal with the directory, whose path is known as it was reached.
- **`umask`** withholds permissions from new files.
- **`describe`** tells what a name stands for.
-/

namespace LineShell.Script

open Activity

/-! ## The directory -/

/-- The path onward from a directory. Dots are left out, and two dots take back a name. -/
def onward (directory path : Bytes) : Bytes :=
  let absolute := path.head? == some Path.slash
  let start := if absolute then path else directory
  let doubled := match start with
    | 47 :: 47 :: rest => !absolute || rest.head? != some Path.slash
    | _ => false
  let split (bytes : Bytes) := (Text.cut Path.slash bytes).filter fun name => !name.isEmpty
  let names := (split path).foldl (fun names name =>
    if name == Path.here then names
    else if name == Path.up then names.dropLast
    else names ++ [name]) (if absolute then [] else split directory)
  (if doubled then [Path.slash, Path.slash] else [Path.slash])
    ++ List.intercalate [Path.slash] names

/-- The path of the directory without links. -/
def hereOrWarn : Activity Bytes := do
  match ← ask .currentDirectory with
  | .ok path => return path
  | .error errno =>
      warn (Text.bytesOf ("getcwd() failed: " ++ errno.message))
      return []

/-- The directory is known under another path, or under the one without links if none is given. -/
def settleIn (path : Option Bytes) : Activity Unit := do
  let directory ← match path with
    | some path => pure path
    | none => hereOrWarn
  modify fun known => { known with directory := directory }
  changeVariable (Text.bytesOf "PWD") (some directory) { exports := true }

/-- Moves to another directory and tells whether that is possible. -/
def moveTo (physical : Bool) (path : Bytes) : Activity Bool := do
  let before := (← get).directory
  let reached :=
    if physical || (before.isEmpty && path.head? != some Path.slash) then none
    else some (onward before path)
  match ← ask (.changeDirectory (reached.getD path)) with
  | .error _ => return false
  | .ok () =>
      changeVariable (Text.bytesOf "OLDPWD") (some before) { exports := true }
      settleIn reached
      doubtPrograms
      return true

/-- The path begins at the root or with a dot or two, so that it is not looked for elsewhere. -/
def isAnchored (path : Bytes) : Bool :=
  let first := path.takeWhile (· != Path.slash)
  path.head? == some Path.slash || first == Path.here || first == Path.up

/-- The first of some directories that holds a directory of the given name, with the path to
that. -/
def findDirectory (name : Bytes) : List Bytes → Activity (Option (Bytes × Bytes))
  | [] => return none
  | start :: rest => do
      let path := if start.isEmpty then name else start ++ Path.slash :: name
      match ← ask (.status path true) with
      | .ok status =>
          if status.node.isDirectory then return some (start, path) else findDirectory name rest
      | .error _ => findDirectory name rest

/-- The links on the way are not to be shown, as the last of some options says. -/
def isPhysical (options : List TakenOption) : Bool :=
  (options.getLast?.map Prod.fst) == some 80

/-- Moves to another directory. -/
def cd : Builtin := fun words => do
  let (options, operands) ← takeOptions "LP" words
  let known ← get
  let (target, back) := match operands with
    | [] => ((known.get? "HOME").getD [], false)
    | [45] :: _ => ((known.get? "OLDPWD").getD [], true)
    | target :: _ => (target, false)
  let name := if target.isEmpty then Path.here else target
  let starts := if isAnchored target then none else known.get? "CDPATH"
  let found ← match starts with
    | some starts => findDirectory name (Text.cut Search.separator starts)
    | none => pure none
  let (path, shown) := match found with
    | some (start, path) => (path, back || !start.isEmpty)
    | none => (name, back)
  if !(← moveTo (isPhysical options) path) then
    fail (Text.bytesOf "can't cd to " ++ name)
  if shown then say ((← get).directory ++ [10])
  return 0

/-- Shows the path of the directory. -/
def pwd : Builtin := fun words => do
  let (options, _) ← takeOptions "LP" words
  let path ← if isPhysical options then hereOrWarn else pure (← get).directory
  say (path ++ [10])
  return 0

/-! ## Permissions -/

namespace Mask

/-- The users that permissions are for, by their letters: the lowest bit of each. -/
def places : List (UInt8 × Nat) := [(97, 0o111), (117, 0o100), (103, 0o010), (111, 0o001)]

/-- What a letter permits when the given bits are permitted at first. -/
def permitted (before : Nat) (letter : UInt8) : Option Nat :=
  match Char.ofNat letter.toNat with
  | 'r' => some 4
  | 'w' => some 2
  | 'x' => some 1
  | 'u' => some (before / 64 % 8)
  | 'g' => some (before / 8 % 8)
  | 'o' => some (before % 8)
  | 'X' => some (if before &&& 0o111 != 0 then 1 else 0)
  | 's' => some 0
  | _ => none

/-- The byte says what is done with permissions. -/
def isOperator (b : UInt8) : Bool := b == 43 || b == 45 || b == 61

/-- What is permitted after permissions have been changed as letters say, looking at so many
changes at most. -/
def change (before : Nat) : (most : Nat) → (who permitted : Nat) → Bytes → Option Nat
  | 0, _, _, _ => none
  | most + 1, who, sofar, letters =>
      let users := letters.takeWhile fun b => (places.lookup b).isSome
      let who := users.foldl (fun who b => who ||| (places.lookup b).getD 0) who
      let who := if who = 0 then 0o111 else who
      match letters.drop users.length with
      | [] => none
      | operator :: rest =>
          if !isOperator operator then none
          else
            let granted := rest.takeWhile fun b => (permitted before b).isSome
            let value := granted.foldl (fun value b => value ||| (permitted before b).getD 0) 0
            let bits := value * who
            let kept := sofar &&& (0o777 ^^^ (if operator == 61 then who * 7 else bits))
            let sofar := if operator == 45 then kept else kept ||| bits
            match rest.drop granted.length with
            | [] => some sofar
            | [44] => some sofar
            | 44 :: rest => change before most 0 sofar rest
            | b :: rest => if isOperator b then change before most who sofar (b :: rest) else none

/-- What is permitted, in letters. -/
def shown (permitted : Nat) : Bytes :=
  let letters (value : Nat) : String :=
    (if value / 4 % 2 = 1 then "r" else "") ++ (if value / 2 % 2 = 1 then "w" else "")
      ++ (if value % 2 = 1 then "x" else "")
  Text.bytesOf ("u=" ++ letters (permitted / 64) ++ ",g=" ++ letters (permitted / 8) ++ ",o="
    ++ letters permitted)

/-- A number in base eight with so many digits. -/
def octal : (digits : Nat) → Nat → Bytes
  | 0, _ => []
  | digits + 1, value => octal digits (value / 8) ++ [48 + UInt8.ofNat (value % 8)]

/-- The number that digits in base eight spell. -/
def number? (bytes : Bytes) : Option Nat :=
  if bytes.all fun b => 48 ≤ b && b < 56 then
    some (bytes.foldl (fun value b => value * 8 + (b.toNat - 48)) 0)
  else none

end Mask

/-- Withholds other permissions from new files, or shows which are withheld. -/
def umask : Builtin := fun words => do
  let (options, operands) ← takeOptions "S" words
  let mask ← ask (.setMask 0)
  let _ ← ask (.setMask mask)
  let permitted := 0o777 ^^^ mask
  match operands with
  | [] =>
      say ((if given options 'S' then Mask.shown permitted else Mask.octal 4 mask) ++ [10])
  | operand :: _ =>
      if (operand.head?).any Text.isDigit then
        match Mask.number? operand with
        | some mask =>
            let _ ← ask (.setMask (mask % 0o1000))
        | none => fail (Text.bytesOf "Illegal number: " ++ operand)
      else if !operand.isEmpty then
        match Mask.change permitted operand.length 0 permitted operand with
        | some permitted =>
            let _ ← ask (.setMask (0o777 ^^^ permitted))
        | none => fail (Text.bytesOf "Illegal mode: " ++ operand)
  return 0

/-- Shows how many files may be open at once, or lets another number be. -/
def ulimit : Builtin := fun words => do
  let (options, operands) ← takeOptions "HSatfdscmlpnvwr" words
  match options.reverse.find? fun option => option.1 != 72 && option.1 != 83 with
  | some (110, _) =>
      match operands with
      | [] => say (Text.decimal (← ask .limit) ++ [10])
      | operand :: _ =>
          match Text.number? operand with
          | some limit => ask (.setLimit limit)
          | none => failWith "bad number"
  | _ => if operands.isEmpty then sayText "unlimited\n"
  return 0

/-! ## Names -/

/-- How many rows the table of commands has. -/
def commandRows : Nat := 31

/-- The path of the program that a name stands for. -/
def programPath (path : Option Bytes) (name : Bytes) (place : Nat) : Activity Bytes := do
  let path := path.getD (← get).searchPath
  return ((candidates path name)[place]?).getD name

/-- Finds programs and remembers where they are, or shows which have been found. -/
def hash : Builtin := fun words => do
  let (options, operands) ← takeOptions "r" words
  if given options 'r' then
    modify fun known => { known with located := [] }
    return 0
  if operands.isEmpty then
    (byRow commandRows Located.name (← get).located).forM fun entry => do
      say (← programPath none entry.name entry.place)
      say (if entry.stale then [42, 10] else [10])
    return 0
  let found ← operands.mapM fun name => do
    forgetProgram name
    return (← locateOrWarn true none name).isSome
  return if found.all id then 0 else 1

/-- Tells what a name stands for, in words or just by a name or a path. -/
def describe (path : Option Bytes) (inWords : Bool) (name : Bytes) : Activity Int := do
  if inWords then say name
  let tell (words short : Bytes) : Activity Int := do
    say ((if inWords then words else short) ++ [10])
    return 0
  let known ← get
  let hashed := path.isNone && known.located.any fun entry => entry.name == name
  if Token.keywords.any fun keyword => Text.bytesOf keyword == name then
    tell (Text.bytesOf " is a shell keyword") name
  else match known.aliases.lookup name with
    | some value =>
        tell (Text.bytesOf " is an alias for " ++ value)
          (Text.bytesOf "alias " ++ name ++ 61 :: inQuotes value)
    | none =>
        let reachable ← if name.contains Path.slash then do
            pure (← ask (.status name true)).toBool
          else pure true
        match reachable, ← locate true path name with
        | true, .ok (.own standing) =>
            tell (Text.bytesOf (if standing == .special then " is a special shell builtin"
              else " is a shell builtin")) name
        | true, .ok (.function _) => tell (Text.bytesOf " is a shell function") name
        | true, .ok (.program place) =>
            let target ← programPath path name place
            tell (Text.bytesOf (if hashed then " is a tracked alias for " else " is ") ++ target)
              target
        | _, _ =>
            if inWords then sayText ": not found\n"
            return 127

/-- Tells what names stand for. -/
def type : Builtin := fun words => do
  let codes ← words.tail.mapM (describe none true)
  return if codes.all (· == 0) then 0 else 127

/-- Tells what a name stands for, if that is asked; else there is nothing to do. -/
def commandNames : Builtin := fun words => do
  let (options, operands) ← takeOptions "pvV" words
  let path := if given options 'p' then some Knowledge.usualPath else none
  match operands with
  | name :: _ =>
      if given options 'v' || given options 'V' then describe path (given options 'V') name
      else return 0
  | [] => return 0

end LineShell.Script
