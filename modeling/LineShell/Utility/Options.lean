import LineShell.Utility.Amount
import LineShell.Utility.Base

/-!
# Options of utilities

An option is a letter behind a dash or a name behind two. Letters may share a dash, and a name may
be shortened as far as it stays unique. Options and operands may come in any order; two dashes
alone end the options.

- **`OptionTable`** lists the options of a utility.
- **`OptionTable.parse`** parts arguments into options and operands, as far as they make sense.
- **`withOptions`** reads the options of a utility one by one and reports the first thing that is
  wrong.
-/

namespace LineShell.Utility

/-- Whether an option takes a value. -/
inductive Takes where
  /-- It takes none. -/
  | nothing
  /-- It takes one. -/
  | value
  /-- It takes one that is joined to it. -/
  | joined
  deriving DecidableEq, Repr, Inhabited

/-- The options of a utility. -/
structure OptionTable where
  /-- The letters. One colon behind a letter tells that it takes a value, two that the value has to
  be joined to it. -/
  letters : String
  /-- The names, with colons of the same meaning, each with the letter that it stands for or with
  itself. -/
  names : List (String × String) := []
  /-- The first operand ends the options. -/
  strict : Bool := false

/-- Why arguments are refused. -/
inductive OptionFault where
  /-- The letter is no option. -/
  | unknown (letter : UInt8)
  /-- The option lacks its value. -/
  | lacksValue (letter : UInt8)
  /-- The name is no option. -/
  | unknownName (spelling : Bytes)
  /-- The name stands for several options. -/
  | ambiguous (spelling : Bytes) (names : List String)
  /-- The named option lacks its value. -/
  | nameLacksValue (name : String)
  /-- The named option takes no value. -/
  | nameRefusesValue (name : String)
  deriving DecidableEq, Repr, Inhabited

/-- The text of a fault. -/
def OptionFault.message : OptionFault → Bytes
  | .unknown letter => text "invalid option -- '" ++ [letter] ++ text "'"
  | .lacksValue letter => text "option requires an argument -- '" ++ [letter] ++ text "'"
  | .unknownName spelling => text "unrecognized option '--" ++ spelling ++ text "'"
  | .ambiguous spelling names =>
      text "option '--" ++ spelling ++ text "' is ambiguous; possibilities:"
        ++ names.flatMap fun name => text " '--" ++ text name ++ text "'"
  | .nameLacksValue name => text "option '--" ++ text name ++ text "' requires an argument"
  | .nameRefusesValue name => text "option '--" ++ text name ++ text "' doesn't allow an argument"

/-- An option as it was given: the letter or the name that tells which it is, and its value. -/
abbrev GivenOption := String × Option Bytes

/-- Options and operands as they were given. -/
structure Given where
  /-- The options in order, as far as they make sense. -/
  options : List GivenOption := []
  /-- The operands in order. -/
  operands : List Bytes := []
  /-- What is wrong behind the options. -/
  fault : Option OptionFault := none
  deriving Repr, Inhabited

namespace Given

/-- An option comes before the others. -/
def addOption (option : GivenOption) (given : Given) : Given :=
  { given with options := option :: given.options }

/-- An operand comes before the others. -/
def addOperand (operand : Bytes) (given : Given) : Given :=
  { given with operands := operand :: given.operands }

/-- Nothing makes sense from here on. -/
def refuse (fault : OptionFault) : Given := { fault := some fault }

end Given

namespace OptionTable

/-- What a letter among the given ones takes, if it is one of them. -/
def letterTakes? (letter : UInt8) : List Char → Option Takes
  | [] => none
  | c :: rest =>
      if c.toNat == letter.toNat && c != ':' then
        some (match rest with
          | ':' :: ':' :: _ => .joined
          | ':' :: _ => .value
          | _ => .nothing)
      else letterTakes? letter rest

/-- A name without its colons. -/
def bareName (name : String) : String := String.ofList (name.toList.filter (· != ':'))

/-- What a name takes. -/
def nameTakes (name : String) : Takes :=
  match name.toList.filter (· == ':') with
  | [] => .nothing
  | [_] => .value
  | _ => .joined

/-- The names that every utility has. -/
def sharedNames : List (String × String) := [("help", "help"), ("version", "version")]

/-- The names that a spelling can stand for. -/
def candidates (table : OptionTable) (spelling : Bytes) : List (String × String) :=
  let names := table.names ++ sharedNames
  match names.find? fun entry => text (bareName entry.1) == spelling with
  | some entry => [entry]
  | none => names.filter fun entry => spelling.isPrefixOf (text (bareName entry.1))

/-- The options of one argument behind its dash, and the letter that still lacks its value. -/
def cluster (letters : List Char) : Bytes → Except OptionFault (List GivenOption × Option UInt8)
  | [] => .ok ([], none)
  | letter :: rest =>
      let key := String.singleton (Char.ofNat letter.toNat)
      match letterTakes? letter letters with
      | none => .error (.unknown letter)
      | some .nothing =>
          (cluster letters rest).map fun (given, waiting) => ((key, none) :: given, waiting)
      | some .joined => .ok ([(key, if rest.isEmpty then none else some rest)], none)
      | some .value =>
          .ok (if rest.isEmpty then ([], some letter) else ([(key, some rest)], none))

/-- The options of one argument that come before the first letter that is none. -/
def clusterBefore (letters : List Char) : Bytes → List GivenOption
  | [] => []
  | letter :: rest =>
      if (letterTakes? letter letters) == some .nothing then
        (String.singleton (Char.ofNat letter.toNat), none) :: clusterBefore letters rest
      else []

/-- An option that is given by its name, or the name that still lacks its value. -/
def named (table : OptionTable) (argument : Bytes) :
    Except OptionFault (Except (String × String) GivenOption) :=
  let spelling := argument.takeWhile (· != 61)
  let value := if spelling.length < argument.length then
    some (argument.drop (spelling.length + 1)) else none
  match table.candidates spelling with
  | [] => .error (.unknownName argument)
  | entry :: others =>
      if others.any fun other => other.2 != entry.2 then
        .error (.ambiguous argument ((entry :: others).map fun other => bareName other.1))
      else match nameTakes entry.1, value with
        | .nothing, some _ => .error (.nameRefusesValue (bareName entry.1))
        | .value, none => .ok (.error (bareName entry.1, entry.2))
        | _, value => .ok (.ok (entry.2, value))

/-- Options and operands among arguments. -/
def parse (table : OptionTable) : List Bytes → Given
  | [] => {}
  | argument :: rest =>
      if argument == text "--" then { operands := rest }
      else if argument.take 2 == text "--" then
        match table.named (argument.drop 2) with
        | .error fault => .refuse fault
        | .ok (.ok option) => (parse table rest).addOption option
        | .ok (.error (name, key)) =>
            match rest with
            | [] => .refuse (.nameLacksValue name)
            | value :: rest => (parse table rest).addOption (key, some value)
      else if isOption argument then
        match cluster table.letters.toList argument.tail with
        | .error fault =>
            { options := clusterBefore table.letters.toList argument.tail, fault := some fault }
        | .ok (found, none) => found.foldr Given.addOption (parse table rest)
        | .ok (found, some letter) =>
            match rest with
            | [] => { options := found, fault := some (.lacksValue letter) }
            | value :: rest =>
                found.foldr Given.addOption ((parse table rest).addOption
                  (String.singleton (Char.ofNat letter.toNat), some value))
      else if table.strict then { operands := argument :: rest }
      else (parse table rest).addOperand argument

end OptionTable

/-! ## Complaints about arguments -/

/-- Why a utility does not begin its work. -/
structure Complaint where
  /-- What is written behind the name of the utility. -/
  message : Bytes
  /-- It points to the help of the utility. -/
  help : Bool := false
  /-- The exit code, if it is not the usual one. -/
  code : Option Int := none
  deriving Repr, Inhabited

/-- A complaint in a few words. -/
def refuse {α : Type} (message : Bytes) : Except Complaint α := .error { message := message }

/-- A complaint that points to the help of the utility. -/
def refuseUsage {α : Type} (message : Bytes) : Except Complaint α :=
  .error { message := message, help := true }

/-- An amount, or the complaint that a phrase begins and the value ends. -/
def amountOr {α : Type} (phrase : String) (value : Bytes) (amount : Except Amount.Fault α) :
    Except Complaint α :=
  match amount with
  | .ok amount => .ok amount
  | .error fault =>
      refuse (text phrase ++ text ": " ++ Quote.plain value ++ text fault.reason)

namespace Complaint

/-- A complaint that points to the help of the utility. -/
def usage (message : Bytes) : Complaint := { message := message, help := true }

/-- An operand should not be there. -/
def extra (operand : Bytes) : Complaint := usage (text "extra operand " ++ Quote.plain operand)

/-- An operand should be there. -/
def missing : Complaint := usage (text "missing operand")

/-- An operand should be there behind another one. -/
def missingAfter (operand : Bytes) : Complaint :=
  usage (text "missing operand after " ++ Quote.plain operand)

end Complaint

/-- One of some words that a value spells or begins, if it begins words of one meaning only. -/
def wordOf {α : Type} [BEq α] (words : List (String × α)) (value : Bytes) : Option (Option α) :=
  match words.find? fun entry => text entry.1 == value with
  | some entry => some (some entry.2)
  | none =>
      match words.filter fun entry => value.isPrefixOf (text entry.1) with
      | [] => some none
      | entry :: others => if others.all fun other => other.2 == entry.2 then some (some entry.2)
          else none

/-- The lines that show some words, those of one meaning together. -/
def wordLines {α : Type} [BEq α] (words : List (String × α)) : Bytes :=
  let spelled (name : String) : Bytes := text "'" ++ text name ++ text "'"
  (words.foldl (fun (lines, before) (name, meaning) =>
    if before == some meaning then (lines ++ text ", " ++ spelled name, before)
    else (lines ++ text "
  - " ++ spelled name, some meaning)) ([], none)).1

/-- What a value of a named option means that has to be one of some words. The exit code is the same
for all utilities if it is none of them. -/
def choice {α : Type} [BEq α] (option : String) (words : List (String × α)) (value : Bytes) :
    Except Complaint α :=
  let refusal (kind : String) : Except Complaint α :=
    .error
      { message := text kind ++ text " argument " ++ Quote.always value ++ text " for '"
          ++ text option ++ text "'\nValid arguments are:" ++ wordLines words
        help := true
        code := some 1 }
  match wordOf words value with
  | some (some meaning) => .ok meaning
  | some none => refusal "invalid"
  | none => refusal "ambiguous"

/-- Writes a complaint and gives the exit code back. -/
def report (name : Bytes) (usual : Int) (complaint : Complaint) : Prog Int := do
  complain name complaint.message
  if complaint.help then pointToHelp name
  return complaint.code.getD usual

/-- What an option does to the settings of a utility. -/
abbrev OptionEffect (σ : Type) := σ → String → Option Bytes → Except Complaint σ

/-- The settings after all the options, and the operands. -/
def OptionTable.read {σ : Type} (table : OptionTable) (settings : σ) (effect : OptionEffect σ)
    (arguments : List Bytes) : Except Complaint (σ × List Bytes) := do
  let given := table.parse arguments
  let settings ← given.options.foldlM (fun settings option =>
    effect settings option.1 option.2) settings
  match given.fault with
  | some fault => refuseUsage fault.message
  | none => return (settings, given.operands)

/-- Reads the arguments of a utility and goes on with its settings and operands, or ends after a
complaint with the given code. -/
def withOptions {σ : Type} (table : OptionTable) (failing : Int) (settings : σ)
    (effect : OptionEffect σ) (arguments : List Bytes)
    (goOn : (name : Bytes) → σ → List Bytes → Prog Int) : Prog Int :=
  let name := nameOf arguments
  match table.read settings effect arguments.tail with
  | .ok (settings, operands) => goOn name settings operands
  | .error complaint => report name failing complaint

end LineShell.Utility
