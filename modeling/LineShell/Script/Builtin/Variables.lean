import LineShell.Script.Builtin.Options
import LineShell.Script.Fields

/-!
# Variables and arguments

- **`export`**, **`readonly`**, **`makeLocals`** and **`unset`** change variables.
- **`shift`** and **`getopts`** look at the arguments.
- **`read`** gives variables the fields of a line.
-/

namespace LineShell.Script

open Activity

/-- The name and the value that a word with an equals sign spells. -/
def nameAndValue (word : Bytes) : Bytes × Option Bytes :=
  let name := word.takeWhile (· != 61)
  (name, if name.length < word.length then some (word.drop (name.length + 1)) else none)

/-- The lines that show variables, behind a word if there is one. -/
def showVariables (word : Bytes) (bindings : Store) : Activity Unit :=
  (bindings.mergeSort fun a b => Text.bytesLe a.name b.name).forM fun entry => do
    let start := if word.isEmpty then [] else word ++ [32]
    let value := match entry.value with
      | some value => 61 :: inQuotes value
      | none => []
    say (start ++ entry.name ++ value ++ [10])

/-- Changes variables that words name, some of them with new values, or shows those that are
already so. -/
def mark (exports : Bool) : Builtin := fun words => do
  let (options, operands) ← takeOptions "p" words
  if given options 'p' || operands.isEmpty then
    showVariables (words.headD []) ((← get).store.filter fun entry =>
      if exports then entry.exported else entry.fixed)
  else
    operands.forM fun word => do
      let (name, value) := nameAndValue word
      match value, (← get).store.find name with
      | none, some before =>
          modify fun known => { known with
            store := known.store.put { before with
              exported := before.exported || exports
              fixed := before.fixed || !exports } }
      | value, _ => setNamed name value { exports := exports, fixes := !exports }
  return 0

/-- Hands variables to programs. -/
def exportAll : Builtin := mark true

/-- Lets variables keep their values. -/
def readonly : Builtin := mark false

/-- Lets variables belong to the function under way. -/
def makeLocals : Builtin := fun words => do
  let (_, operands) ← takeOptions "" words
  if (← get).locals.isEmpty then failWith "not in a function"
  operands.forM fun word => do
    if word == [45] then makeOptionsLocal
    else
      let (name, value) := nameAndValue word
      if !isName name then fail (name ++ Text.bytesOf ": bad variable name")
      makeLocal name value {}
  return 0

/-- Takes away variables, or functions. -/
def unset : Builtin := fun words => do
  let (options, operands) ← takeOptions "vf" words
  let last := options.getLast?.map Prod.fst
  operands.forM fun name =>
    if last == some 102 then
      modify fun known =>
        { known with functions := known.functions.filter fun function => function.name != name }
    else setNamed name none {}
  return 0

/-! ## Options and arguments -/

/-- Shows which options are on. -/
def showOptions : Activity Unit := do
  sayText "Current option settings\n"
  let known ← get
  optionTable.forM fun (option, _) =>
    sayText (option ++ String.ofList (List.replicate (16 - option.length) ' ')
      ++ (if known.has option then "on\n" else "off\n"))

/-- Shows the options as commands that set them. -/
def showOptionCommands : Activity Unit := do
  let known ← get
  optionTable.forM fun (option, _) =>
    sayText ("set " ++ (if known.has option then "-o " else "+o ") ++ option ++ "\n")

/-- Sets an option that is given by its name. -/
def setNamedOption (name : Option Bytes) (on : Bool) : Activity Unit := do
  match name with
  | none => if on then showOptions else showOptionCommands
  | some name =>
      match optionTable.find? fun entry => Text.bytesOf entry.1 == name with
      | some (option, _) => modify fun known => known.setOption option on
      | none => fail (Text.bytesOf "Illegal option -o " ++ name)

/-- Sets an option that is given by its letter. -/
def setLetterOption (letter : UInt8) (on : Bool) : Activity Unit := do
  match optionTable.find? fun entry => entry.2.any fun c => c.toNat == letter.toNat with
  | some (option, _) => modify fun known => known.setOption option on
  | none => fail (Text.bytesOf "Illegal option -" ++ [letter])

/-- Sets the options that the letters of one word spell; names come from the words behind it. Some
letters have another meaning, which is carried out by `special`. -/
def setOptionCluster (special : UInt8 → Activity Bool) (on : Bool) :
    Bytes → List Bytes → Activity (List Bytes)
  | [], rest => return rest
  | letter :: letters, rest => do
      if ← special letter then setOptionCluster special on letters rest
      else if letter == 111 then
        setNamedOption rest.head? on
        setOptionCluster special on letters rest.tail
      else
        setLetterOption letter on
        setOptionCluster special on letters rest

/-- Sets options and arguments. -/
def setOptions : (most : Nat) → List Bytes → Activity Unit
  | 0, _ => return ()
  | most + 1, words => do
      let setArguments (arguments : List Bytes) : Activity Unit :=
        modify fun known => { known with arguments := arguments, optionPlace := (1, none) }
      match words with
      | [] => return ()
      | [45] :: rest =>
          modify fun known => (known.setOption "xtrace" false).setOption "verbose" false
          if !rest.isEmpty then setArguments rest
      | (45 :: letters) :: rest =>
          if letters == [45] then setArguments rest
          else setOptions most (← setOptionCluster (fun _ => return false) true letters rest)
      | (43 :: letters) :: rest =>
          setOptions most (← setOptionCluster (fun _ => return false) false letters rest)
      | words => setArguments words

/-- Sets options and arguments, or shows all variables. -/
def settings : Builtin := fun words => do
  if words.length ≤ 1 then
    showVariables [] ((← get).store.filter fun entry => entry.value.isSome)
  else setOptions words.length words.tail
  return 0

/-- Drops arguments from the front. -/
def shift : Builtin := fun words => do
  let count ← match words.tail with
    | [] => pure 1
    | word :: _ => numberOf word
  let known ← get
  if known.arguments.length < count then failWith "can't shift that many"
  set { known with
    arguments := known.arguments.drop count
    optionPlace := (1, none) }
  return 0

/-- Takes the next option out of some arguments. -/
def getopts : Builtin := fun words => do
  match words.tail with
  | letters :: name :: rest =>
      let known ← get
      let arguments := if rest.isEmpty then known.arguments else rest
      let (index, offset) :=
        if arguments.length + 1 < known.optionPlace.1 then (1, none) else known.optionPlace
      let silent := letters.head? == some 58
      let bare := if silent then letters.tail else letters
      let current : Bytes := match offset with
        | some offset =>
            if index ≤ 1 then [] else ((arguments[index - 2]?).getD []).drop offset
        | none => []
      let finish (index : Nat) (found : UInt8) (value : Option (Option Bytes))
          (left : Option Nat) (done : Bool) : Activity Int := do
        match value with
        | some (some value) => setVariable (Text.bytesOf "OPTARG") value
        | some none => changeVariable (Text.bytesOf "OPTARG") none {}
        | none => pure ()
        setVariable (Text.bytesOf "OPTIND") (Text.decimal index)
        setNamed name (some [found]) {}
        modify fun known => { known with optionPlace := (index, left) }
        return if done then 1 else 0
      let (index, cluster) :=
        if !current.isEmpty then (index, some current)
        else match arguments[index - 1]? with
          | some (45 :: b :: cluster) =>
              if b == 45 && cluster.isEmpty then (index + 1, none)
              else (index + 1, some (b :: cluster))
          | _ => (index, none)
      match cluster with
      | some (letter :: behind) =>
          let left := if behind.isEmpty then none
            else some (((arguments[index - 2]?).getD []).length - behind.length)
          match takesValue? bare letter with
          | none =>
              if silent then finish index 63 (some (some [letter])) left false
              else
                liftM (Prog.complain (Text.bytesOf "Illegal option -" ++ [letter, 10]))
                finish index 63 (some none) left false
          | some false => finish index letter (some (some [])) left false
          | some true =>
              if !behind.isEmpty then finish index letter (some (some behind)) none false
              else match arguments[index - 1]? with
                | some value => finish (index + 1) letter (some (some value)) none false
                | none =>
                    if silent then finish index 58 (some (some [letter])) none false
                    else
                      liftM (Prog.complain
                        (Text.bytesOf "No arg for -" ++ letter :: Text.bytesOf " option\n"))
                      finish index 63 (some none) none false
      | _ => finish index 63 none none true
  | _ => failWith "Usage: getopts optstring var [arg...]"

/-! ## Reading -/

/-- How many bytes of a file are looked at to find the end of a line. -/
def lookahead : Nat := 512

/-- Reads from standard input up to the end of a line and not beyond. The second component tells
whether the end of a line was found. -/
def readRow : Prog (Bytes × Bool) := do
  let seekable ← do
    match ← Prog.call (.kind Fd.stdin) with
    | .ok (.node status) => pure status.node.isRegular
    | _ => pure false
  Prog.iterate (fun (sofar : Bytes) => do
    match ← Prog.call (.read Fd.stdin (if seekable then lookahead else 1)) with
    | .error _ => return .inr (sofar.reverse, false)
    | .ok [] => return .inr (sofar.reverse, false)
    | .ok bytes =>
        let row := bytes.takeWhile (· != 10)
        let sofar := row.reverse ++ sofar
        if row.length < bytes.length then
          if row.length + 1 < bytes.length then
            let _ ← Prog.call (.seek Fd.stdin (.back (bytes.length - row.length - 1)))
          return .inr (sofar.reverse, true)
        else return .inl sofar) []

/-- A backslash is the last byte of a row and has kept its meaning. -/
def endsOpen (row : Bytes) : Bool :=
  (row.reverse.takeWhile (· == 92)).length % 2 == 1

/-- Reads rows as long as they end with a backslash, unless backslashes have no meaning. -/
def readRows (raw : Bool) : Activity (Bytes × Bool) :=
  iterate (fun (sofar : Bytes) => do
    let (row, complete) ← liftM readRow
    if complete && !raw && endsOpen row then return .inl (sofar ++ row ++ [10])
    else return .inr (sofar ++ row, complete)) []

/-- The stretches of a row: what stands behind a backslash is never taken apart. -/
def rowStretches (raw : Bool) : Bytes → List Stretch
  | [] => []
  | [b] => if !raw && b == 92 then [] else [⟨[.byte b false], .separators⟩]
  | b :: c :: rest =>
      if !raw && b == 92 then
        if c == 10 then rowStretches raw rest
        else ⟨[.byte c true], .none⟩ :: rowStretches raw rest
      else ⟨[.byte b false], .separators⟩ :: rowStretches raw (c :: rest)

/-- Stretches with those that stand together and are taken apart alike joined to one. -/
def joinStretches : List Stretch → List Stretch
  | [] => []
  | stretch :: rest =>
      match joinStretches rest with
      | next :: more =>
          if next.seams == stretch.seams then
            ⟨stretch.glyphs ++ next.glyphs, stretch.seams⟩ :: more
          else stretch :: next :: more
      | [] => [stretch]

/-- Gives variables the fields, and nothing to those for which none is left. -/
def assignFields : List Bytes → List Bytes → Activity Unit
  | [], _ => return ()
  | name :: names, fields => do
      setNamed name (some (fields.headD [])) {}
      assignFields names fields.tail

/-- Reads a line and gives variables its fields. It fails when there is no whole line. -/
def read : Builtin := fun words => do
  let (options, names) ← takeOptions "p:r" words
  match (options.reverse.find? fun option => option.1 == 112), ← ask (.kind Fd.stdin) with
  | some (_, prompt), .ok .terminal => liftM (Prog.complain prompt)
  | _, _ => pure ()
  if names.isEmpty then failWith "arg count"
  let raw := given options 'r'
  let (row, complete) ← readRows raw
  let stretches := joinStretches (rowStretches raw (row.filter (· != 0)))
  let fields := Fields.split (← get).separators (some names.length) stretches
  assignFields names (fields.map Glyph.bytes)
  return if complete then 0 else 1

/-! ## Words that stand for others -/

/-- Shows a word with what it stands for. -/
def showAlias (entry : Bytes × Bytes) : Activity Unit :=
  say (entry.1 ++ 61 :: inQuotes entry.2 ++ [10])

/-- Lets words stand for others, or shows what they stand for. -/
def makeAliases : Builtin := fun words => do
  if words.length ≤ 1 then
    (byRow variableRows Prod.fst (← get).aliases).forM showAlias
    return 0
  let found ← words.tail.mapM fun word => do
    let rest := (word.drop 1).dropWhile (· != 61)
    let name := word.take (word.length - rest.length)
    let aliases := (← get).aliases
    match rest with
    | _ :: value =>
        let changed :=
          if (aliases.lookup name).isSome then
            aliases.map fun entry => if entry.1 == name then (name, value) else entry
          else aliases ++ [(name, value)]
        modify fun known => { known with aliases := changed }
        return true
    | [] =>
        match aliases.lookup word with
        | some value =>
            showAlias (word, value)
            return true
        | none =>
            liftM (Prog.complain (Text.bytesOf "alias: " ++ word ++ Text.bytesOf " not found\n"))
            return false
  return if found.all id then 0 else 1

/-- Lets words stand for themselves again. -/
def unalias : Builtin := fun words => do
  let (options, names) ← takeOptions "a" words
  if given options 'a' then
    modify fun known => { known with aliases := [] }
    return 0
  let found ← names.mapM fun name => do
    let aliases := (← get).aliases
    if (aliases.lookup name).isSome then
      modify fun known => { known with aliases := aliases.filter fun entry => entry.1 != name }
      return true
    else
      liftM (Prog.complain (Text.bytesOf "unalias: " ++ name ++ Text.bytesOf " not found\n"))
      return false
  return if found.all id then 0 else 1

end LineShell.Script
