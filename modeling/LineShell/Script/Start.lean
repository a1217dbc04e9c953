import LineShell.Script.Run

/-!
# Starting scripts

- **`Script.sh`** is the program that runs a script: one of its arguments, a file, or what its
  standard input holds.
-/

namespace LineShell.Script

open Activity

/-! ## Variables -/

/-- The variables that every script has. -/
def usualVariables : Store :=
  [("PS4", "+ "), ("PS2", "> "), ("PS1", "$ "), ("OPTIND", "1")].map (fun (name, value) =>
      { name := Text.bytesOf name, value := some (Text.bytesOf value) })
    ++ [{ name := Text.bytesOf "PATH", value := some Knowledge.usualPath },
      { name := Text.bytesOf "IFS", value := some Knowledge.blankSeparators }]

/-- The store with another value for a variable, which is otherwise as it was. -/
def Store.revalue (store : Store) (name : String) (value : Bytes) : Store :=
  let before := (store.find (Text.bytesOf name)).getD { name := Text.bytesOf name, value := none }
  store.put { before with value := some value }

/-- The variables of a script that has got some from outside. -/
def startingStore (bindings : Variables) (parent : Pid) : Store :=
  let given := bindings.filter fun entry => isName entry.1
  let store := given.foldl (fun (store : Store) entry =>
    store.put { name := entry.1, value := some entry.2, exported := true }) usualVariables
  ((store.revalue "IFS" Knowledge.blankSeparators).revalue "OPTIND" (Text.bytesOf "1")).revalue
    "PPID" (Text.decimal parent)

/-- The path leads to the directory. -/
def leadsHere (path : Bytes) : Activity Bool := do
  match ← ask (.status path true), ← ask (.status Path.here true) with
  | .ok there, .ok here => return there.id == here.id
  | _, _ => return false

/-- Gives a script its first variables. -/
def takeVariables : Activity Unit := do
  let parent ← ask .parentId
  let pid ← ask .processId
  let bindings ← ask .bindings
  modify fun known => { known with store := startingStore bindings parent, pid := pid }
  let path := ((← get).get? "PWD").filter fun path => path.head? == some Path.slash
  match path with
  | some path => settleIn (if ← leadsHere path then some path else none)
  | none => settleIn none

/-! ## Arguments -/

/-- Takes an option that has a meaning only when a script is started. -/
def startingOption (letter : UInt8) : Activity Bool := do
  if letter == 99 then modify fun known => { known with dictated := true }
  return letter == 99 || letter == 108

/-- Sets the options at the front of the arguments, looking at so many at most, and gives back the
others. -/
def takeStartingOptions : (most : Nat) → List Bytes → Activity (List Bytes)
  | 0, words => return words
  | most + 1, words => do
      match words with
      | [45] :: rest | [45, 45] :: rest => return rest
      | (45 :: letters) :: rest =>
          takeStartingOptions most (← setOptionCluster startingOption true letters rest)
      | (43 :: letters) :: rest =>
          takeStartingOptions most (← setOptionCluster startingOption false letters rest)
      | words => return words

/-- How deep the parts of a command lie at most. -/
def deepest : Nat := 6000

/-- Runs the script that the arguments give. -/
def start (arguments : List Bytes) : Activity Unit := do
  takeVariables
  let operands ← takeStartingOptions arguments.length arguments.tail
  let go := execute deepest
  let runInput : Activity Unit := do
    let _ ← runLines go (fun _ => {}) (.ofFile Fd.stdin)
  if (← get).dictated then
    match operands with
    | [] => failWith "-c requires an argument"
    | text :: rest =>
        modify fun known => { known with
          name := rest.headD known.name
          arguments := rest.tail }
        let reads := (← get).has "stdin"
        let _ ← runText go text { last := !reads }
        if reads then runInput
  else if operands.isEmpty || (← get).has "stdin" then
    modify fun known => { known.setOption "stdin" true with arguments := operands }
    runInput
  else
    let fd ← openScript (operands.headD [])
    modify fun known => { known with
      name := operands.headD []
      arguments := operands.tail }
    let _ ← runLines go (fun _ => {}) (.ofFile fd)

/-- Runs a script. -/
def sh (arguments : List Bytes) : Prog Int := do
  let whole : Activity Unit := do
    match ← attempt (start arguments) with
    | .ok () => leave (execute deepest) .ends
    | .error stop => leave (execute deepest) stop
    let _ ← flush
  let name := arguments.headD (Text.bytesOf "sh")
  let (_, known) ← whole.run.run { name := name }
  return known.status

end LineShell.Script
