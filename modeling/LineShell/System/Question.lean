import LineShell.System.Program

/-!
# Questions about files

- **`FileQuestion`** is something that can be asked of a path, and **`FileQuestion.ask`** asks it.
- **`FilePair`** is something that can be asked of two paths.
-/

namespace LineShell

/-- Something that can be asked of a path. -/
inductive FileQuestion where
  /-- It leads to something. -/
  | there
  /-- It leads to a regular file. -/
  | regular
  /-- It leads to a directory. -/
  | directory
  /-- It leads to a file that is not empty. -/
  | filled
  /-- It is a symbolic link. -/
  | link
  /-- It leads to a device that takes and gives characters. -/
  | device
  /-- It leads to a pipe. -/
  | pipe
  /-- It leads to something with a permission bit. -/
  | mode (bit : Nat)
  /-- It leads to something that the user may use in the way that a permission bit allows. -/
  | usable (bit : Nat)
  /-- It leads to something that belongs to the user. -/
  | owned
  /-- It leads to nothing that there is here. -/
  | never
  deriving DecidableEq, Repr, Inhabited

namespace FileQuestion

/-- The questions by their letters. -/
def table : List (Char × FileQuestion) :=
  [('e', there), ('f', regular), ('d', directory), ('s', filled), ('h', link), ('L', link),
   ('c', device), ('p', pipe), ('u', mode 0o4000), ('g', mode 0o2000), ('k', mode 0o1000),
   ('r', usable Files.readBit), ('w', usable Files.writeBit), ('x', usable Files.searchBit),
   ('O', owned), ('G', owned), ('b', never), ('S', never)]

/-- The question that an operator asks. -/
def ofOperator? (operator : Bytes) : Option FileQuestion :=
  match operator with
  | [45, letter] => table.lookup (Char.ofNat letter.toNat)
  | _ => none

/-- A node answers the question. -/
def answers (question : FileQuestion) (node : Node) : Bool :=
  match question with
  | there | usable _ => true
  | regular => node.isRegular
  | directory => node.isDirectory
  | filled => node.size != 0
  | link => match node.content with
      | .link _ => true
      | _ => false
  | device => match node.content with
      | .device _ => true
      | _ => false
  | pipe => node.content == .pipe
  | mode bit => node.mode &&& bit != 0
  | owned => node.owned
  | never => false

/-- Asks a question of a path. -/
def ask (question : FileQuestion) (path : Bytes) : Prog Bool := do
  match question with
  | usable bit =>
      match ← Prog.call (.mayUse path bit) with
      | .ok () => return true
      | .error _ => return false
  | question =>
      match ← Prog.call (.status path (question != link)) with
      | .ok status => return question.answers status.node
      | .error _ => return false

end FileQuestion

/-- Something that can be asked of two paths. -/
inductive FilePair where
  /-- The first one leads to something that was changed later. -/
  | newer
  /-- The first one leads to something that was changed earlier. -/
  | older
  /-- Both lead to the same. -/
  | same
  deriving DecidableEq, Repr, Inhabited

namespace FilePair

/-- What an operator asks. -/
def ofOperator? (operator : Bytes) : Option FilePair :=
  match Text.textOf operator with
  | "-nt" => some newer
  | "-ot" => some older
  | "-ef" => some same
  | _ => none

/-- What two paths lead to, where they lead to something. -/
def statuses (first second : Bytes) : Prog (Option Status × Option Status) := do
  let a ← Prog.call (.status first true)
  let b ← Prog.call (.status second true)
  return (a.toOption, b.toOption)

end FilePair

end LineShell
