import LineShell.Utility.Stream

/-!
# Files that are written in blocks

- **`Outlet`** is an open file that is written a block at a time.
-/

namespace LineShell.Edit

/-- An open file that is written a block at a time. -/
structure Outlet where
  /-- The open file. -/
  fd : Fd
  /-- Its name in messages. -/
  name : Bytes
  /-- It is written at once. -/
  prompt : Bool := false
  /-- What is held back, the last part first. -/
  held : List Bytes := []
  /-- How many bytes that is. -/
  size : Nat := 0
  deriving Repr, Inhabited

namespace Outlet

/-- The size of a block. -/
def block : Nat := Utility.outputBuffer

/-- The outlet with nothing held back. -/
def emptied (outlet : Outlet) : Outlet := { outlet with held := [], size := 0 }

/-- Writes what is held back. That the file is not open at all counts only when it is closed. -/
def flush (outlet : Outlet) : Prog (Except Errno Outlet) := do
  if outlet.size = 0 then return .ok outlet
  match ← Prog.write outlet.fd outlet.held.reverse.flatten with
  | .ok () => return .ok outlet.emptied
  | .error errno => return if errno == .badDescriptor then .ok outlet.emptied else .error errno

/-- Takes bytes, and writes whole blocks when there is more than one. -/
def put (bytes : Bytes) (outlet : Outlet) : Prog (Except Errno Outlet) := do
  let full : Outlet :=
    { outlet with held := bytes :: outlet.held, size := outlet.size + bytes.length }
  if full.size ≤ block then return .ok full
  let whole := full.held.reverse.flatten
  let blocks := if outlet.size = 0 then full.size / block * block
    else block + (full.size - block) / block * block
  match ← Prog.write outlet.fd (whole.take blocks) with
  | .ok () => return .ok { outlet with held := [whole.drop blocks], size := full.size - blocks }
  | .error errno => return .error errno

end Outlet

end LineShell.Edit
