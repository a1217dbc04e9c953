import LineShell.Edit.Basic

/-!
# Which lines a selector picks

A range begins at the lines of its first address. It ends at the next line of its bound; a bound
that is a number has been reached if that number is not greater than the line's.

- **`Selector.picks`** tells whether a line is picked, given how to ask about addresses.
-/

namespace LineShell.Edit

/-- How far a range has come. -/
inductive Phase where
  /-- It has not begun. -/
  | waiting
  /-- It has begun, and ends with a line if the number of that is known. -/
  | going (last : Option Nat)
  /-- It has ended. -/
  | ended
  deriving DecidableEq, Repr, Inhabited

namespace Selector

/-- The phase of a selector before the first line. A range from line zero has begun. -/
def start : Selector → Phase
  | .range (.line 0) _ => .going none
  | _ => .waiting

/-- The number of the line with which a range ends that begins at a line, if it is known. -/
def lastLine? (here : Nat) : Bound → Option Nat
  | .address (.line number) => some number
  | .address _ => none
  | .ahead count => some (here + count)
  | .multiple factor => some (if factor = 0 then here else (here / factor + 1) * factor)

/-- A range begins at a line: whether the line is picked, and the phase after it. -/
def begin (here : Nat) (first : Address) (last : Bound) : Bool × Phase :=
  match lastLine? here last with
  | none => (true, .going none)
  | some stop =>
      if stop ≤ here then
        (match first with
          | .line number => here ≤ stop || here == number
          | _ => true, .ended)
      else (true, .going (some stop))

/-- The line is picked, and the phase after it. -/
def picks {m : Type → Type _} [Monad m] (holds : Address → m Bool) (here : Nat) :
    Selector → Phase → m (Bool × Phase)
  | .all, phase => pure (true, phase)
  | .one address, phase => do return (← holds address, phase)
  | .range _ last, .going (some stop) =>
      let isPast := match last with
        | .address _ => stop < here
        | _ => false
      pure (!isPast, if stop ≤ here then .ended else .going (some stop))
  | .range _ (.address address), .going none => do
      return (true, if ← holds address then .ended else .going none)
  | .range _ _, .going none => pure (true, .going none)
  | .range (.line number) last, phase =>
      pure (if phase == .ended || here < number then (false, phase)
        else begin here (.line number) last)
  | .range first last, phase => do
      if ← holds first then return begin here first last
      else return (false, phase)

end Selector

end LineShell.Edit
