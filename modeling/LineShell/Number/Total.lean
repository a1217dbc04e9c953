/-!
# Totals

- **`total`** is the sum of whole numbers.
-/

namespace LineShell.Number

/-- The sum of numbers. -/
def total (numbers : List Nat) : Nat := numbers.foldl (· + ·) 0

end LineShell.Number
