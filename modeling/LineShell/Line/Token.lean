import LineShell.Text.Blank

/-!
# Tokens of a command line

A line is scanned once, from left to right, into words, pipes and redirections. Everything that
decides what a line means works on these tokens and never on its text.

- **`next?`** reads one token: blanks are skipped, `|` is a pipe, `>` and `>>` begin a redirection,
  and anything else begins a word.
- **`scan`** reads tokens until none is left. It cannot fail: what is wrong with a line is found
  later, on the tokens.
-/

namespace LineShell

/-- What a redirection does with what its file already holds. -/
inductive WriteMode where
  /-- `>`: what the file held is dropped. -/
  | truncate
  /-- `>>`: writing goes on at the end of the file. -/
  | append
  deriving DecidableEq, Repr, Inhabited

/-- The operator that asks for a mode. -/
def WriteMode.operator : WriteMode → String
  | .truncate => ">"
  | .append => ">>"

/-- A token of a command line. -/
inductive Token where
  /-- A run of characters that are neither blank nor operators. -/
  | word (text : String)
  /-- The operator `|`. -/
  | pipe
  /-- The operator `>` or `>>` and the text after it, up to the next operator and without the
  blanks at its ends. That text may be empty, and it may hold blanks. -/
  | redirect (mode : WriteMode) (target : String)
  deriving DecidableEq, Repr, Inhabited

namespace Token

/-- The token is a word. -/
def isWord : Token → Bool
  | .word _ => true
  | _ => false

/-- The token is a redirection. -/
def isRedirect : Token → Bool
  | .redirect .. => true
  | _ => false

/-- The characters that end a word or a redirection target wherever they stand. -/
def isOperator (c : Char) : Bool := c == '|' || c == '>'

/-- The characters that words are made of. -/
def isWordChar (c : Char) : Bool := !Text.isBlank c && !isOperator c

/-- The characters that a redirection target is cut from. -/
def isTargetChar (c : Char) : Bool := !isOperator c

/-- The redirection whose operator stands right before the text, and the text after it. -/
def redirection (mode : WriteMode) (text : List Char) : Token × List Char :=
  (.redirect mode (String.ofList (Text.trim (text.takeWhile isTargetChar))),
   text.dropWhile isTargetChar)

/-- The token at the head of a text that begins with no blank, and the text after it. -/
def first? : List Char → Option (Token × List Char)
  | [] => none
  | '|' :: rest => some (.pipe, rest)
  | '>' :: '>' :: rest => some (redirection .append rest)
  | '>' :: rest => some (redirection .truncate rest)
  | c :: rest =>
      some (.word (String.ofList (c :: rest.takeWhile isWordChar)), rest.dropWhile isWordChar)

/-- The first token of a text and the text after it, or nothing when only blanks are left. -/
def next? (text : List Char) : Option (Token × List Char) := first? (text.dropWhile Text.isBlank)

/-- Dropping characters from the front never lengthens a text. -/
theorem length_dropWhile_le (keep : Char → Bool) (text : List Char) :
    (text.dropWhile keep).length ≤ text.length :=
  (List.dropWhile_sublist keep).length_le

/-- Reading a token uses up at least one character. -/
theorem length_lt_of_first? {text rest : List Char} {token : Token}
    (read : first? text = some (token, rest)) : rest.length < text.length := by
  unfold first? at read
  split at read
  · simp at read
  · simp only [Option.some.injEq, Prod.mk.injEq] at read
    simp [← read.2]
  · simp only [redirection, Option.some.injEq, Prod.mk.injEq] at read
    rw [← read.2]
    have := length_dropWhile_le isTargetChar ‹_›
    simp only [List.length_cons]
    omega
  · simp only [redirection, Option.some.injEq, Prod.mk.injEq] at read
    rw [← read.2]
    exact Nat.lt_succ_of_le (length_dropWhile_le ..)
  · simp only [Option.some.injEq, Prod.mk.injEq] at read
    rw [← read.2]
    exact Nat.lt_succ_of_le (length_dropWhile_le ..)

/-- Reading a token after blanks uses up at least one character. -/
theorem length_lt_of_next? {text rest : List Char} {token : Token}
    (read : next? text = some (token, rest)) : rest.length < text.length :=
  Nat.lt_of_lt_of_le (length_lt_of_first? read) (length_dropWhile_le ..)

/-- The tokens of a text. -/
def scan (text : List Char) : List Token :=
  match _read : next? text with
  | none => []
  | some (token, rest) => token :: scan rest
termination_by text.length
decreasing_by exact length_lt_of_next? _read

/-- The tokens of a line. -/
def ofLine (line : String) : List Token := scan line.toList

end Token

end LineShell
