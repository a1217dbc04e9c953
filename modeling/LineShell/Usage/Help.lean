import LineShell.Usage.Grammar

/-!
# Help texts

The text that explains a command: how it is called, what it does, its operands and its options.

- **`item`** lays out a name and its description in two columns.
- **`Grammar.help`** is the whole text.
-/

namespace LineShell.Usage

/-- How far the names of operands and options are indented. -/
def nameIndent : Nat := 2

/-- The column at which descriptions begin. -/
def descriptionColumn : Nat := 20

/-- The column that no line exceeds unless a word does. -/
def wrapColumn : Nat := 80

/-- So many blanks. -/
def blanks (count : Nat) : String := String.ofList (List.replicate count ' ')

/-- The line, filled up with blanks to the column of descriptions. -/
def indented (line : String) : String := line ++ blanks (descriptionColumn - line.length)

/-- Sets words behind a line, one blank between two of them, and begins another line where the
next word would not fit. -/
def fill : (line : String) → List String → List String
  | line, [] => [line]
  | line, word :: rest =>
      if wrapColumn < line.length + word.length + 1 then line :: fill (indented "" ++ word) rest
      else fill (line ++ " " ++ word) rest

/-- A name and its description, one line or more. -/
def item (name description : String) : List String :=
  let line := blanks nameIndent ++ name
  let (before, start) :=
    if line.length < descriptionColumn then ([], line) else ([line], "")
  match description.splitOn " " with
  | [] => before ++ [start]
  | word :: rest => before ++ fill (indented start ++ word) rest

/-- The placeholder for the value of an option. -/
def placeholder (rule : OptionRule) : String :=
  "<" ++ String.ofList (rule.name.toList.dropWhile (· == '-')) ++ ">"

/-- How an option looks in the line that shows how a command is called. -/
def OptionRule.shown (rule : OptionRule) : String :=
  if rule.shape == .switch then "[" ++ rule.name ++ "]"
  else "[" ++ rule.name ++ " " ++ placeholder rule ++ "]"

/-- How operands look in the line that shows how a command is called. -/
def OperandRule.shown : OperandRule → List String
  | .none => []
  | .optional name _ => ["[--]", "[<" ++ name ++ ">]"]
  | .greedy name => ["[" ++ name ++ "...]"]

/-- The part of a help text that lists the operands. -/
def OperandRule.section : OperandRule → List String
  | .optional name description => ["", "Positional Arguments:"] ++ item name description
  | _ => []

/-- The help text of a command. -/
def Grammar.help (grammar : Grammar) : String :=
  let call := String.intercalate " "
    (["Usage: " ++ grammar.command] ++ grammar.options.map OptionRule.shown
      ++ grammar.operands.shown)
  let options := grammar.options.flatMap fun rule => item rule.name rule.description
  let lines := [call, "", grammar.description] ++ grammar.operands.section
    ++ ["", "Options:"] ++ options ++ item "--help, help" "display usage information"
  String.join (lines.map fun line => line ++ "\n")

end LineShell.Usage
