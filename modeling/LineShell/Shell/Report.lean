/-!
# Completion reports

What is written when a line has run: its text, and one exit code for each stage.

- **`render`** writes a report, **`emitted`** the line that holds it.
-/

namespace LineShell

/-- The outcome of a line: its text and one exit code for each stage. -/
structure Report where
  /-- The text of the line. -/
  command : String
  /-- The exit codes, in the order of the stages. -/
  codes : List Int
  deriving DecidableEq, Repr, Inhabited

namespace Report

/-- Each exit code in brackets. -/
def brackets (codes : List Int) : String :=
  String.join (codes.map fun code => "[" ++ toString code ++ "]")

/-- The text of a report. -/
def render (report : Report) : String :=
  "+ completed '" ++ report.command ++ "' " ++ brackets report.codes

/-- The line that holds a report. -/
def emitted (report : Report) : String := report.render ++ "\n"

end Report

end LineShell
