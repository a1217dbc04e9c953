import LineShell.Regex.Program

/-!
# Editing scripts

A script for a stream of lines is a row of steps. Each step does something to the lines that its
selector picks.

- **`Selector`** picks lines.
- **`Command`** is what a step does.
- **`Fault`** says why a text is no script.
-/

namespace LineShell.Edit

/-- A regular expression of a script; when there is none, the one that was used last is meant. -/
abbrev Pattern := Option Regex.Program

/-- A line, or lines of a kind. -/
inductive Address where
  /-- The line with a number. -/
  | line (number : Nat)
  /-- A line, and every so many lines another one. -/
  | every (first step : Nat)
  /-- The last line. -/
  | last
  /-- The lines that hold a match. -/
  | matching (pattern : Pattern)
  deriving Repr, Inhabited

/-- Where a range of lines ends. -/
inductive Bound where
  /-- At an address. -/
  | address (address : Address)
  /-- So many lines behind its beginning. -/
  | ahead (count : Nat)
  /-- At the next line whose number is a multiple. -/
  | multiple (factor : Nat)
  deriving Repr, Inhabited

/-- The lines that a step is meant for. -/
inductive Selector where
  /-- All lines. -/
  | all
  /-- The lines of an address. -/
  | one (address : Address)
  /-- The lines from an address up to a bound. -/
  | range (first : Address) (last : Bound)
  deriving Repr, Inhabited

/-- What becomes of letters. -/
inductive LetterCase where
  /-- They stay as they are. -/
  | same
  /-- They become capital letters. -/
  | upper
  /-- They become small letters. -/
  | lower
  deriving DecidableEq, Repr, Inhabited

/-- A piece of a replacement: some text, and a group of the match behind it. -/
structure Piece where
  /-- The text. -/
  text : Bytes
  /-- What becomes of the letters of the piece. -/
  letters : LetterCase
  /-- What becomes of its first letter. -/
  first : LetterCase
  /-- The group. -/
  group : Option Nat
  deriving DecidableEq, Repr, Inhabited

/-- When the line is written after a replacement. -/
inductive Showing where
  /-- Not at all. -/
  | never
  /-- Before it has been run as a command. -/
  | early
  /-- At the end. -/
  | late
  deriving DecidableEq, Repr, Inhabited

/-- A replacement of matches. -/
structure Substitution where
  /-- What is replaced. -/
  pattern : Pattern
  /-- What takes its place. -/
  replacement : List Piece
  /-- The first match that is replaced. -/
  nth : Nat := 1
  /-- The matches behind it are replaced too. -/
  throughout : Bool := false
  /-- When the line is written then. -/
  showing : Showing := .never
  /-- The line is run as a command then. -/
  runs : Bool := false
  /-- The file to which the line is written then. -/
  output : Option Bytes := none
  deriving Repr, Inhabited

/-- When a step goes on elsewhere. -/
inductive Condition where
  /-- In any case. -/
  | always
  /-- If something has been replaced. -/
  | replaced
  /-- If nothing has been replaced. -/
  | untouched
  deriving DecidableEq, Repr, Inhabited

/-- What a step does. -/
inductive Command where
  /-- Goes on behind the block if the line is not picked. -/
  | openBlock (stop : Nat)
  /-- Ends a block, or is the place of a label. -/
  | nothing
  /-- Writes text behind the line. -/
  | append (text : Bytes)
  /-- Writes text before the line. -/
  | insert (text : Bytes)
  /-- Writes text in place of the line. -/
  | change (text : Bytes)
  /-- Goes on at a label, or at the end if the label is empty. -/
  | branch (condition : Condition) (label : Bytes)
  /-- Drops the line. -/
  | delete
  /-- Drops the first part of the line and begins again with the rest. -/
  | deleteFirst
  /-- Runs a command, or the line as one. -/
  | run (command : Option Bytes)
  /-- Writes the name of the file. -/
  | fileName
  /-- The line becomes what is kept. -/
  | recall
  /-- What is kept is added to the line. -/
  | recallBehind
  /-- The line is kept. -/
  | keep
  /-- The line is added to what is kept. -/
  | keepBehind
  /-- The line and what is kept change places. -/
  | exchange
  /-- Shows the line with everything that cannot be printed. -/
  | list (width : Option Nat)
  /-- Goes on with the next line. -/
  | next
  /-- Adds the next line. -/
  | nextBehind
  /-- Writes the line. -/
  | print
  /-- Writes the first part of the line. -/
  | printFirst
  /-- Ends after this line. -/
  | quit (code : Nat)
  /-- Ends at once. -/
  | quitSilently (code : Nat)
  /-- Writes what a file holds behind the line. -/
  | readFile (path : Bytes)
  /-- Writes the next line of a file behind the line. -/
  | readLine (path : Bytes)
  /-- Replaces matches. -/
  | substitute (substitution : Substitution)
  /-- Writes the line to a file. -/
  | write (path : Bytes)
  /-- Writes the first part of the line to a file. -/
  | writeFirst (path : Bytes)
  /-- Replaces bytes by others. -/
  | translate (table : List (UInt8 × UInt8))
  /-- Writes the number of the line. -/
  | number
  /-- Empties the line. -/
  | clear
  deriving Repr, Inhabited

/-- A step of a script. -/
structure Step where
  /-- The lines it is meant for. -/
  selector : Selector
  /-- It is meant for all other lines instead. -/
  others : Bool
  /-- What it does. -/
  command : Command
  deriving Repr, Inhabited

/-- A script. -/
structure Script where
  /-- Its steps. -/
  steps : Array Step := #[]
  /-- The steps at which labels stand, the last label first. -/
  labels : List (Bytes × Nat) := []
  deriving Repr, Inhabited

/-- Why a text is no script. -/
inductive Fault where
  | manyNegations
  | unexpectedComma
  | relativeFirst
  | openBrace
  | closeBrace
  | extraCharacters
  | expectedBackslash
  | addressedClose
  | addressedLabel
  | addressedComment
  | missingCommand
  | oneAddress
  | openAddress
  | openSubstitution
  | openTranslation
  | unknownFlag
  | manyPrints
  | manyGlobals
  | manyNumbers
  | zeroNumber
  | unequalLengths
  | newerVersion
  | lineZero
  | unknownCommand (letter : UInt8)
  | missingLabel
  | missingFile
  | unknownGroup (number : Nat)
  | flaggedNothing
  | nothingBefore
  | controlEscape
  | forbidden
  | regex (fault : Regex.Fault)
  deriving DecidableEq, Repr, Inhabited

/-- The text of a fault. -/
def Fault.message : Fault → Bytes
  | .unknownCommand letter => Text.bytesOf "unknown command: `" ++ [letter] ++ Text.bytesOf "'"
  | fault => Text.bytesOf (match fault with
      | .manyNegations => "multiple `!'s"
      | .unexpectedComma => "unexpected `,'"
      | .relativeFirst => "invalid usage of +N or ~N as first address"
      | .openBrace => "unmatched `\x7b'"
      | .closeBrace => "unexpected `\x7d'"
      | .extraCharacters => "extra characters after command"
      | .expectedBackslash => "expected \\ after `a', `c' or `i'"
      | .addressedClose => "`\x7d' doesn't want any addresses"
      | .addressedLabel => ": doesn't want any addresses"
      | .addressedComment => "comments don't accept any addresses"
      | .missingCommand => "missing command"
      | .oneAddress => "command only uses one address"
      | .openAddress => "unterminated address regex"
      | .openSubstitution => "unterminated `s' command"
      | .openTranslation => "unterminated `y' command"
      | .unknownFlag => "unknown option to `s'"
      | .manyPrints => "multiple `p' options to `s' command"
      | .manyGlobals => "multiple `g' options to `s' command"
      | .manyNumbers => "multiple number options to `s' command"
      | .zeroNumber => "number option to `s' command may not be zero"
      | .unequalLengths => "strings for `y' command are different lengths"
      | .newerVersion => "expected newer version of sed"
      | .lineZero => "invalid usage of line address 0"
      | .unknownCommand _ => ""
      | .missingLabel => "\":\" lacks a label"
      | .missingFile => "missing filename in r/R/w/W commands"
      | .unknownGroup number => s!"invalid reference \\{number} on `s' command's RHS"
      | .flaggedNothing => "cannot specify modifiers on empty regexp"
      | .nothingBefore => "no previous regular expression"
      | .controlEscape => "recursive escaping after \\c not allowed"
      | .forbidden => "e/r/w commands disabled in sandbox mode"
      | .regex fault => fault.message)

/-- A place in the texts of a script. -/
inductive Spot where
  /-- So many bytes into the text that was given with so many others. -/
  | expression (number place : Nat)
  /-- A line of a file. -/
  | file (name : Bytes) (line : Nat)
  deriving DecidableEq, Repr, Inhabited

/-- The text of a place. -/
def Spot.shown : Spot → Bytes
  | .expression number place => Text.bytesOf s!"-e expression #{number}, char {place}"
  | .file name line => Text.bytesOf "file " ++ name ++ Text.bytesOf s!" line {line}"

end LineShell.Edit
