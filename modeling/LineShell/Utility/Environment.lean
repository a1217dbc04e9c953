import LineShell.System.Search
import LineShell.Utility.Options

/-!
# The variables of a program

- **`env`** runs a program with some variables changed, or writes the variables.
- **`printenv`** writes the values of variables.
-/

namespace LineShell.Utility

namespace Environment

/-- How a program is run. -/
structure Settings where
  /-- No variable is handed on. -/
  ignoresAll : Bool := false
  /-- Variables are written with a NUL behind each. -/
  endsWithNul : Bool := false
  /-- The variables that are not handed on. -/
  unset : List Bytes := []
  /-- The directory in which the program is run. -/
  directory : Option Bytes := none
  /-- What is done is told. -/
  verbose : Bool := false
  /-- What is to be done about signals. -/
  dispositions : List (Signal × Disposition) := []
  /-- The signals that are kept from the program. -/
  blocked : List Signal := []
  /-- It is told what is done about signals. -/
  lists : Bool := false
  deriving Repr, Inhabited

/-- The options of `env`. -/
def table : OptionTable where
  letters := "C:iS:u:v0 \t\n\x0b\x0c\r"
  names :=
    [("ignore-environment", "i"), ("null", "0"), ("unset:", "u"), ("chdir:", "C"),
     ("default-signal::", "default"), ("ignore-signal::", "ignore"),
     ("block-signal::", "block"), ("list-signal-handling", "list"), ("debug", "v"),
     ("split-string:", "S")]
  strict := true

/-- The code with which a program is not run at all. -/
def cancelled : Int := 125

/-- All signals. -/
def allSignals : List Signal := (List.range (Signal.last + 1)).drop 1

/-- Nothing can be done about a signal. -/
def isFixed (signal : Signal) : Bool := signal == Signal.kill || signal == Signal.stop

/-- The signals that a value lists; all that can be helped if there is none. -/
def signalsOf (value : Option Bytes) : Except Complaint (List Signal) :=
  match value with
  | none => .ok (allSignals.filter fun signal => !isFixed signal)
  | some list =>
      ((Text.cut 44 list).filter fun word => !word.isEmpty).mapM fun word =>
        let name := Text.textOf word
        let bare := if name.startsWith "SIG" then String.ofList (name.toList.drop 3) else name
        match (Text.number? word).filter allSignals.contains <|> Signal.number? bare with
        | some signal => .ok signal
        | none => refuseUsage (Quote.plain word ++ text ": invalid signal")

/-- The effect of an option of `env`. -/
def effect : OptionEffect Settings := fun settings key value => do
  match key with
  | "i" => return { settings with ignoresAll := true }
  | "0" => return { settings with endsWithNul := true }
  | "u" => return { settings with unset := settings.unset ++ value.toList }
  | "C" => return { settings with directory := value }
  | "v" => return { settings with verbose := true }
  | "default" =>
      let signals ← signalsOf value
      return { settings with
        dispositions := settings.dispositions ++ signals.map fun signal => (signal, .default) }
  | "ignore" =>
      let signals ← signalsOf value
      return { settings with
        dispositions := settings.dispositions ++ signals.map fun signal => (signal, .ignored) }
  | "block" => return { settings with blocked := settings.blocked ++ (← signalsOf value) }
  | "list" => return { settings with lists := true }
  | " " | "\t" | "\n" | "\x0b" | "\x0c" | "\r" =>
      refuseUsage (text ("invalid option -- '" ++ key
        ++ "'\nenv: use -[v]S to pass options in shebang lines"))
  | _ => return settings

/-! ## Arguments in one text -/

/-- How a text stands between quotes. -/
inductive Quoting where
  /-- Outside. -/
  | bare
  /-- Between apostrophes. -/
  | single
  /-- Between quotation marks. -/
  | double
  deriving DecidableEq, Repr, Inhabited

/-- What has been split off a text. -/
structure Split where
  /-- The words, the last one first. -/
  words : List Bytes := []
  /-- The present word, if there is one. -/
  word : Option Bytes := none
  deriving Repr, Inhabited

/-- A byte joins the present word. -/
def Split.add (split : Split) (bytes : Bytes) : Split :=
  { split with word := some (split.word.getD [] ++ bytes) }

/-- The present word has ended. -/
def Split.finish (split : Split) : Split :=
  { words := split.word.toList ++ split.words, word := none }

/-- What a letter behind a backslash stands for in a text that is split. -/
def splitEscape? (b : UInt8) : Option UInt8 :=
  match Char.ofNat b.toNat with
  | 'f' => some 12
  | 'n' => some 10
  | 'r' => some 13
  | 't' => some 9
  | 'v' => some 11
  | '"' | '#' | '$' | '\'' | '\\' => some b
  | _ => none

/-- The name at the front of a reference to a variable in braces, and what follows it. -/
def reference? : Bytes → Option (Bytes × Bytes)
  | 123 :: rest =>
      let name := rest.takeWhile Text.isWordByte
      match rest.drop name.length with
      | 125 :: rest =>
          if name.isEmpty || name.head?.any Text.isDigit then none else some (name, rest)
      | _ => none
  | _ => none

/-- Splits a text at blanks outside quotes, looking at so many bytes at most. -/
def splitUpTo (bindings : Variables) : (most : Nat) → Quoting → Split → Bytes →
    Except Complaint (List Bytes)
  | 0, _, split, _ => .ok split.finish.words.reverse
  | _, quoting, split, [] =>
      if quoting = .bare then .ok split.finish.words.reverse
      else refuse (text "no terminating quote in -S string")
  | most + 1, quoting, split, b :: rest =>
      let goOn := splitUpTo bindings most
      if b == 39 && quoting != .double then
        goOn (if quoting = .single then .bare else .single) (split.add []) rest
      else if b == 34 && quoting != .single then
        goOn (if quoting = .double then .bare else .double) (split.add []) rest
      else if Text.isSpace b && quoting == .bare then goOn quoting split.finish rest
      else if b == 35 && quoting == .bare && split.word.isNone then
        .ok split.finish.words.reverse
      else if b == 92 && !(quoting == .single && rest.head? != some 92 && rest.head? != some 39)
      then
        match rest with
        | [] => refuse (text "invalid backslash at end of string in -S")
        | 95 :: rest =>
            if quoting = .double then goOn quoting (split.add [32]) rest
            else goOn quoting split.finish rest
        | 99 :: rest =>
            if quoting = .double then
              refuse (text "'\\c' must not appear in double-quoted -S string")
            else goOn .bare split (rest.take 0)
        | letter :: rest =>
            match splitEscape? letter with
            | some byte => goOn quoting (split.add [byte]) rest
            | none => refuse (text "invalid sequence '\\" ++ [letter] ++ text "' in -S")
      else if b == 36 && quoting != .single then
        match reference? rest with
        | none =>
            refuse (text "only $\x7bVARNAME\x7d expansion is supported, error at: "
              ++ (b :: rest))
        | some (name, rest) =>
            match bindings.lookup name with
            | some value => goOn quoting (split.add value) rest
            | none => goOn quoting split rest
      else goOn quoting (split.add [b]) rest

/-- Arguments in which the text behind the option that asks for it has been split. -/
def splitArguments (bindings : Variables) : (most : Nat) → List Bytes →
    Except Complaint (List Bytes)
  | 0, arguments => .ok arguments
  | _, [] => .ok []
  | most + 1, argument :: rest => do
      let splitInto (value : Bytes) (rest : List Bytes) : Except Complaint (List Bytes) := do
        let words ← splitUpTo bindings (value.length + 1) .bare {} value
        splitArguments bindings most (words ++ rest)
      let letters := argument.tail.takeWhile fun b => b == 105 || b == 118 || b == 48
      let named := text "--split-string="
      if argument.head? == some 45 && argument.tail.drop letters.length != []
          && argument.tail[letters.length]? == some 83 then
        let value := argument.tail.drop (letters.length + 1)
        let before := if letters.isEmpty then [] else [45 :: letters]
        if value.isEmpty then
          match rest with
          | [] => return argument :: rest
          | value :: rest => return before ++ (← splitInto value rest)
        else return before ++ (← splitInto value rest)
      else if named.isPrefixOf argument then splitInto (argument.drop named.length) rest
      else if argument == text "--split-string" then
        match rest with
        | [] => return argument :: rest
        | value :: rest => splitInto value rest
      else if argument == text "-u" || argument == text "-C" then
        return argument :: (rest.take 1 ++ (← splitArguments bindings most (rest.drop 1)))
      else if isOption argument && argument != text "--" then
        return argument :: (← splitArguments bindings most rest)
      else return argument :: rest

/-! ## Variables -/

/-- Variables, each with a byte behind it. -/
def shown (ending : UInt8) (bindings : Variables) : Bytes :=
  bindings.flatMap fun entry => entry.1 ++ text "=" ++ entry.2 ++ [ending]

/-- Sets a variable, in the place it has or behind all others. -/
def set (bindings : Variables) (name value : Bytes) : Variables :=
  if (bindings.lookup name).isSome then
    bindings.map fun entry => if entry.1 == name then (name, value) else entry
  else bindings ++ [(name, value)]

/-- Takes assignments off the front of arguments. -/
def takeAssignments : Variables → List Bytes → Variables × List Bytes
  | bindings, [] => (bindings, [])
  | bindings, argument :: rest =>
      let name := argument.takeWhile (· != 61)
      if name.length < argument.length then
        takeAssignments (set bindings name (argument.drop (name.length + 1))) rest
      else (bindings, argument :: rest)

/-- The variables that are handed on. -/
def kept (settings : Settings) (inherited : Variables) : Variables :=
  if settings.ignoresAll then []
  else inherited.filter fun entry => !settings.unset.contains entry.1

/-- Tells what is done about signals, if that is unusual. -/
def listSignals (blocked : List Signal) : Prog Unit := do
  for signal in allSignals do
    let disposition ← Prog.call (.dispose signal .ignored)
    let _ ← Prog.call (.dispose signal disposition)
    let words := (if blocked.contains signal then ["BLOCK"] else [])
      ++ if disposition == .ignored then ["IGNORE"] else []
    if !words.isEmpty then
      let title := text (Signal.name signal)
      Prog.complain (title ++ List.replicate (10 - title.length) 32 ++ text " ("
        ++ padLeft 2 (Text.decimal signal) ++ text "): " ++ text (",".intercalate words)
        ++ [newline])

/-- Does about signals what is asked, or gives the first one about which nothing can be done. What
is kept from a program has no effect on it. -/
def arrangeSignals (settings : Settings) : Prog (Option Signal) := do
  match allSignals.find? fun signal =>
      isFixed signal && settings.dispositions.any fun entry => entry.1 == signal with
  | some signal => return some signal
  | none =>
      for (signal, disposition) in settings.dispositions do
        let _ ← Prog.call (.dispose signal disposition)
      if settings.lists then listSignals (settings.blocked.filter fun signal => !isFixed signal)
      for signal in settings.blocked do
        if !isFixed signal then
          let _ ← Prog.call (.dispose signal .ignored)
      return none

/-- Becomes a program, or says why that is not possible. -/
def runProgram (name : Bytes) (settings : Settings) (bindings : Variables)
    (command : List Bytes) : Prog Int := do
  if let some signal ← arrangeSignals settings then
    complainOf name (text "failed to set signal action for signal " ++ Text.decimal signal) .invalid
    return cancelled
  if let some directory := settings.directory then
    if let .error errno ← Prog.call (.changeDirectory directory) then
      complainOf name (text "cannot change directory to " ++ Quote.always directory) errno
      return cancelled
  let program := command.headD []
  let errno ← Prog.execByNameWith bindings program command
  complainOf name (Quote.plain program) errno
  if errno != .noEntry then return 126
  if program.any Text.isSpace then
    complain name (text "use -[v]S to pass options in shebang lines")
  return 127

end Environment

open Environment in
/-- Runs a program with some variables changed, or writes the variables. -/
def env : Utility := fun arguments => do
  let name := nameOf arguments
  let inherited ← Prog.call .bindings
  match splitArguments inherited (arguments.length + 64) arguments.tail with
  | .error complaint => report name cancelled complaint
  | .ok split =>
      withOptions table cancelled {} effect (name :: split) fun name settings operands => do
        let (settings, operands) := match operands with
          | first :: rest =>
              if first == text "-" then ({ settings with ignoresAll := true }, rest)
              else (settings, operands)
          | [] => (settings, [])
        match settings.unset.find? fun name => name.isEmpty || name.contains 61 with
        | some wrong =>
            if !settings.ignoresAll then
              complainOf name (text "cannot unset " ++ Quote.plain wrong) .invalid
              return cancelled
        | none => pure ()
        let (bindings, command) := takeAssignments (kept settings inherited) operands
        if command.isEmpty then
          if settings.directory.isSome then
            report name cancelled (.usage (text "must specify command with --chdir (-C)"))
          else
            emit name (shown (if settings.endsWithNul then 0 else newline) bindings) 0
              (.plain cancelled)
        else if settings.endsWithNul then
          report name cancelled (.usage (text "cannot specify --null (-0) with command"))
        else runProgram name settings bindings command

/-- Writes the values of some variables, or all variables. -/
def printenv : Utility := fun arguments =>
  let table : OptionTable := { letters := "0", names := [("null", "0")], strict := true }
  withOptions table 2 newline (fun _ _ _ => .ok 0) arguments fun name ending operands => do
    let bindings ← Prog.call .bindings
    if operands.isEmpty then emit name (Environment.shown ending bindings) 0 (.plain 2)
    else
      let values := operands.filterMap fun key =>
        if key.contains 61 then none else bindings.lookup key
      emit name (values.flatMap fun value => value ++ [ending])
        (if values.length = operands.length then 0 else 1) (.plain 2)

end LineShell.Utility
