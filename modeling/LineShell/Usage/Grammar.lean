import LineShell.Usage.Number

/-!
# The arguments of a command

What a command accepts behind its name, and how its arguments are read.

- **`Grammar`** says which options and operands a command takes.
- **`parse`** reads arguments from left to right: `--help` and `help` ask for help, `--` ends the
  options, and the first argument that does not fit is reported.
-/

namespace LineShell.Usage

/-- What follows an option. -/
inductive OptionShape where
  /-- Nothing: the option is on when it is given. -/
  | switch
  /-- A text. -/
  | text
  /-- A number. -/
  | number
  deriving DecidableEq, Repr, Inhabited

/-- An option. -/
structure OptionRule where
  /-- Its name, dashes included. -/
  name : String
  /-- What it does. -/
  description : String
  /-- What follows it. -/
  shape : OptionShape
  deriving DecidableEq, Repr, Inhabited

/-- How many operands a command takes. -/
inductive OperandRule where
  /-- None. -/
  | none
  /-- One that may be left out; its name and what it stands for. -/
  | optional (name description : String)
  /-- Any number, the first of which ends the options; what they are called. -/
  | greedy (name : String)
  deriving DecidableEq, Repr, Inhabited

/-- What a command accepts. -/
structure Grammar where
  /-- The name of the command. -/
  command : String
  /-- What it does. -/
  description : String
  /-- Its operands. -/
  operands : OperandRule := .none
  /-- Its options. -/
  options : List OptionRule := []
  deriving DecidableEq, Repr, Inhabited

/-- The arguments as they were read. -/
structure Parsed where
  /-- The operands in order. -/
  operands : List String := []
  /-- The switches that are on. -/
  switches : List String := []
  /-- The values of the other options. -/
  values : List (String × String) := []
  deriving DecidableEq, Repr, Inhabited

/-- Why arguments are refused. -/
inductive UsageFault where
  /-- An argument fits nowhere. -/
  | unrecognized (argument : String)
  /-- An option stands behind a request for help. -/
  | trailing
  /-- An option lacks its value. -/
  | noValue (option : String)
  /-- An option is given a second value. -/
  | duplicate (option value : String)
  /-- The value of an option is no number. -/
  | badNumber (option value : String) (fault : NumberFault)
  deriving DecidableEq, Repr, Inhabited

/-- The text of a fault, which ends its own line except for one. -/
def UsageFault.message : UsageFault → String
  | .unrecognized argument => "Unrecognized argument: " ++ argument ++ "\n"
  | .trailing => "Trailing arguments are not allowed after `help`."
  | .noValue option => "No value provided for option '" ++ option ++ "'.\n"
  | .duplicate option value =>
      "Error parsing option '" ++ option ++ "' with value '" ++ value
        ++ "': duplicate values provided\n"
  | .badNumber option value fault =>
      "Error parsing option '" ++ option ++ "' with value '" ++ value ++ "': " ++ fault.message
        ++ "\n"

/-- What comes of reading arguments. -/
inductive Reading where
  /-- They were understood. -/
  | understood (parsed : Parsed)
  /-- They ask for help. -/
  | help
  /-- They are refused. -/
  | refused (fault : UsageFault)
  deriving DecidableEq, Repr, Inhabited

namespace Grammar

/-- The arguments that ask for help. -/
def asksForHelp (argument : String) : Bool := argument == "--help" || argument == "help"

/-- Takes an operand, or refuses it. The second component tells that options have ended. -/
def takeOperand (grammar : Grammar) (parsed : Parsed) (argument : String) :
    Except UsageFault (Parsed × Bool) :=
  let taken := { parsed with operands := parsed.operands ++ [argument] }
  match grammar.operands with
  | .none => .error (.unrecognized argument)
  | .optional .. =>
      if parsed.operands.isEmpty then .ok (taken, false) else .error (.unrecognized argument)
  | .greedy _ => .ok (taken, true)

/-- Takes the value of an option, or refuses it. -/
def takeValue (rule : OptionRule) (parsed : Parsed) (value : String) :
    Except UsageFault Parsed :=
  let taken := { parsed with values := parsed.values ++ [(rule.name, value)] }
  if (parsed.values.lookup rule.name).isSome then .error (.duplicate rule.name value)
  else match rule.shape, number value with
    | .number, .error fault => .error (.badNumber rule.name value fault)
    | _, _ => .ok taken

/-- Reads arguments behind what has been read. -/
def parseFrom (grammar : Grammar) : (help ended : Bool) → Parsed → List String → Reading
  | help, _, parsed, [] => if help then .help else .understood parsed
  | help, ended, parsed, argument :: rest =>
      if !ended && asksForHelp argument then parseFrom grammar true ended parsed rest
      else if !ended && argument.startsWith "-" then
        if argument == "--" then parseFrom grammar help true parsed rest
        else if help then .refused .trailing
        else match grammar.options.find? fun rule => rule.name == argument with
          | none => .refused (.unrecognized argument)
          | some rule =>
              if rule.shape == .switch then
                parseFrom grammar help ended
                  { parsed with switches := parsed.switches ++ [rule.name] } rest
              else match rest with
                | [] => .refused (.noValue rule.name)
                | value :: rest =>
                    match takeValue rule parsed value with
                    | .error fault => .refused fault
                    | .ok parsed => parseFrom grammar help ended parsed rest
      else match grammar.takeOperand parsed argument with
        | .error fault => .refused fault
        | .ok (parsed, ends) => parseFrom grammar help (ended || ends) parsed rest

/-- Reads the arguments of a command. -/
def parse (grammar : Grammar) (arguments : List String) : Reading :=
  grammar.parseFrom false false {} arguments

end Grammar

/-- A switch is on. -/
def Parsed.on (parsed : Parsed) (name : String) : Bool := parsed.switches.contains name

/-- The value of an option. -/
def Parsed.value? (parsed : Parsed) (name : String) : Option String := parsed.values.lookup name

/-- The value of an option that takes a number. -/
def Parsed.number? (parsed : Parsed) (name : String) : Option Nat :=
  (parsed.value? name).bind fun text =>
    match number text with
    | .ok value => some value
    | .error _ => none

end LineShell.Usage
