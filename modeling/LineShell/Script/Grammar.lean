import LineShell.Script.Lexeme

/-!
# The grammar of scripts

A script is a row of lines, each of which holds commands and ends where no command is left open.

- **`Grammar.line`** reads a line into a command.
- **`Script.readLine`** does so from the front of a text.
-/

namespace LineShell.Script

namespace Grammar

open Reading

/-- Where a list of commands stands. -/
inductive Place where
  /-- Outside of all others; it ends with the line. -/
  | top
  /-- Inside of another command, which does not allow it to be empty. -/
  | inner
  /-- Inside of another command, which allows it to be empty. -/
  | innerOrEmpty
  deriving DecidableEq, Repr, Inhabited

/-- Where a command may begin. -/
def atCommand : Expect := { keywords := true, aliases := true }

/-- Where a command may begin, perhaps in another line. -/
def overLines : Expect := { overLines := true, keywords := true, aliases := true }

/-- The commands whose names no other command may get. -/
def reserved : List String :=
  [".", ":", "break", "continue", "eval", "exec", "exit", "export", "readonly", "return", "set",
   "shift", "times", "trap", "unset"]

/-- A command that is not waited for. -/
def apart : Command → Command
  | .pipeline stages _ => .pipeline stages true
  | .redirected line body routes => .subshell line body routes true
  | command => .subshell 0 command [] true

/-- A command behind others, if there are any. -/
def after (sofar : Option Command) (command : Command) : Command :=
  match sofar with
  | none => command
  | some before => .sequence before command

/-- The keyword that ends a command which a keyword or a parenthesis has begun. -/
def expectEnd (token : Token) (wanted : Token) : Reading Unit :=
  if token == wanted then pure () else unexpected (some wanted)

/-- A command with redirections behind it. -/
def withRoutes (line : Nat) (command : Command) (routes : List Redirection) : Command :=
  match command, routes with
  | command, [] => command
  | .subshell start body [] away, routes => .subshell start body routes away
  | command, routes => .redirected line command routes

/-- Reads the target of a redirection. -/
def target (commands : Reading Command) : Reading Redirection := do
  let (fd, route) := (← get).route
  let document := (← get).document
  let token ← Lexeme.token commands { verbatim := document.isSome }
  if token != .word then unexpected none
  let reader ← get
  match route, document with
  | .document _, some (number, outdented) =>
      let awaited : Awaited :=
        { number := number
          mark := unquoted reader.word
          literal := reader.quoted
          outdented := outdented }
      set { reader with awaited := reader.awaited ++ [awaited] }
      return (fd, route)
  | .sameAs _, _ =>
      return (fd, match plain? reader.word with
        | some [digit] =>
            if Text.isDigit digit then .same (some (digit.toNat - 48))
            else if digit = 45 then .same none
            else .sameAs reader.word
        | _ => .sameAs reader.word)
  | .file use _, _ => return (fd, .file use reader.word)
  | route, _ => return (fd, route)

/-- A simple command that is being read. -/
structure Simple where
  /-- The line where it begins. -/
  line : Nat
  /-- The assignments, the last one first. -/
  assignments : List (Bytes × Word) := []
  /-- The words, the last one first. -/
  words : List Word := []
  /-- The redirections, the last one first. -/
  routes : List Redirection := []
  deriving Inhabited

/-- The command that has been read. -/
def Simple.command (simple : Simple) : Command :=
  .simple simple.line simple.assignments.reverse simple.words.reverse simple.routes.reverse

/-- Reads words up to something that is none. -/
def wordsUpTo (commands : Reading Command) : (most : Nat) → Reading (List Word)
  | 0 => return []
  | most + 1 => do
      match ← Lexeme.token commands {} with
      | .word =>
          let word := (← get).word
          return word :: (← wordsUpTo commands most)
      | _ => return []

/-- Reads the patterns of a choice up to the parenthesis behind them. -/
def patternsUpTo (commands : Reading Command) : (most : Nat) → Reading (List Word)
  | 0 => return []
  | most + 1 => do
      let word := (← get).word
      match ← Lexeme.token commands {} with
      | .operator "|" =>
          let _ ← Lexeme.token commands {}
          return word :: (← patternsUpTo commands most)
      | _ => return [word]

/-- Reads the redirections behind a command. -/
def routesUpTo (commands : Reading Command) : (most : Nat) → Expect → Reading (List Redirection)
  | 0, _ => return []
  | most + 1, expect => do
      match ← Lexeme.token commands expect with
      | .redirection =>
          let route ← target commands
          return route :: (← routesUpTo commands most {})
      | _ =>
          putBack
          return []

mutual

/-- Reads a list of commands behind others that have been read. There is none where nothing is
left to be read. -/
def list : (depth : Nat) → Place → (sofar : Option Command) → Reading (Option Command)
  | 0, _, sofar => return sofar
  | depth + 1, place, sofar => do
      let inside := inner depth
      let ended (sofar : Option Command) : Reading (Option Command) := do
        Lexeme.documents inside
        putBack
        return if place == .top then sofar else some (sofar.getD .nothing)
      match ← Lexeme.token inside { overLines with overLines := place != .top } with
      | .newline =>
          Lexeme.documents inside
          return some (sofar.getD .nothing)
      | .endOfFile => ended sofar
      | token =>
          putBack
          let mayEnd := place == .innerOrEmpty || (place == .inner && sofar.isSome)
          if mayEnd && Token.closers.contains token then return some (sofar.getD .nothing)
          let command ← andOr depth
          match ← Lexeme.token inside {} with
          | .operator "&" => list depth place (some (after sofar (apart command)))
          | .operator ";" => list depth place (some (after sofar command))
          | .newline =>
              putBack
              list depth place (some (after sofar command))
          | .endOfFile => ended (some (after sofar command))
          | _ =>
              if place == .top then unexpected none
              putBack
              return some (after sofar command)

/-- Reads the commands that stand inside of a word. -/
def inner : (depth : Nat) → Reading Command
  | 0 => return .nothing
  | depth + 1 => do return (← list depth .innerOrEmpty none).getD .nothing

/-- Reads the commands that stand inside of another one. -/
def body : (depth : Nat) → Reading Command
  | 0 => return .nothing
  | depth + 1 => do return (← list depth .inner none).getD .nothing

/-- Reads pipelines that depend on one another. -/
def andOr : (depth : Nat) → Reading Command
  | 0 => return .nothing
  | depth + 1 => do andOrFrom depth (← pipeline depth {})

/-- Goes on with pipelines behind others. -/
def andOrFrom : (depth : Nat) → Command → Reading Command
  | 0, first => return first
  | depth + 1, first => do
      match ← Lexeme.token (inner depth) {} with
      | .operator "&&" => andOrFrom depth (.both first (← pipeline depth overLines))
      | .operator "||" => andOrFrom depth (.either first (← pipeline depth overLines))
      | _ =>
          putBack
          return first

/-- Reads commands joined by pipes. -/
def pipeline : (depth : Nat) → Expect → Reading Command
  | 0, _ => return .nothing
  | depth + 1, expect => do
      let token ← Lexeme.token (inner depth) expect
      let negated := token == .keyword "!"
      if !negated then putBack
      let first ← command depth (if negated then atCommand else {})
      let rest ← stages depth
      let joined := if rest.isEmpty then first else .pipeline (first :: rest) false
      return if negated then .negated joined else joined

/-- Reads the commands behind pipes. -/
def stages : (depth : Nat) → Reading (List Command)
  | 0 => return []
  | depth + 1 => do
      match ← Lexeme.token (inner depth) {} with
      | .operator "|" =>
          let stage ← command depth overLines
          return stage :: (← stages depth)
      | _ =>
          putBack
          return []

/-- Reads one command. -/
def command : (depth : Nat) → Expect → Reading Command
  | 0, _ => return .nothing
  | depth + 1, expect => do
      let inside := inner depth
      let line := (← get).line
      let token ← Lexeme.token inside expect
      let closed (command : Command) (wanted : Token) : Reading Command := do
        expectEnd (← Lexeme.token inside {}) wanted
        let routes ← routesUpTo inside ((← get).input.length + 1) atCommand
        return withRoutes line command routes
      match token with
      | .keyword "if" => closed (← conditional depth) (.keyword "fi")
      | .keyword "while" | .keyword "until" =>
          let condition ← body depth
          expectEnd (← Lexeme.token inside {}) (.keyword "do")
          closed (.loop (token == .keyword "until") condition (← body depth)) (.keyword "done")
      | .keyword "for" => closed (← forEach depth line) (.keyword "done")
      | .keyword "case" =>
          let _ ← Lexeme.token inside {}
          if (← get).token != .word then unexpected (some .word)
          let word := (← get).word
          expectEnd (← Lexeme.token inside overLines) (.keyword "in")
          let cases ← alternatives depth
          let routes ← routesUpTo inside ((← get).input.length + 1) atCommand
          return withRoutes line (.choose line word cases) routes
      | .operator "(" => closed (.subshell line (← body depth) [] false) (.operator ")")
      | .keyword "\x7b" => closed (← body depth) (.keyword "\x7d")
      | .word | .redirection =>
          putBack
          simple depth true { line := (← get).line }
      | _ => unexpected none

/-- Reads a conditional behind its first keyword, up to its last one. -/
def conditional : (depth : Nat) → Reading Command
  | 0 => return .nothing
  | depth + 1 => do
      let inside := inner depth
      let condition ← body depth
      expectEnd (← Lexeme.token inside {}) (.keyword "then")
      let consequence ← body depth
      match ← Lexeme.token inside {} with
      | .keyword "elif" => return .conditional condition consequence (← conditional depth)
      | .keyword "else" => return .conditional condition consequence (← body depth)
      | _ =>
          putBack
          return .conditional condition consequence .nothing

/-- Reads a loop over words behind its keyword, up to its last one. -/
def forEach : (depth : Nat) → (line : Nat) → Reading Command
  | 0, _ => return .nothing
  | depth + 1, line => do
      let inside := inner depth
      let token ← Lexeme.token inside {}
      let reader ← get
      let name := (plain? reader.word).getD []
      if token != .word || reader.quoted || !isName name then complain "Bad for loop variable"
      let words ← do
        if (← Lexeme.token inside overLines) == .keyword "in" then
          let words ← wordsUpTo inside ((← get).input.length + 1)
          let last := (← get).token
          if last != .newline && last != .operator ";" then unexpected none
          pure words
        else
          if (← get).token != .operator ";" then putBack
          pure [[.mark, .parameter [64] .value false [], .mark]]
      expectEnd (← Lexeme.token inside overLines) (.keyword "do")
      return .each line name words (← body depth)

/-- Reads the alternatives of a choice up to its last keyword. -/
def alternatives : (depth : Nat) → Reading (List Alternative)
  | 0 => return []
  | depth + 1 => do
      let inside := inner depth
      let atPattern : Expect := { overLines := true, keywords := true }
      let token ← Lexeme.token inside atPattern
      if token == .keyword "esac" then return []
      if token == .operator "(" then
        let _ ← Lexeme.token inside {}
      let patterns ← patternsUpTo inside ((← get).input.length + 1)
      if (← get).token != .operator ")" then unexpected (some (.operator ")"))
      let consequence ← inner depth
      let token ← Lexeme.token inside atPattern
      if token == .keyword "esac" then return [(patterns, consequence)]
      if token != .operator ";;" then unexpected (some (.operator ";;"))
      return (patterns, consequence) :: (← alternatives depth)

/-- Reads words, assignments, which come before the first word, and redirections. -/
def simple : (depth : Nat) → (first : Bool) → Simple → Reading Command
  | 0, _, sofar => return sofar.command
  | depth + 1, first, sofar => do
      let inside := inner depth
      match ← Lexeme.token inside { aliases := first } with
      | .word =>
          let word := (← get).word
          match if first then assignment? word else none with
          | some assignment =>
              simple depth true { sofar with assignments := assignment :: sofar.assignments }
          | none => simple depth false { sofar with words := word :: sofar.words }
      | .redirection =>
          let route ← target inside
          simple depth first { sofar with routes := route :: sofar.routes }
      | .operator "(" =>
          match sofar.words, sofar.assignments, sofar.routes with
          | [word], [], [] =>
              expectEnd (← Lexeme.token inside {}) (.operator ")")
              let name := (plain? word).getD []
              if !isName name || reserved.any fun other => Text.bytesOf other == name then
                complain "Bad function name"
              let line := (← get).line
              return .define line name (← command depth overLines)
          | _, _, _ =>
              putBack
              return sofar.command
      | _ =>
          putBack
          return sofar.command

end

/-- Reads a line, which may be none at the end of the script. -/
def line : Reading (Option Command) := do
  list (16 * (← get).input.length + 100) .top none

/-- Reads a text in which values have places. -/
def text : Reading Word := do
  Lexeme.text (inner (16 * (← get).input.length + 100))

end Grammar

/-- What has come of reading a line. -/
inductive LineRead where
  /-- A command, and the state behind it. -/
  | command (command : Command) (rest : Reader)
  /-- Nothing is left. -/
  | nothing (rest : Reader)
  /-- The line makes no sense. -/
  | fault (line : Nat) (message : Bytes)
  /-- More of the script is needed. -/
  | more

/-- Reads the line at the front of what a reader has before it. -/
def readLine (reader : Reader) : LineRead :=
  let fresh := { reader with again := false, awaited := [], word := [], quoted := false }
  match Grammar.line.run fresh with
  | .ok (some command, rest) => .command command rest
  | .ok (none, rest) => .nothing rest
  | .error (.fault line message) => .fault line message
  | .error .more => .more

/-- The text as a word in which values have places, or what is wrong with it. -/
def readText (text : Bytes) : Except Halt Word :=
  (Grammar.text.run { input := text, complete := true, line := 1 }).map Prod.fst

end LineShell.Script
