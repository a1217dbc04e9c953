import LineShell.Line.Fault
import LineShell.Line.Token

/-!
# Pipelines

What a well-formed line asks for: one program after another, joined by pipes, the last one's
output perhaps sent to a file.

- **`chunks`** cuts tokens at the pipes.
- **`detach`** takes a redirection off the end of a chunk.
- **`ofTokens`** builds the pipeline, or names the first fault it meets.
-/

namespace LineShell

/-- A program and the words after its name. -/
structure Stage where
  /-- The name of the program. -/
  program : String
  /-- The words after the name. -/
  operands : List String
  deriving DecidableEq, Repr, Inhabited

/-- All words of a stage, the name first. -/
def Stage.arguments (stage : Stage) : List String := stage.program :: stage.operands

/-- The stage with the given words. -/
def Stage.ofWords? : List String → Option Stage
  | [] => none
  | program :: operands => some ⟨program, operands⟩

/-- The file that receives the output of the last stage. -/
structure Target where
  /-- The name of the file. -/
  path : String
  /-- What becomes of what the file holds. -/
  mode : WriteMode
  deriving DecidableEq, Repr, Inhabited

/-- Stages in order, the last one's output perhaps sent to a file. -/
structure Pipeline where
  /-- The stages, each of them feeding the next. -/
  stages : List Stage
  /-- The file for the last stage's output. -/
  target : Option Target
  deriving DecidableEq, Repr, Inhabited

/-- The stage of a pipeline that has only one and no redirection: the only shape in which the
shell's own commands run. -/
def Pipeline.simple? : Pipeline → Option Stage
  | ⟨[stage], none⟩ => some stage
  | _ => none

namespace Pipeline

/-- The runs of tokens between pipes; there is one more of them than pipes. -/
def chunks : List Token → List (List Token)
  | [] => [[]]
  | .pipe :: rest => [] :: chunks rest
  | token :: rest =>
      match chunks rest with
      | [] => [[token]]
      | chunk :: more => (token :: chunk) :: more

/-- Takes the redirection off the end of a chunk. It must name a file, and no other redirection
may stand before it. -/
def detach (chunk : List Token) : Except LineFault (List Token × Option Target) :=
  match chunk.getLast? with
  | some (.redirect mode path) =>
      if path.isEmpty then .error .noOutputFile
      else if chunk.dropLast.any Token.isRedirect then .error .mislocatedRedirection
      else .ok (chunk.dropLast, some ⟨path, mode⟩)
  | _ =>
      if chunk.any Token.isRedirect then .error .mislocatedRedirection
      else .ok (chunk, none)

/-- The words of a chunk that has room for so many of them and holds nothing else. -/
def words : (room : Nat) → List Token → Except LineFault (List String)
  | _, [] => .ok []
  | _, .pipe :: _ => .error .missingCommand
  | _, .redirect .. :: _ => .error .mislocatedRedirection
  | 0, .word _ :: _ => .error .tooManyArguments
  | room + 1, .word text :: rest => (words room rest).map (text :: ·)

/-- The stage that a chunk spells, with at most `limit` words. -/
def stage (limit : Nat) (chunk : List Token) : Except LineFault Stage := do
  match Stage.ofWords? (← words limit chunk) with
  | some stage => pure stage
  | none => throw .missingCommand

/-- The pipeline that tokens spell, with at most `limit` words in each stage. The last chunk
loses its redirection first; then the chunks are read in order. -/
def ofTokens (limit : Nat) (tokens : List Token) : Except LineFault Pipeline := do
  let pieces := chunks tokens
  let (last, target) ← detach (pieces.getLast?.getD [])
  let stages ← (pieces.dropLast ++ [last]).mapM (stage limit)
  pure ⟨stages, target⟩

end Pipeline

end LineShell
