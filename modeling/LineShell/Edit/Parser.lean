import LineShell.Edit.Draft

/-!
# Reading scripts

- **`Draft.read`** reads another text of a script.
- **`Draft.finish`** tells whether the script is complete.
-/

namespace LineShell.Edit

namespace Reading

/-! ## Addresses -/

/-- The letters behind a regular expression that is an address. -/
def addressFlags : (fuel : Nat) → PatternFlags → Reading PatternFlags
  | 0, flags => return flags
  | fuel + 1, flags => do
      let read ← nextInk
      match read with
      | some 73 => addressFlags fuel { flags with foldCase := true }
      | some 77 => addressFlags fuel { flags with manyLines := true }
      | _ =>
          back read
          return flags

/-- The address that begins with a byte, if there is one. -/
def address (manner : Manner) (first : Option UInt8) : Reading (Option Bound) := do
  match first with
  | none => return none
  | some b =>
      if b = 47 || b = backslash then
        let delimiter ← if b = 47 then pure 47 else pure ((← next).getD 0)
        match ← delimited delimiter true with
        | none => throw .openAddress
        | some bytes =>
            let flags ← addressFlags ((← get).rest.length + 1) {}
            return some (.address (.matching (← pattern manner bytes flags 0)))
      else if Text.isDigit b then
        let line ← number first
        let read ← nextInk
        if read ≠ some 126 then
          back read
          return some (.address (.line line))
        else
          let step ← number (← nextInk)
          return some (.address (if step = 0 then .line line else .every line step))
      else if b = 43 then return some (.ahead (← number (← nextInk)))
      else if b = 126 then return some (.multiple (← number (← nextInk)))
      else if b = 36 then return some (.address .last)
      else return none

/-- An address is line zero. -/
def isLineZero : Address → Bool
  | .line 0 => true
  | _ => false

/-- The selector that begins with a byte, and the byte behind it that is no blank. -/
def selector (manner : Manner) (first : Option UInt8) : Reading (Selector × Option UInt8) := do
  match ← address manner first with
  | none => return (.all, first)
  | some (.address start) =>
      let read ← nextInk
      if read ≠ some 44 then
        if isLineZero start then throw .lineZero
        return (.one start, read)
      else match ← address manner (← nextInk) with
        | none => throw .unexpectedComma
        | some stop =>
            let read ← nextInk
            let mayBeZero := match stop with
              | .address (.matching _) => true
              | _ => false
            if isLineZero start && !mayBeZero then throw .lineZero
            return (.range start stop, read)
  | some _ => throw .relativeFirst

/-- A selector picks lines in a way of its own. -/
def hasAddress : Selector → Bool
  | .all => false
  | _ => true

/-- A selector is a range. -/
def isRange : Selector → Bool
  | .range .. => true
  | _ => false

/-! ## Steps -/

/-- What is to be done besides a replacement. -/
structure SubstitutionFlags where
  /-- What the regular expression is asked to do. -/
  pattern : PatternFlags := {}
  /-- What is to be done besides. -/
  rest : Substitution := { pattern := none, replacement := [], nth := 0 }
  deriving Repr, Inhabited

/-- The letters behind a replacement. -/
def substitutionFlags (manner : Manner) : (fuel : Nat) → SubstitutionFlags →
    Reading SubstitutionFlags
  | 0, flags => return flags
  | fuel + 1, flags => do
      let read ← next
      let again (rest : Substitution) := substitutionFlags manner fuel { flags with rest := rest }
      let rest := flags.rest
      match read.map fun b => Char.ofNat b.toNat with
      | none | some '\n' | some ';' => return flags
      | some ' ' | some '\t' => again rest
      | some '\x7d' | some '#' =>
          back read
          return flags
      | some 'i' | some 'I' =>
          substitutionFlags manner fuel
            { flags with pattern := { flags.pattern with foldCase := true } }
      | some 'm' | some 'M' =>
          substitutionFlags manner fuel
            { flags with pattern := { flags.pattern with manyLines := true } }
      | some 'e' => again { rest with runs := true }
      | some 'p' =>
          if rest.showing != .never then throw .manyPrints
          again { rest with showing := if rest.runs then .late else .early }
      | some 'g' =>
          if rest.throughout then throw .manyGlobals
          again { rest with throughout := true }
      | some 'w' =>
          if manner.confined then throw .forbidden
          return { flags with rest := { rest with output := some (← outputName) } }
      | some c =>
          if c.isDigit then
            if rest.nth ≠ 0 then throw .manyNumbers
            let nth ← number read
            if nth = 0 then throw .zeroNumber
            again { rest with nth := nth }
          else throw .unknownFlag

/-- A replacement. -/
def substitution (manner : Manner) : Reading Command := do
  let delimiter := (← next).getD 0
  let some bytes ← delimited delimiter true | throw .openSubstitution
  let some written ← delimited delimiter false | throw .openSubstitution
  let pieces := Piece.ofText (← ofExcept (Escapes.replacement.convert written))
  let flags ← substitutionFlags manner ((← get).rest.length + 1) {}
  let regex ← pattern manner bytes flags.pattern (Piece.greatestGroup pieces)
  if flags.rest.runs && manner.confined then throw .forbidden
  return .substitute { flags.rest with
    pattern := regex
    replacement := pieces
    nth := max 1 flags.rest.nth }

/-- A replacement of bytes. -/
def transliteration : Reading Command := do
  let delimiter := (← next).getD 0
  let some source ← delimited delimiter false | throw .openTranslation
  let source ← ofExcept (Escapes.text.convert source)
  let some target ← delimited delimiter false | throw .openTranslation
  let target ← ofExcept (Escapes.text.convert target)
  if source.length ≠ target.length then throw .unequalLengths
  endOfStep
  return .translate (source.zip target).reverse

/-- Text that is to be written, given the byte that is no blank behind the letter. -/
def writtenText (first : Option UInt8) : Reading Bytes := do
  if first ≠ some backslash then
    back first
    text []
  else
    let read ← next
    match read with
    | none =>
        modify fun draft => { draft with pending := some [] }
        return []
    | some 10 => text []
    | some _ =>
        back read
        text []

/-- Text behind one of the letters that need some. -/
def neededText : Reading Bytes := do
  let read ← nextInk
  if read.isNone then throw .expectedBackslash
  writtenText read

/-- A number that may be missing. -/
def optionalNumber : Reading (Option Nat) := do
  let read ← nextInk
  if read.any Text.isDigit then return some (← number read)
  back read
  return none

/-- The version whose scripts are understood. -/
def version : List Nat := [4, 9]

/-- The numbers of a version, given what anything else counts for. -/
def versionNumbers (other : Nat) (bytes : Bytes) : List Nat :=
  (Text.cut 46 bytes).map fun part =>
    if part.head?.any fun b => !Text.isDigit b then other
    else Text.valueOf 10 (part.takeWhile Text.isDigit)

/-- A version comes behind another one. -/
def isNewer : List Nat → List Nat → Bool
  | [], _ => false
  | _ :: _, [] => true
  | n :: rest, known :: others => known < n || (n == known && isNewer rest others)

/-- What a step does whose letter has been read. -/
def command (manner : Manner) (selector : Selector) (letter : UInt8) : Reading Command := do
  let plain (command : Command) : Reading Command := do
    endOfStep
    return command
  let free : Reading Unit := if manner.confined then throw .forbidden else pure ()
  match Char.ofNat letter.toNat with
  | 'a' => return .append (← neededText)
  | 'i' => return .insert (← neededText)
  | 'c' => return .change (← neededText)
  | 'e' =>
      free
      let read ← nextInk
      match read with
      | none | some 10 => return .run none
      | some _ => return .run (some (← writtenText read))
  | ':' =>
      if hasAddress selector then throw .addressedLabel
      let name ← label
      if name.isEmpty then throw .missingLabel
      modify fun draft => { draft with script := { draft.script with
        labels := (name, draft.script.steps.size) :: draft.script.labels } }
      return .nothing
  | 'b' => return .branch .always (← label)
  | 't' => return .branch .replaced (← label)
  | 'T' => return .branch .untouched (← label)
  | 'd' => plain .delete
  | 'D' => plain .deleteFirst
  | 'F' => plain .fileName
  | 'g' => plain .recall
  | 'G' => plain .recallBehind
  | 'h' => plain .keep
  | 'H' => plain .keepBehind
  | 'x' => plain .exchange
  | 'n' => plain .next
  | 'N' => plain .nextBehind
  | 'p' => plain .print
  | 'P' => plain .printFirst
  | 'z' => plain .clear
  | '=' => plain .number
  | 'l' =>
      let width ← optionalNumber
      plain (.list width)
  | 'q' =>
      if isRange selector then throw .oneAddress
      let code ← optionalNumber
      plain (.quit (code.getD 0))
  | 'Q' =>
      if isRange selector then throw .oneAddress
      let code ← optionalNumber
      plain (.quitSilently (code.getD 0))
  | 'r' =>
      free
      return .readFile (← fileName)
  | 'R' =>
      free
      return .readLine (← fileName)
  | 'w' =>
      free
      return .write (← outputName)
  | 'W' =>
      free
      return .writeFirst (← outputName)
  | 's' => substitution manner
  | 'y' => transliteration
  | 'v' =>
      if isNewer (versionNumbers 100 (← label)) version then throw .newerVersion
      return .nothing
  | _ => throw (.unknownCommand letter)

/-- A comment whose sign has been read. If the first text begins with that sign and `n`, lines are
not written. -/
def comment (selector : Selector) : Reading Unit := do
  if hasAddress selector then throw .addressedComment
  let draft ← get
  let body ← takeWhile (· != 10)
  if draft.isFirst && draft.taken = 1 && body.head? = some 110 then
    modify fun draft => { draft with silent := true }

/-- The end of a block. -/
def closeBlock (selector : Selector) : Reading Command := do
  match (← get).blocks with
  | [] => throw .closeBrace
  | (start, _) :: blocks =>
      if hasAddress selector then throw .addressedClose
      endOfStep
      modify fun draft =>
        { draft.setCommand start (.openBlock draft.script.steps.size) with blocks := blocks }
      return .nothing

/-- The steps that are left in the text, so many of them at most. -/
def steps (manner : Manner) : (fuel : Nat) → Reading Unit
  | 0 => return ()
  | fuel + 1 => do
      let _ ← takeWhile fun b => Text.isSpace b || b == 59
      let first ← next
      if first.isNone then return ()
      let (selector, read) ← selector manner first
      let (others, read) ← if read = some 33 then do
          let read ← nextInk
          if read = some 33 then throw .manyNegations
          pure (true, read)
        else pure (false, read)
      match read with
      | none => throw .missingCommand
      | some 35 => comment selector
      | some 123 =>
          modify fun draft =>
            { draft.addStep ⟨selector, others, .openBlock 0⟩ with
              blocks := (draft.script.steps.size, draft.spotOfText) :: draft.blocks }
      | some 125 =>
          let command ← closeBlock selector
          modify (Draft.addStep ⟨.all, false, command⟩)
      | some letter =>
          let command ← command manner selector letter
          modify (Draft.addStep ⟨selector, others, command⟩)
      steps manner fuel

/-- The text of a step, if it has one. -/
def setText (text : Bytes) : Command → Command
  | .append _ => .append text
  | .insert _ => .insert text
  | .change _ => .change text
  | .run _ => .run (some text)
  | command => command

/-- The rest of the text with which the last step has begun. -/
def pendingText : Reading Unit := do
  match (← get).pending with
  | none => return ()
  | some read =>
      let whole ← text read
      modify fun draft =>
        let steps := draft.script.steps
        let last := steps.size - 1
        match steps[last]? with
        | none => draft
        | some step => draft.setCommand last (setText whole step.command)

end Reading

namespace Draft

/-- The draft behind another text, and what is wrong with that. -/
def read (manner : Manner) (source : Source) (bytes : Bytes) (draft : Draft) :
    Draft × Option (Spot × Fault) :=
  let start := { draft with rest := bytes, taken := 0, line := 1, source := source }
  let reading : Reading Unit := do
    Reading.pendingText
    Reading.steps manner (bytes.length + 1)
  match reading.run start with
  | .ok () draft => ({ draft with isFirst := false }, none)
  | .error fault draft => (draft, some (draft.spot, fault))

/-- What is wrong with the whole script: a block has not ended. -/
def unfinished? (draft : Draft) : Option (Spot × Fault) :=
  draft.blocks.head?.map fun block => (block.2, .openBrace)

/-- The label that a command goes on at. -/
def labelOf? : Command → Option Bytes
  | .branch _ label => if label.isEmpty then none else some label
  | _ => none

/-- A label that is missing from the script. -/
def missingLabel? (draft : Draft) : Option Bytes :=
  (draft.script.steps.toList.filterMap fun step => labelOf? step.command).reverse.find?
    fun label => (draft.script.labels.lookup label).isNone

end Draft

end LineShell.Edit
