import LineShell.Utility.Stream

/-!
# Passing bytes on

- **`cat`** writes one file after the other, and can make visible what is in them.
- **`tee`** writes its input to several places.
-/

namespace LineShell.Utility

/-! ## `cat` -/

/-- Which lines get numbers. -/
inductive Numbering where
  /-- No line. -/
  | none
  /-- Every line. -/
  | all
  /-- Every line that is not empty. -/
  | filled
  deriving DecidableEq, Repr, Inhabited

/-- How `cat` shows what it reads. -/
structure View where
  /-- Which lines get numbers. -/
  numbering : Numbering := .none
  /-- Of several empty lines in a row one is left. -/
  squeeze : Bool := false
  /-- The end of a line is marked. -/
  ends : Bool := false
  /-- Tabs are shown as control characters. -/
  tabs : Bool := false
  /-- Control characters are made visible. -/
  controls : Bool := false
  deriving DecidableEq, Repr, Inhabited

/-- How far showing has come. -/
structure ViewState where
  /-- How many empty lines come before, at the beginning of a line. -/
  blanks : Option Nat := some 0
  /-- The number of the next line. -/
  number : Nat := 1
  /-- A carriage return waits for what comes behind it. -/
  waiting : Bool := false
  deriving DecidableEq, Repr, Inhabited

namespace View

/-- The view changes nothing. -/
def isPlain (view : View) : Bool := view == {}

/-- A control character as a caret and a letter. -/
def caret (b : UInt8) : Bytes := [94, b ^^^ 64]

/-- A byte below 128 made visible. -/
def lowByte (b : UInt8) : Bytes := if b < 32 || b == 127 then caret b else [b]

/-- A byte as it is shown, if it does not end a line. -/
def byte (view : View) (b : UInt8) : Bytes :=
  if b == 9 then (if view.tabs then caret b else [b])
  else if !view.controls then [b]
  else if b < 128 then lowByte b
  else text "M-" ++ lowByte (b - 128)

/-- The number in front of a line. -/
def numberField (number : Nat) : Bytes := padLeft 6 (Text.decimal number) ++ [9]

/-- The state after the end of a line, and what is written for it. -/
def lineEnd (view : View) (state : ViewState) : ViewState × Bytes :=
  let ending := (if state.waiting then caret 13 else [])
    ++ (if view.ends then [36, newline] else [newline])
  let state := { state with waiting := false }
  match state.blanks with
  | none => ({ state with blanks := some 0 }, ending)
  | some blanks =>
      if view.squeeze && 1 ≤ blanks then (state, [])
      else
        let counted := { state with blanks := some (blanks + 1) }
        if view.numbering == .all then
          ({ counted with number := state.number + 1 }, numberField state.number ++ ending)
        else (counted, ending)

/-- The state after a byte, and what is written for it. -/
def step (view : View) (state : ViewState) (b : UInt8) : ViewState × Bytes :=
  if b == newline then view.lineEnd state
  else
    let held : Bytes := if state.waiting then [13] else []
    let waits := b == 13 && view.ends && !view.controls
    let shown := if waits then [] else view.byte b
    let numbered := state.blanks.isSome && view.numbering != .none
    ({ blanks := none
       number := if numbered then state.number + 1 else state.number
       waiting := waits },
      held ++ (if numbered then numberField state.number else []) ++ shown)

/-- The state after some bytes, and what is written for them. -/
def feed (view : View) (state : ViewState) (bytes : Bytes) : ViewState × Bytes :=
  if view.isPlain then (state, bytes)
  else
    let (state, written) := bytes.foldl (fun (state, written) b =>
      let (state, piece) := view.step state b
      (state, piece :: written)) (state, [])
    (state, written.reverse.flatten)

/-- The effect of an option of `cat`. -/
def effect : OptionEffect View := fun view key _ =>
  .ok (match key with
    | "A" => { view with controls := true, ends := true, tabs := true }
    | "b" => { view with numbering := .filled }
    | "e" => { view with controls := true, ends := true }
    | "E" => { view with ends := true }
    | "n" => { view with numbering := if view.numbering == .filled then .filled else .all }
    | "s" => { view with squeeze := true }
    | "t" => { view with controls := true, tabs := true }
    | "T" => { view with tabs := true }
    | "v" => { view with controls := true }
    | _ => view)

end View

/-- The options of `cat`. -/
def catOptions : OptionTable where
  letters := "benstuvAET"
  names :=
    [("number-nonblank", "b"), ("number", "n"), ("squeeze-blank", "s"),
     ("show-nonprinting", "v"), ("show-ends", "E"), ("show-tabs", "T"), ("show-all", "A")]

/-- Writes what comes of an open file. -/
def showFile (view : View) (fd : Fd) : ViewState → Prog (PassEnd × ViewState) :=
  Prog.iterate fun state => do
    match ← Prog.call (.read fd blockSize) with
    | .error errno => return .inr (.unread errno, state)
    | .ok [] => return .inr (.done, state)
    | .ok bytes =>
        let (state, written) := view.feed state bytes
        match ← Pass.put written with
        | .ok () => return .inl state
        | .error errno => return .inr (.unwritten errno written.length, state)

/-- Copying a file would never end: what is written to standard output comes to stand behind what
is still to be read. -/
def copiesItself (fd : Fd) : Prog Bool := do
  match ← Prog.call (.kind fd), ← Prog.call (.kind Fd.stdout) with
  | .ok (.node source), .ok (.node sink) =>
      if source.id == sink.id && source.node.isRegular then
        match ← Prog.call (.seek fd (.ahead 0)) with
        | .ok place => return decide (place < source.node.size)
        | .error _ => return false
      else return false
  | _, _ => return false

/-- Shows files one after the other, given the code so far. -/
def showFiles (name : Bytes) (view : View) : (code : Int) → ViewState → List Bytes → Prog Int
  | code, state, [] => emit name (if state.waiting then [13] else []) code (.plain 1)
  | code, state, path :: rest => do
      match ← openInput path with
      | .error errno =>
          complainOfFile name path errno
          showFiles name view 1 state rest
      | .ok fd =>
          if ← copiesItself fd then
            complain name (Quote.named path ++ text ": input file is output file")
            closeInput fd
            showFiles name view 1 state rest
          else
            let (result, state) ← showFile view fd state
            closeInput fd
            match result with
            | .done => showFiles name view code state rest
            | .unread errno =>
                complainOfFile name path errno
                showFiles name view 1 state rest
            | .unwritten errno _ =>
                complainOf name (text "write error") errno
                return 1

/-- Writes files one after the other. -/
def cat : Utility := fun arguments =>
  withOptions catOptions 1 {} View.effect arguments fun name view operands => do
    match ← Prog.call (.kind Fd.stdout) with
    | .error errno =>
        complainOf name (text "standard output") errno
        return 1
    | .ok _ =>
        let paths := inputs operands
        closingInput name (text "closing standard input") paths (showFiles name view 0 {} paths)

/-! ## `tee` -/

/-- What `tee` does when it cannot write to one of its outputs. -/
inductive TeeFailure where
  /-- It goes on, and says nothing of pipes that nobody reads. -/
  | passPipes
  /-- It goes on. -/
  | pass
  /-- It ends, but not for pipes that nobody reads. -/
  | endButPipes
  /-- It ends. -/
  | ends
  deriving DecidableEq, Repr, Inhabited

/-- The settings of `tee`. -/
structure TeeSettings where
  /-- What is written comes behind what the files hold. -/
  append : Bool := false
  /-- What happens when an output cannot be written. -/
  failure : TeeFailure := .passPipes
  deriving DecidableEq, Repr, Inhabited

namespace TeeSettings

/-- The options of `tee`. -/
def table : OptionTable where
  letters := "aip"
  names := [("append", "a"), ("ignore-interrupts", "i"), ("output-error::", "p")]

/-- The words for what happens when an output cannot be written. -/
def failures : List (String × TeeFailure) :=
  [("warn", .pass), ("warn-nopipe", .passPipes), ("exit", .ends), ("exit-nopipe", .endButPipes)]

/-- The effect of an option of `tee`. -/
def effect : OptionEffect TeeSettings := fun settings key value =>
  match key, value with
  | "a", _ => .ok { settings with append := true }
  | "p", some word => do
      return { settings with failure := ← choice "--output-error" failures word }
  | "p", none => .ok { settings with failure := .passPipes }
  | _, _ => .ok settings

/-- A failure is worth a word. -/
def reports (settings : TeeSettings) (errno : Errno) : Bool :=
  errno != .brokenPipe || settings.failure == .pass || settings.failure == .ends

/-- A failure that is worth a word ends everything. -/
def givesUp (settings : TeeSettings) : Bool :=
  settings.failure == .ends || settings.failure == .endButPipes

end TeeSettings

/-- The outputs of `tee` with their names, and whether all went well. -/
structure TeeState where
  /-- The outputs that can be written. -/
  outputs : List (Bytes × Fd)
  /-- Nothing has failed. -/
  fine : Bool := true
  /-- A failure has ended everything. -/
  ended : Bool := false

/-- Writes bytes to several outputs; those that fail are left out from then on. -/
def teeBytes (name bytes : Bytes) (settings : TeeSettings) : List (Bytes × Fd) → Prog TeeState
  | [] => pure { outputs := [] }
  | (path, fd) :: rest => do
      match ← Prog.write fd bytes with
      | .ok () =>
          let later ← teeBytes name bytes settings rest
          return { later with outputs := (path, fd) :: later.outputs }
      | .error errno =>
          if !settings.reports errno then teeBytes name bytes settings rest
          else
            complainOfFile name path errno
            if settings.givesUp then return { outputs := [], fine := false, ended := true }
            let later ← teeBytes name bytes settings rest
            return { later with fine := false }

/-- Opens files for writing. -/
def teeOpen (name : Bytes) (settings : TeeSettings) : List Bytes → Prog TeeState
  | [] => pure { outputs := [] }
  | path :: rest => do
      let access : Access :=
        { write := true, create := true, append := settings.append, truncate := !settings.append }
      match ← Prog.call (.openPath path access true) with
      | .ok fd =>
          let later ← teeOpen name settings rest
          return { later with outputs := (path, fd) :: later.outputs }
      | .error errno =>
          complainOfFile name path errno
          if settings.givesUp then return { outputs := [], fine := false, ended := true }
          let later ← teeOpen name settings rest
          return { later with fine := false }

/-- Copies standard input to several outputs until none of them can be written. -/
def teeAll (name : Bytes) (settings : TeeSettings) : TeeState → Prog Int :=
  Prog.iterate fun state => do
    if state.outputs.isEmpty then return .inr (if state.fine then 0 else 1)
    match ← Prog.call (.read Fd.stdin blockSize) with
    | .error errno =>
        complainOf name (text "read error") errno
        return .inr 1
    | .ok [] => return .inr (if state.fine then 0 else 1)
    | .ok bytes =>
        let later ← teeBytes name bytes settings state.outputs
        if later.ended then return .inr 1
        return .inl { later with fine := state.fine && later.fine }

/-- Copies standard input to standard output and to files. -/
def tee : Utility := fun arguments =>
  withOptions TeeSettings.table 1 {} TeeSettings.effect arguments fun name settings operands => do
    let start ← teeOpen name settings operands
    if start.ended then return 1
    let outputs := (text "standard output", Fd.stdout) :: start.outputs
    closingInput name (text "standard input") [text "-"]
      (teeAll name settings { start with outputs := outputs })

end LineShell.Utility
