import LineShell.Proofs.Line.Agreement
import LineShell.Proofs.Line.RawText

/-!
# Lines, read off their raw text

The scanner, the checks and the parser together decide what could be read off the characters of
the line at once.

* **`lacksCommand_scan`, `lacksFile_scan`, `misplacesRedirection_scan`** — the three checks, on the
  raw text;
* **`target?_scan`** — the file of a line that passes them;
* **`line_eq_rawText`** — what the inspection and the parser make of a line.
-/

namespace LineShell.RawText

open Text Token Structure

/-- The pieces before the last one. -/
def initPieces (line : List Char) : List (List Char) := (pieces line).dropLast

/-- The last piece. -/
def lastPiece (line : List Char) : List Char := (pieces line).getLast?.getD []

/-- Nothing but blanks stands in front of the first `>` of some piece. -/
def LacksCommand (line : List Char) : Prop := ∃ piece ∈ pieces line, Blank (head piece)

/-- Nothing but blanks stands behind the last `>` of the last piece. -/
def LacksFile (line : List Char) : Prop :=
  '>' ∈ lastPiece line ∧ Blank (afterLast (lastPiece line))

/-- An earlier piece holds a `>`, or the last one holds more than a single operator. -/
def Misplaces (line : List Char) : Prop :=
  (∃ piece ∈ initPieces line, '>' ∈ piece) ∨
    '>' ∈ lastPiece line ∧ ¬∃ mode name, IsClause (lastPiece line) mode name

/-- None of the three. -/
def WellFormed (line : List Char) : Prop :=
  ¬LacksCommand line ∧ ¬LacksFile line ∧ ¬Misplaces line

/-- The file that the last piece asks for: the name behind its operator, without the blanks at
the ends. -/
def Names (line : List Char) : Option Target → Prop
  | none => ¬∃ mode name, IsClause (lastPiece line) mode name
  | some target => ∃ name, IsClause (lastPiece line) target.mode name ∧
      target.path = String.ofList (trim name)

/-! ## Pieces and chunks -/

theorem pieces_ne_nil (line : List Char) : pieces line ≠ [] := List.splitOn_ne_nil _ _

theorem lastPiece_mem (line : List Char) : lastPiece line ∈ pieces line := by
  unfold lastPiece
  rw [List.getLast?_eq_some_getLast (pieces_ne_nil line)]
  exact List.getLast_mem _

theorem pieces_eq (line : List Char) : pieces line = initPieces line ++ [lastPiece line] := by
  unfold initPieces lastPiece
  rw [List.getLast?_eq_some_getLast (pieces_ne_nil line)]
  exact (List.dropLast_concat_getLast (pieces_ne_nil line)).symm

theorem initChunks_scan (line : List Char) :
    Pipeline.initChunks (scan line) = (initPieces line).map scan := by
  unfold Pipeline.initChunks initPieces
  rw [chunks_scan, List.map_dropLast]

theorem lastChunk_scan (line : List Char) :
    Pipeline.lastChunk (scan line) = scan (lastPiece line) := by
  unfold Pipeline.lastChunk lastPiece
  rw [chunks_scan, List.getLast?_map, List.getLast?_eq_some_getLast (pieces_ne_nil line)]
  rfl

theorem pipe_notMem_lastPiece (line : List Char) : '|' ∉ lastPiece line :=
  pipe_notMem_of_mem_pieces (lastPiece_mem line)

/-- Nothing is left of a text without its blanks at the ends exactly if it is blank. -/
theorem trim_eq_nil_iff {text : List Char} : trim text = [] ↔ Blank text := by
  have hblank : text.dropWhile isBlank = [] ↔ Blank text := List.dropWhile_eq_nil_iff
  unfold trim trimRight trimLeft
  rw [← hblank, List.reverse_eq_nil_iff, List.dropWhile_eq_nil_iff]
  constructor
  · intro h
    have hstop := List.head?_dropWhile_not isBlank text
    cases hrest : text.dropWhile isBlank with
    | nil => rfl
    | cons c rest =>
        rw [hrest] at h hstop
        exact absurd (h c (by simp)) (by simpa using hstop)
  · intro h
    rw [h]
    simp

theorem isEmpty_ofList_trim {text : List Char} :
    (String.ofList (trim text)).isEmpty = true ↔ Blank text := by
  rw [← trim_eq_nil_iff]
  simp

/-- How many words a scanned piece holds. -/
theorem wordCount_scan {piece : List Char} (hpipe : '|' ∉ piece) :
    Pipeline.wordCount (scan piece) = (words (head piece)).length := by
  rw [← (scan_piece_facts hpipe).1]
  unfold Pipeline.wordCount
  induction scan piece with
  | nil => rfl
  | cons token rest ih =>
      rw [List.countP_cons, List.filterMap_cons, ih]
      cases token <;> rfl

/-! ## The checks -/

theorem lacksCommand_scan (line : List Char) :
    lacksCommand (scan line) = true ↔ LacksCommand line := by
  have hword : ∀ piece ∈ pieces line,
      (scan piece).any isWord = false ↔ Blank (head piece) := by
    intro piece hpiece
    have hcount := wordCount_scan (pipe_notMem_of_mem_pieces hpiece)
    rw [← words_eq_nil_iff, ← List.length_eq_zero_iff, ← hcount]
    unfold Pipeline.wordCount
    rw [List.countP_eq_zero, List.any_eq_false]
  constructor
  · intro h
    unfold lacksCommand at h
    rcases (Bool.or_eq_true ..).mp h with hbegin | hchunk
    · -- The line begins with a redirection, so there is no word before it in its chunk.
      obtain ⟨token, hhead, hredirect⟩ := (Option.any_eq_true ..).mp hbegin
      have hne : token ≠ .pipe := by
        rintro rfl
        exact absurd hredirect (by decide)
      obtain ⟨chunk, hchunk, hfirst⟩ := Pipeline.exists_chunk_of_head? hhead hne
      rw [chunks_scan] at hchunk
      obtain ⟨piece, hpiece, rfl⟩ := List.mem_map.mp hchunk
      refine ⟨piece, hpiece, words_eq_nil_iff.mp ?_⟩
      rw [scan_piece (pipe_notMem_of_mem_pieces hpiece)] at hfirst
      cases hwords : words (head piece) with
      | nil => rfl
      | cons word more =>
          rw [hwords] at hfirst
          cases hfirst
          exact absurd hredirect (by simp [isRedirect])
    · obtain ⟨chunk, hchunk, hnone⟩ := List.any_eq_true.mp hchunk
      rw [chunks_scan] at hchunk
      obtain ⟨piece, hpiece, rfl⟩ := List.mem_map.mp hchunk
      exact ⟨piece, hpiece, (hword piece hpiece).mp (by simpa using hnone)⟩
  · rintro ⟨piece, hpiece, hblank⟩
    unfold lacksCommand
    rw [Bool.or_eq_true]
    refine .inr (List.any_eq_true.mpr ⟨scan piece, ?_, ?_⟩)
    · rw [chunks_scan]
      exact List.mem_map_of_mem hpiece
    · rw [(hword piece hpiece).mpr hblank]
      rfl

theorem lacksFile_scan (line : List Char) : lacksFile (scan line) = true ↔ LacksFile line := by
  have hpipe := pipe_notMem_lastPiece line
  obtain ⟨-, -, hsome, hnone, -⟩ := scan_piece_facts hpipe
  unfold lacksFile
  rw [Pipeline.target?_eq, lastChunk_scan]
  unfold LacksFile
  cases htarget : target? (scan (lastPiece line)) with
  | none => simp [hnone htarget]
  | some target =>
      obtain ⟨hgreater, hpath⟩ := hsome target htarget
      rw [Option.any_some, hpath, isEmpty_ofList_trim, and_iff_right hgreater]

theorem misplacesRedirection_scan (line : List Char) :
    misplacesRedirection (scan line) = true ↔ Misplaces line := by
  obtain ⟨-, -, -, -, hlast⟩ := scan_piece_facts (pipe_notMem_lastPiece line)
  rw [Pipeline.misplacesRedirection_eq, Bool.or_eq_true, initChunks_scan, lastChunk_scan, hlast]
  unfold Misplaces
  refine or_congr_left ?_
  rw [List.any_map, List.any_eq_true]
  refine exists_congr fun piece => and_congr_right fun hpiece => ?_
  exact (scan_piece_facts (pipe_notMem_of_mem_pieces (List.dropLast_subset _ hpiece))).2.1

/-- A line passes the checks of its structure exactly if none of the three applies. -/
theorem check_scan (line : List Char) : check (scan line) = .ok () ↔ WellFormed line := by
  rw [Pipeline.check_eq_ok_iff]
  unfold WellFormed
  rw [← lacksCommand_scan, ← lacksFile_scan, ← misplacesRedirection_scan]
  simp

/-- The first of the three that applies is the fault that the checks report. -/
theorem check_scan_eq_error (line : List Char) {fault : LineFault} :
    check (scan line) = .error fault ↔
      LacksCommand line ∧ fault = .missingCommand ∨
      ¬LacksCommand line ∧ LacksFile line ∧ fault = .noOutputFile ∨
      ¬LacksCommand line ∧ ¬LacksFile line ∧ Misplaces line ∧ fault = .mislocatedRedirection := by
  rw [Pipeline.check_eq_error_iff, ← lacksCommand_scan, ← lacksFile_scan,
    ← misplacesRedirection_scan]
  simp only [Bool.not_eq_true]

/-- The file of a line without a misplaced redirection is the one that its last piece names. -/
theorem target?_scan {line : List Char} (h : ¬Misplaces line) {target : Option Target} :
    target? (scan line) = target ↔ Names line target := by
  have hpipe := pipe_notMem_lastPiece line
  rw [Pipeline.target?_eq, lastChunk_scan]
  have hclause : ∀ {mode name}, IsClause (lastPiece line) mode name →
      target? (scan (lastPiece line)) = some ⟨String.ofList (trim name), mode⟩ :=
    target?_scan_of_isClause hpipe
  obtain ⟨-, -, hsome, -, -⟩ := scan_piece_facts hpipe
  cases target with
  | none =>
      constructor
      · rintro hnone ⟨mode, name, hname⟩
        exact absurd (hnone.symm.trans (hclause hname)) (by simp)
      · intro hnot
        cases htarget : target? (scan (lastPiece line)) with
        | none => rfl
        | some found => exact absurd (.inr ⟨(hsome found htarget).1, hnot⟩) h
  | some target =>
      constructor
      · intro htarget
        have hclauses : ∃ mode name, IsClause (lastPiece line) mode name := by
          by_contra hnot
          exact h (.inr ⟨(hsome target htarget).1, hnot⟩)
        obtain ⟨mode, name, hname⟩ := hclauses
        cases (hclause hname).symm.trans htarget
        exact ⟨name, hname, rfl⟩
      · rintro ⟨name, hname, hpath⟩
        rw [hclause hname, ← hpath]

/-! ## The whole of it -/

/-- What the parser makes of a line that passes the checks: the words in front of the first `>` of
each piece are a stage, if none has too many. -/
theorem ofTokens_scan {line : List Char} (h : WellFormed line) (limit : Nat) :
    (Pipeline.ofTokens limit (scan line) = .error .tooManyArguments ↔
      ∃ piece ∈ pieces line, limit < (words (head piece)).length) ∧
    ((∀ piece ∈ pieces line, (words (head piece)).length ≤ limit) →
      ∃ pipeline, Pipeline.ofTokens limit (scan line) = .ok pipeline ∧
        pipeline.stages.map Stage.arguments = (pieces line).map (fun piece => words (head piece)) ∧
        Names line pipeline.target) := by
  have hcheck := (check_scan line).mpr h
  -- the chunks that the parser counts are the scanned pieces
  have hcounts : ∀ bound : Nat → Prop, (∃ chunk ∈ Pipeline.chunks (scan line),
      bound (Pipeline.wordCount chunk)) ↔ ∃ piece ∈ pieces line, bound (words (head piece)).length := by
    intro bound
    rw [chunks_scan]
    constructor
    · rintro ⟨chunk, hchunk, hbound⟩
      obtain ⟨piece, hpiece, rfl⟩ := List.mem_map.mp hchunk
      exact ⟨piece, hpiece, wordCount_scan (pipe_notMem_of_mem_pieces hpiece) ▸ hbound⟩
    · rintro ⟨piece, hpiece, hbound⟩
      exact ⟨scan piece, List.mem_map_of_mem hpiece,
        (wordCount_scan (pipe_notMem_of_mem_pieces hpiece)).symm ▸ hbound⟩
  rcases Pipeline.ofTokens_of_check hcheck limit with ⟨⟨pipeline, hok⟩, hfew⟩ | ⟨herror, hmany⟩
  · constructor
    · rw [hok, ← hcounts]
      refine ⟨fun herror => absurd herror (by simp), ?_⟩
      rintro ⟨chunk, hchunk, hlt⟩
      exact absurd (hfew chunk hchunk) (Nat.not_le_of_lt hlt)
    · intro _
      refine ⟨pipeline, hok, ?_, ?_⟩
      · obtain ⟨rest, hdetach, -, harguments⟩ := Pipeline.parts_of_ofTokens hok
        obtain ⟨rest', hdetach', -, -, htexts⟩ := Pipeline.detach_of_check hcheck
        -- the parser and the checks take the same redirection off the last chunk
        have hrest : rest' = rest := by
          have hpair := Except.ok.inj (hdetach'.symm.trans hdetach)
          exact (Prod.mk.inj hpair).1
        subst hrest
        rw [harguments, List.map_append, List.map_singleton, htexts, initChunks_scan,
          lastChunk_scan, pieces_eq, List.map_append, List.map_singleton, List.map_map]
        have htext : ∀ piece ∈ pieces line, (scan piece).filterMap text? = words (head piece) :=
          fun piece hpiece => (scan_piece_facts (pipe_notMem_of_mem_pieces hpiece)).1
        rw [htext _ (lastPiece_mem line)]
        refine congrArg (· ++ _) (List.map_congr_left fun piece hpiece => ?_)
        exact htext piece (List.dropLast_subset _ hpiece)
      · refine (target?_scan h.2.2).mp ?_
        obtain ⟨rest, hdetach, -, -⟩ := Pipeline.parts_of_ofTokens hok
        obtain ⟨htarget, -, -, -⟩ := Pipeline.detach_eq_ok hdetach
        rw [htarget]
        exact Pipeline.target?_eq _
  · constructor
    · rw [← hcounts]
      exact ⟨fun _ => hmany, fun _ => herror⟩
    · intro hfew
      obtain ⟨piece, hpiece, hlt⟩ := (hcounts _).mp hmany
      exact absurd (hfew piece hpiece) (Nat.not_le_of_lt hlt)

/-- **Lines as raw text.** Whatever the line, its inspection comes to what its characters say:
to the first of the three faults that applies, to a file that cannot be opened, or to none. And
a line to which none of the three applies is refused by the parser exactly if the head of some
piece has too many words; else every piece is a stage, made of the words of its head, and the
last one writes to the file that the line names. -/
theorem line_eq_rawText (line : String) :
    (∀ {σ : Type} (world : World σ) (before after : σ) (result : Except LineFault Unit),
      Prog.Ends world (inspect (ofLine line)) before result after ↔
        LacksCommand line.toList ∧ result = .error .missingCommand ∧ after = before ∨
        (¬LacksCommand line.toList ∧ LacksFile line.toList ∧
          result = .error .noOutputFile ∧ after = before) ∨
        (¬LacksCommand line.toList ∧ ¬LacksFile line.toList ∧ Misplaces line.toList ∧
          result = .error .mislocatedRedirection ∧ after = before) ∨
        WellFormed line.toList ∧
          (Names line.toList none ∧ result = .ok () ∧ after = before ∨
            ∃ target, Names line.toList (some target) ∧
              ((∃ failure, Prog.Ends world target.openFile before (.error failure) after ∧
                  result = .error .cannotOpenFile) ∨
                (∃ fd middle answer, Prog.Ends world target.openFile before (.ok fd) middle ∧
                  world middle (.close fd) answer after ∧ result = .ok ())))) ∧
    (WellFormed line.toList → ∀ limit,
      (Pipeline.ofTokens limit (ofLine line) = .error .tooManyArguments ↔
        ∃ piece ∈ pieces line.toList, limit < (words (head piece)).length) ∧
      ((∀ piece ∈ pieces line.toList, (words (head piece)).length ≤ limit) →
        ∃ pipeline, Pipeline.ofTokens limit (ofLine line) = .ok pipeline ∧
          pipeline.stages.map Stage.arguments =
            (pieces line.toList).map (fun piece => words (head piece)) ∧
          Names line.toList pipeline.target)) := by
  refine ⟨?_, fun hformed limit => ofTokens_scan hformed limit⟩
  intro σ world before after result
  unfold ofLine
  rw [ends_inspect_iff]
  constructor
  · rintro (⟨fault, hcheck, rfl, rfl⟩ | ⟨hcheck, hfile⟩)
    · rcases (check_scan_eq_error _).mp hcheck with
        ⟨hcommand, rfl⟩ | ⟨hcommand, hfile, rfl⟩ | ⟨hcommand, hfile, hplace, rfl⟩
      · exact .inl ⟨hcommand, rfl, rfl⟩
      · exact .inr (.inl ⟨hcommand, hfile, rfl, rfl⟩)
      · exact .inr (.inr (.inl ⟨hcommand, hfile, hplace, rfl, rfl⟩))
    · have hformed := (check_scan _).mp hcheck
      refine .inr (.inr (.inr ⟨hformed, ?_⟩))
      rcases hfile with ⟨hnone, rfl, rfl⟩ | ⟨target, htarget, hends⟩
      · exact .inl ⟨(target?_scan hformed.2.2).mp hnone, rfl, rfl⟩
      · exact .inr ⟨target, (target?_scan hformed.2.2).mp htarget, ends_preflight_iff.mp hends⟩
  · rintro (⟨hcommand, rfl, rfl⟩ | ⟨hcommand, hfile, rfl, rfl⟩ |
      ⟨hcommand, hfile, hplace, rfl, rfl⟩ | ⟨hformed, hfile⟩)
    · exact .inl ⟨_, (check_scan_eq_error _).mpr (.inl ⟨hcommand, rfl⟩), rfl, rfl⟩
    · exact .inl ⟨_, (check_scan_eq_error _).mpr (.inr (.inl ⟨hcommand, hfile, rfl⟩)), rfl, rfl⟩
    · exact .inl ⟨_, (check_scan_eq_error _).mpr (.inr (.inr ⟨hcommand, hfile, hplace, rfl⟩)),
        rfl, rfl⟩
    · refine .inr ⟨(check_scan _).mpr hformed, ?_⟩
      rcases hfile with ⟨hnone, rfl, rfl⟩ | ⟨target, htarget, hends⟩
      · exact .inl ⟨(target?_scan hformed.2.2).mpr hnone, rfl, rfl⟩
      · exact .inr ⟨target, (target?_scan hformed.2.2).mpr htarget, ends_preflight_iff.mpr hends⟩

end LineShell.RawText
