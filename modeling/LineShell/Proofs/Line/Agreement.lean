import LineShell.Proofs.Line.Chunks
import LineShell.Proofs.Line.Inspection

/-!
# The checks and the parser agree

The checks look at the whole line, the parser at the last chunk first and then at one chunk after
the other. On every list of tokens they find the same faults in its structure:

* **what passes** — a line that passes the checks leaves the parser chunks of words alone
  (`wordsOnly_of_check`, `detach_of_check`), and what the parser accepts passes
  (`check_of_ofTokens`);
* **what does not** — a redirection without a file or in the wrong place is the same fault for
  both as long as no chunk has too many words (`ofTokens_of_noOutputFile`,
  `ofTokens_of_mislocatedRedirection`);
* **both together** — `ofTokens_agrees_with_check`, and what it means for a line that is read.
-/

namespace LineShell.Pipeline

open Structure

/-- A chunk that holds words, and nothing else. -/
def WordsOnly (chunk : List Token) : Prop := chunk ≠ [] ∧ ∀ token ∈ chunk, token.isWord = true

/-- A line passes the checks exactly if none of the three faults is found. -/
theorem check_eq_ok_iff {tokens : List Token} : check tokens = .ok () ↔
    lacksCommand tokens = false ∧ lacksFile tokens = false ∧
      misplacesRedirection tokens = false := by
  unfold check
  cases lacksCommand tokens <;> cases lacksFile tokens <;> cases misplacesRedirection tokens <;>
    simp

/-- The first fault that is found is the one that the checks report. -/
theorem check_eq_error_iff {tokens : List Token} {fault : LineFault} :
    check tokens = .error fault ↔
      lacksCommand tokens = true ∧ fault = .missingCommand ∨
      lacksCommand tokens = false ∧ lacksFile tokens = true ∧ fault = .noOutputFile ∨
      lacksCommand tokens = false ∧ lacksFile tokens = false ∧
        misplacesRedirection tokens = true ∧ fault = .mislocatedRedirection := by
  unfold check
  cases lacksCommand tokens <;> cases lacksFile tokens <;> cases misplacesRedirection tokens <;>
    simp [eq_comm]

/-- No line lacks a command if each of its chunks holds a word and begins with none but a word. -/
theorem lacksCommand_eq_false_iff {tokens : List Token} : lacksCommand tokens = false ↔
    tokens.head?.any Token.isRedirect = false ∧
      ∀ chunk ∈ chunks tokens, chunk.any Token.isWord = true := by
  simp [lacksCommand]

/-! ## Chunks of words, and a redirection behind one -/

theorem WordsOnly.exists_word {chunk : List Token} (h : WordsOnly chunk) :
    ∃ text more, chunk = .word text :: more := by
  obtain ⟨hne, hall⟩ := h
  cases chunk with
  | nil => exact absurd rfl hne
  | cons token more =>
      have htoken := hall token List.mem_cons_self
      cases token with
      | word text => exact ⟨text, more, rfl⟩
      | pipe => exact absurd htoken (by decide)
      | redirect mode target => exact absurd htoken (by simp [Token.isWord])

theorem WordsOnly.any_isRedirect {chunk : List Token} (h : WordsOnly chunk) :
    chunk.any Token.isRedirect = false := by
  refine List.any_eq_false.mpr fun token htoken => ?_
  have hisWord := h.2 token htoken
  rw [Token.isRedirect_eq_not_isWord (Token.ne_pipe_of_isWord hisWord), hisWord]
  decide

section Redirected

variable (rest : List Token) (target : Option Target)

/-- A chunk and the redirection that stands behind it, if there is one. -/
def redirected : List Token :=
  rest ++ (target.map fun target => Token.redirect target.mode target.path).toList

theorem wordCount_redirected : wordCount (redirected rest target) = wordCount rest := by
  cases target <;> simp [redirected, wordCount, List.countP_append, Token.isWord]

theorem any_isWord_redirected :
    (redirected rest target).any Token.isWord = rest.any Token.isWord := by
  cases target <;> simp [redirected, Token.isWord]

variable {rest} in
theorem any_dropLast_redirected (h : rest.any Token.isRedirect = false) :
    (redirected rest target).dropLast.any Token.isRedirect = false := by
  cases target with
  | none =>
      refine List.any_eq_false.mpr fun token htoken => ?_
      unfold redirected at htoken
      rw [Option.map_none, Option.toList_none, List.append_nil] at htoken
      exact List.any_eq_false.mp h token (List.dropLast_subset _ htoken)
  | some target => simpa [redirected] using h

end Redirected

/-! ## What passes the checks -/

theorem wordsOnly_of_any_isWord {chunk : List Token} (hpipe : Token.pipe ∉ chunk)
    (hword : chunk.any Token.isWord = true) (h : chunk.any Token.isRedirect = false) :
    WordsOnly chunk := by
  refine ⟨?_, forall_isWord_of_not_any hpipe h⟩
  rintro rfl
  exact absurd hword (by simp)

/-- A chunk of words alone spells a stage if they are not too many. -/
theorem stage_of_wordsOnly {chunk : List Token} (h : WordsOnly chunk) {limit : Nat}
    (hlimit : wordCount chunk ≤ limit) : ∃ result, stage limit chunk = .ok result := by
  rw [wordCount_of_forall_isWord h.2] at hlimit
  rcases stage_of_forall_isWord limit h.1 h.2 with ⟨hok, -⟩ | ⟨-, hlt⟩
  · exact hok
  · omega

/-- The earlier chunks of a line that passes the checks hold words alone. -/
theorem wordsOnly_of_check {tokens : List Token} (h : check tokens = .ok ())
    {chunk : List Token} (hchunk : chunk ∈ initChunks tokens) : WordsOnly chunk := by
  obtain ⟨hcommand, -, hplace⟩ := check_eq_ok_iff.mp h
  have hmem := mem_chunks_of_mem_initChunks hchunk
  rw [misplacesRedirection_eq, Bool.or_eq_false_iff] at hplace
  have hredirect := List.any_eq_false.mp hplace.1 chunk hchunk
  exact wordsOnly_of_any_isWord (pipe_notMem_of_mem_chunks hmem)
    ((lacksCommand_eq_false_iff.mp hcommand).2 chunk hmem) (by simpa using hredirect)

/-- The last chunk of a line that passes the checks holds words alone once its redirection is
taken off, and all the words it held before. -/
theorem detach_of_check {tokens : List Token} (h : check tokens = .ok ()) :
    ∃ rest, detach (lastChunk tokens) = .ok (rest, target? tokens) ∧ WordsOnly rest ∧
      wordCount rest = wordCount (lastChunk tokens) ∧
      rest.filterMap Token.text? = (lastChunk tokens).filterMap Token.text? := by
  obtain ⟨hcommand, hfile, hplace⟩ := check_eq_ok_iff.mp h
  have hmem := lastChunk_mem_chunks tokens
  have hpipe := pipe_notMem_of_mem_chunks hmem
  have hword := (lacksCommand_eq_false_iff.mp hcommand).2 _ hmem
  rw [misplacesRedirection_eq, Bool.or_eq_false_iff] at hplace
  unfold lacksFile at hfile
  rw [target?_eq] at hfile ⊢
  rw [detach_eq]
  cases htarget : target? (lastChunk tokens) with
  | none =>
      have hredirect : (lastChunk tokens).any Token.isRedirect = false := by
        -- Nothing before the end is a redirection, and neither is the end.
        cases hlast : (lastChunk tokens).getLast? with
        | none => simp_all
        | some token =>
            obtain ⟨front, hfront⟩ := List.getLast?_eq_some_iff.mp hlast
            have htoken : token.isRedirect = false := by
              unfold target? at htarget
              rw [hlast] at htarget
              cases token <;> simp_all [Token.isRedirect]
            have hbefore := hplace.2
            rw [hfront, List.dropLast_concat] at hbefore
            rw [hfront, List.any_append, hbefore]
            simp [htoken]
      refine ⟨lastChunk tokens, ?_, wordsOnly_of_any_isWord hpipe hword hredirect, rfl, rfl⟩
      simp [hredirect]
  | some target =>
      have hchunk := eq_dropLast_append htarget
      have hfront : Token.pipe ∉ (lastChunk tokens).dropLast :=
        fun hin => hpipe (List.dropLast_subset _ hin)
      refine ⟨(lastChunk tokens).dropLast, ?_,
        wordsOnly_of_any_isWord hfront ?_ hplace.2, ?_, ?_⟩
      · have hpath : target.path.isEmpty = false := by
          rw [htarget] at hfile
          exact hfile
        simp only [hpath, hplace.2, Bool.false_eq_true, if_false]
      · rw [hchunk, List.any_append] at hword
        simpa [Token.isWord] using hword
      · conv_rhs => rw [hchunk]
        simp [wordCount, List.countP_append, Token.isWord]
      · conv_rhs => rw [hchunk]
        simp [List.filterMap_append, Token.text?]

/-- A line that passes the checks is read as long as no chunk has too many words, and refused for
nothing else. -/
theorem ofTokens_of_check {tokens : List Token} (h : check tokens = .ok ()) (limit : Nat) :
    (∃ pipeline, ofTokens limit tokens = .ok pipeline) ∧
        (∀ chunk ∈ chunks tokens, wordCount chunk ≤ limit) ∨
      ofTokens limit tokens = .error .tooManyArguments ∧
        ∃ chunk ∈ chunks tokens, limit < wordCount chunk := by
  obtain ⟨rest, hdetach, hrest, hcount, -⟩ := detach_of_check h
  have hall : ∀ chunk ∈ initChunks tokens ++ [rest], WordsOnly chunk := by
    intro chunk hchunk
    rcases List.mem_append.mp hchunk with hchunk | hchunk
    · exact wordsOnly_of_check h hchunk
    · exact List.mem_singleton.mp hchunk ▸ hrest
  -- What is taken off the last chunk is no word, so no count changes.
  have hcounts : ∀ bound : Nat → Prop,
      (∃ chunk ∈ initChunks tokens ++ [rest], bound (wordCount chunk)) ↔
        ∃ chunk ∈ chunks tokens, bound (wordCount chunk) := by
    intro bound
    rw [chunks_eq]
    simp only [List.mem_append, List.mem_singleton, or_and_right, exists_or, exists_eq_left, hcount]
  rw [ofTokens_eq, hdetach]
  simp only [Except.bind]
  by_cases hmany : ∃ chunk ∈ initChunks tokens ++ [rest], limit < wordCount chunk
  · right
    refine ⟨?_, (hcounts _).mp hmany⟩
    rw [mapM_eq_error (e := .tooManyArguments)]
    · intro chunk hchunk
      rcases stage_of_forall_isWord limit (hall chunk hchunk).1 (hall chunk hchunk).2
        with ⟨hok, -⟩ | ⟨herror, -⟩
      · exact .inl hok
      · exact .inr herror
    · obtain ⟨chunk, hchunk, hlt⟩ := hmany
      refine ⟨chunk, hchunk, ?_⟩
      rw [wordCount_of_forall_isWord (hall chunk hchunk).2] at hlt
      rcases stage_of_forall_isWord limit (hall chunk hchunk).1 (hall chunk hchunk).2
        with ⟨-, hle⟩ | ⟨herror, -⟩
      · omega
      · exact herror
  · left
    have hfew : ∀ chunk ∈ initChunks tokens ++ [rest], wordCount chunk ≤ limit :=
      fun chunk hchunk => Nat.le_of_not_lt fun hlt => hmany ⟨chunk, hchunk, hlt⟩
    constructor
    · obtain ⟨stages, hstages⟩ : ∃ stages,
          (initChunks tokens ++ [rest]).mapM (stage limit) = .ok stages := by
        refine exists_mapM_eq_ok fun chunk hchunk => ?_
        have hle := hfew chunk hchunk
        rw [wordCount_of_forall_isWord (hall chunk hchunk).2] at hle
        rcases stage_of_forall_isWord limit (hall chunk hchunk).1 (hall chunk hchunk).2
          with ⟨hok, -⟩ | ⟨-, hlt⟩
        · exact hok
        · omega
      rw [hstages]
      exact ⟨_, rfl⟩
    · intro chunk hchunk
      refine Nat.le_of_not_lt fun hlt => hmany ?_
      exact (hcounts _).mpr ⟨chunk, hchunk, hlt⟩

/-! ## What the parser accepts -/

/-- What the parser accepts is a last chunk that holds words alone once its redirection is taken
off, and earlier ones that hold words alone from the beginning. The words are the arguments of the
stages. -/
theorem parts_of_ofTokens {limit : Nat} {tokens : List Token} {pipeline : Pipeline}
    (h : ofTokens limit tokens = .ok pipeline) :
    ∃ rest, detach (lastChunk tokens) = .ok (rest, pipeline.target) ∧
      (∀ chunk ∈ initChunks tokens ++ [rest], WordsOnly chunk ∧ chunk.length ≤ limit) ∧
      pipeline.stages.map Stage.arguments =
        (initChunks tokens ++ [rest]).map (·.filterMap Token.text?) := by
  rw [ofTokens_eq] at h
  cases hdetach : detach (lastChunk tokens) with
  | error fault => exact absurd h (by simp [hdetach, Except.bind])
  | ok detached =>
      cases hstages : (initChunks tokens ++ [detached.1]).mapM (stage limit) with
      | error fault => exact absurd h (by simp [hdetach, hstages, Except.bind])
      | ok stages =>
          simp only [hdetach, hstages, Except.bind, Except.ok.injEq] at h
          subst h
          have hread : List.Forall₂ (fun chunk result =>
              (WordsOnly chunk ∧ chunk.length ≤ limit) ∧
                chunk.filterMap Token.text? = result.arguments)
              (initChunks tokens ++ [detached.1]) stages := by
            refine (forall₂_of_mapM_eq_ok hstages).imp fun chunk result hstage => ?_
            obtain ⟨hall, hlength, harguments⟩ := stage_eq_ok_iff.mp hstage
            refine ⟨⟨⟨?_, hall⟩, hlength⟩, harguments.symm⟩
            rintro rfl
            exact absurd harguments (by simp [Stage.arguments])
          obtain ⟨hwords, harguments⟩ := (List.forall₂_and_left _ _).mp hread
          refine ⟨detached.1, rfl, hwords, ?_⟩
          rw [eq_comm, ← List.forall₂_eq_eq_eq, List.forall₂_map_left_iff,
            List.forall₂_map_right_iff]
          exact harguments

/-- What the parser accepts passes the checks, and no chunk of it has too many words. -/
theorem check_of_ofTokens {limit : Nat} {tokens : List Token} {pipeline : Pipeline}
    (h : ofTokens limit tokens = .ok pipeline) :
    check tokens = .ok () ∧ ∀ chunk ∈ chunks tokens, wordCount chunk ≤ limit := by
  obtain ⟨rest, hdetach, hread, -⟩ := parts_of_ofTokens h
  obtain ⟨htarget, hfile, hrest, hlast⟩ := detach_eq_ok hdetach
  replace hlast : lastChunk tokens = redirected rest pipeline.target := hlast
  have hinit : ∀ chunk ∈ initChunks tokens, WordsOnly chunk ∧ chunk.length ≤ limit :=
    fun chunk hchunk => hread chunk (List.mem_append_left _ hchunk)
  obtain ⟨hwords, hlength⟩ := hread rest (List.mem_append_right _ List.mem_cons_self)
  -- Each chunk is one of the earlier ones, or the last with its redirection.
  have hcases : ∀ chunk ∈ chunks tokens,
      chunk ∈ initChunks tokens ∨ chunk = redirected rest pipeline.target := by
    intro chunk hchunk
    rw [chunks_eq] at hchunk
    refine (List.mem_append.mp hchunk).imp_right fun hlater => ?_
    rw [List.mem_singleton.mp hlater, hlast]
  have hbegins : ∀ chunk ∈ chunks tokens, ∃ text more, chunk = .word text :: more := by
    intro chunk hchunk
    rcases hcases chunk hchunk with hearlier | rfl
    · exact (hinit chunk hearlier).1.exists_word
    · obtain ⟨text, more, rfl⟩ := hwords.exists_word
      exact ⟨text, _, rfl⟩
  refine ⟨check_eq_ok_iff.mpr ⟨lacksCommand_eq_false_iff.mpr ⟨?_, ?_⟩, ?_, ?_⟩, ?_⟩
  · cases hhead : tokens.head? with
    | none => rfl
    | some token =>
        cases token with
        | word text => rfl
        | pipe => rfl
        | redirect mode target =>
            obtain ⟨chunk, hchunk, hfirst⟩ := exists_chunk_of_head? hhead (by simp)
            obtain ⟨text, more, rfl⟩ := hbegins chunk hchunk
            exact absurd hfirst (by simp)
  · intro chunk hchunk
    obtain ⟨text, more, rfl⟩ := hbegins chunk hchunk
    simp [Token.isWord]
  · unfold lacksFile
    rw [target?_eq, ← htarget]
    exact hfile
  · rw [misplacesRedirection_eq, Bool.or_eq_false_iff, hlast]
    refine ⟨List.any_eq_false.mpr fun chunk hchunk => ?_, any_dropLast_redirected _ hrest⟩
    rw [(hinit chunk hchunk).1.any_isRedirect]
    decide
  · intro chunk hchunk
    rcases hcases chunk hchunk with hearlier | rfl
    · rw [wordCount_of_forall_isWord (hinit chunk hearlier).1.2]
      exact (hinit chunk hearlier).2
    · rw [wordCount_redirected, wordCount_of_forall_isWord hwords.2]
      exact hlength

/-! ## What both refuse -/

/-- The parser finds a redirection without a file as the checks do. -/
theorem ofTokens_of_noOutputFile {tokens : List Token} (h : check tokens = .error .noOutputFile)
    (limit : Nat) : ofTokens limit tokens = .error .noOutputFile := by
  have hfile : lacksFile tokens = true := by
    rcases check_eq_error_iff.mp h with ⟨-, heq⟩ | ⟨-, hfile, -⟩ | ⟨-, -, -, heq⟩
    · cases heq
    · exact hfile
    · cases heq
  unfold lacksFile at hfile
  rw [target?_eq] at hfile
  cases htarget : target? (lastChunk tokens) with
  | none => exact absurd hfile (by simp [htarget])
  | some target =>
      rw [htarget] at hfile
      have hpath : target.path.isEmpty = true := hfile
      rw [ofTokens_eq, detach_eq, htarget]
      simp only [hpath, if_true]
      rfl

/-- A last chunk that does not lack a file is at fault for a misplaced redirection only. -/
theorem mislocated_of_detach {tokens : List Token} {fault : LineFault}
    (hfile : lacksFile tokens = false) (h : detach (lastChunk tokens) = .error fault) :
    fault = .mislocatedRedirection := by
  rw [detach_eq] at h
  unfold lacksFile at hfile
  rw [target?_eq] at hfile
  cases htarget : target? (lastChunk tokens) with
  | none =>
      simp only [htarget] at h
      split at h <;> cases h
      rfl
  | some target =>
      rw [htarget] at hfile
      have hpath : target.path.isEmpty = false := hfile
      simp only [htarget, hpath, Bool.false_eq_true, if_false] at h
      split at h <;> cases h
      rfl

/-- A chunk with a word and not too many of them is a stage, or at fault for a redirection. -/
theorem stage_of_any_isWord {chunk : List Token} {limit : Nat} (hpipe : Token.pipe ∉ chunk)
    (hword : chunk.any Token.isWord = true) (hlimit : wordCount chunk ≤ limit) :
    (∃ result, stage limit chunk = .ok result) ∨
      stage limit chunk = .error .mislocatedRedirection := by
  cases hredirect : chunk.any Token.isRedirect with
  | true => exact .inr (stage_of_any_isRedirect hpipe hredirect hlimit)
  | false => exact .inl (stage_of_wordsOnly (wordsOnly_of_any_isWord hpipe hword hredirect) hlimit)

/-- The parser finds a misplaced redirection as the checks do, unless it has counted too many
words before. -/
theorem ofTokens_of_mislocatedRedirection {tokens : List Token}
    (h : check tokens = .error .mislocatedRedirection) {limit : Nat}
    (hlimit : ∀ chunk ∈ chunks tokens, wordCount chunk ≤ limit) :
    ofTokens limit tokens = .error .mislocatedRedirection := by
  obtain ⟨hcommand, hfile, hplace⟩ : lacksCommand tokens = false ∧ lacksFile tokens = false ∧
      misplacesRedirection tokens = true := by
    rcases check_eq_error_iff.mp h with ⟨-, heq⟩ | ⟨-, -, heq⟩ | ⟨hcommand, hfile, hplace, -⟩
    · cases heq
    · cases heq
    · exact ⟨hcommand, hfile, hplace⟩
  have hhasWord := (lacksCommand_eq_false_iff.mp hcommand).2
  rw [ofTokens_eq]
  cases hdetach : detach (lastChunk tokens) with
  | error fault =>
      rw [mislocated_of_detach hfile hdetach]
      rfl
  | ok detached =>
      obtain ⟨rest, target⟩ := detached
      obtain ⟨-, -, hrest, hlast⟩ := detach_eq_ok hdetach
      replace hlast : lastChunk tokens = redirected rest target := hlast
      have hmem := lastChunk_mem_chunks tokens
      have hrestPipe : Token.pipe ∉ rest := fun hin =>
        pipe_notMem_of_mem_chunks hmem (hlast ▸ List.mem_append_left _ hin)
      have hrestWord : rest.any Token.isWord = true := by
        rw [← any_isWord_redirected rest target, ← hlast]
        exact hhasWord _ hmem
      have hrestLimit : wordCount rest ≤ limit := by
        rw [← wordCount_redirected rest target, ← hlast]
        exact hlimit _ hmem
      -- The last chunk is in order, so an earlier one is not.
      obtain ⟨chunk, hchunk, hredirect⟩ :
          ∃ chunk ∈ initChunks tokens, chunk.any Token.isRedirect = true := by
        rw [misplacesRedirection_eq, hlast, any_dropLast_redirected target hrest,
          Bool.or_false] at hplace
        exact List.any_eq_true.mp hplace
      have hin := mem_chunks_of_mem_initChunks hchunk
      simp only [Except.bind]
      rw [mapM_eq_error (e := .mislocatedRedirection)]
      · intro other hother
        rcases List.mem_append.mp hother with hother | hother
        · have hearlier := mem_chunks_of_mem_initChunks hother
          exact stage_of_any_isWord (pipe_notMem_of_mem_chunks hearlier) (hhasWord other hearlier)
            (hlimit other hearlier)
        · rw [List.mem_singleton.mp hother]
          exact stage_of_any_isWord hrestPipe hrestWord hrestLimit
      · exact ⟨chunk, List.mem_append_left _ hchunk,
          stage_of_any_isRedirect (pipe_notMem_of_mem_chunks hin) hredirect (hlimit chunk hin)⟩

/-! ## Both together -/

/-- **Agreement.** On every list of tokens and for every limit, the parser accepts exactly what
passes the checks and has not too many words in any chunk; of what passes the checks it refuses
nothing for another reason than that; and where the checks find a redirection without a file or
in the wrong place, so does the parser if no chunk has too many words. So a line that has passed
its inspection is never refused for anything but too many words. -/
theorem ofTokens_agrees_with_check (tokens : List Token) (limit : Nat) :
    ((∃ pipeline, ofTokens limit tokens = .ok pipeline) ↔
      check tokens = .ok () ∧ ∀ chunk ∈ chunks tokens, wordCount chunk ≤ limit) ∧
    (check tokens = .ok () →
      (∀ fault, ofTokens limit tokens = .error fault → fault = .tooManyArguments) ∧
      (ofTokens limit tokens = .error .tooManyArguments ↔
        ∃ chunk ∈ chunks tokens, limit < wordCount chunk)) ∧
    (∀ fault, fault = .noOutputFile ∨ fault = .mislocatedRedirection →
      check tokens = .error fault → (∀ chunk ∈ chunks tokens, wordCount chunk ≤ limit) →
      ofTokens limit tokens = .error fault) ∧
    (∀ {σ : Type} (world : World σ) (config : Config) (before after : σ) (fault : LineFault),
      Prog.Ends world (Shell.readLine config tokens) before (.error fault) after →
      Prog.Ends world (inspect tokens) before (.error fault) after ∨
        Prog.Ends world (inspect tokens) before (.ok ()) after ∧ fault = .tooManyArguments ∧
          ∃ chunk ∈ chunks tokens, config.maxArguments < wordCount chunk) := by
  refine ⟨⟨?_, ?_⟩, ?_, ?_, ?_⟩
  · rintro ⟨pipeline, h⟩
    exact check_of_ofTokens h
  · rintro ⟨hcheck, hlimit⟩
    rcases ofTokens_of_check hcheck limit with ⟨hok, -⟩ | ⟨-, chunk, hchunk, hlt⟩
    · exact hok
    · exact absurd (hlimit chunk hchunk) (Nat.not_le_of_lt hlt)
  · intro hcheck
    rcases ofTokens_of_check hcheck limit with ⟨⟨pipeline, hok⟩, hfew⟩ | ⟨herror, hmany⟩
    · rw [hok]
      refine ⟨fun fault h => absurd h (by simp), fun h => absurd h (by simp), ?_⟩
      rintro ⟨chunk, hchunk, hlt⟩
      exact absurd (hfew chunk hchunk) (Nat.not_le_of_lt hlt)
    · rw [herror]
      refine ⟨?_, fun _ => hmany, fun _ => rfl⟩
      intro fault h
      cases h
      rfl
  · rintro fault (rfl | rfl) hcheck hlimit
    · exact ofTokens_of_noOutputFile hcheck limit
    · exact ofTokens_of_mislocatedRedirection hcheck hlimit
  · intro σ world config before after fault h
    rcases ends_readLine_iff.mp h with ⟨other, hinspect, heq⟩ | ⟨hinspect, hparse⟩
    · cases heq
      exact .inl hinspect
    · have hcheck : check tokens = .ok () := by
        rcases ends_inspect_iff.mp hinspect with ⟨other, -, heq, -⟩ | ⟨hcheck, -⟩
        · exact absurd heq (by simp)
        · exact hcheck
      rcases ofTokens_of_check hcheck config.maxArguments with ⟨⟨pipeline, hok⟩, -⟩ | ⟨herror, hmany⟩
      · rw [hok] at hparse
        exact absurd hparse (by simp)
      · rw [herror] at hparse
        cases hparse
        exact .inr ⟨hinspect, rfl, hmany⟩

end LineShell.Pipeline
