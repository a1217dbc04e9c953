import LineShell.Proofs.Line.Agreement

/-!
# Pipelines and the tokens that ask for them

To read a pipeline off its tokens is the inverse of writing its tokens down.

* **`Pipeline.tokens`** — the words of the stages, pipes between them, and the redirection last;
* **`tokens_of_ofTokens`, `ofTokens_tokens`** — what is read is what is written down, and the
  other way round, for the pipelines that `Fits` a limit;
* **`Sentence`** — the lists of tokens that are read, as a grammar;
* **`ofTokens_inverts_tokens`** — all of it, for every list of tokens and every limit.
-/

namespace LineShell

/-- The words of a stage, as tokens. -/
def Stage.tokens (stage : Stage) : List Token := stage.arguments.map .word

/-- The redirection to a target. -/
def Target.token (target : Target) : Token := .redirect target.mode target.path

namespace Pipeline

/-- The tokens that ask for a pipeline. -/
def tokens (pipeline : Pipeline) : List Token :=
  [Token.pipe].intercalate (pipeline.stages.map Stage.tokens)
    ++ (pipeline.target.map Target.token).toList

/-- There is a stage, none has more words than the limit or no word at all, and the target, if there
is one, has a name. -/
structure Fits (limit : Nat) (pipeline : Pipeline) : Prop where
  stages : pipeline.stages ≠ []
  arguments : ∀ stage ∈ pipeline.stages,
    1 ≤ stage.arguments.length ∧ stage.arguments.length ≤ limit
  target : ∀ target, pipeline.target = some target → target.path ≠ ""

/-- Words, at least one and no more than the limit, as tokens. -/
def IsWords (limit : Nat) (chunk : List Token) : Prop :=
  ∃ words : List String, words ≠ [] ∧ words.length ≤ limit ∧ chunk = words.map .word

/-- `Word+ (Pipe Word+)* Redirect?`: words, further words behind pipes, and at the end a redirection
that names a file, or none. -/
inductive Sentence (limit : Nat) : List Token → Prop
  | plain {chunk : List Token} : IsWords limit chunk → Sentence limit chunk
  | redirected {chunk : List Token} {mode : WriteMode} {path : String} : IsWords limit chunk →
      path ≠ "" → Sentence limit (chunk ++ [.redirect mode path])
  | piped {chunk rest : List Token} : IsWords limit chunk → Sentence limit rest →
      Sentence limit (chunk ++ .pipe :: rest)

variable {limit : Nat} {tokens : List Token} {pipeline : Pipeline}

/-! ## Words and chunks -/

/-- A chunk of words alone is its texts, as tokens. -/
theorem map_word_text? {chunk : List Token} (h : ∀ token ∈ chunk, token.isWord = true) :
    (chunk.filterMap Token.text?).map .word = chunk := by
  induction chunk with
  | nil => rfl
  | cons token rest ih =>
      have hrest := ih fun other hother => h other (List.mem_cons_of_mem _ hother)
      cases token with
      | word text => exact congrArg (Token.word text :: ·) hrest
      | pipe => exact absurd (h .pipe List.mem_cons_self) (by decide)
      | redirect mode path => exact absurd (h _ List.mem_cons_self) (by simp [Token.isWord])

theorem isWord_of_mem_tokens {stage : Stage} {token : Token} (h : token ∈ stage.tokens) :
    token.isWord = true := by
  obtain ⟨text, -, rfl⟩ := List.mem_map.mp h
  rfl

theorem text?_tokens (stage : Stage) : stage.tokens.filterMap Token.text? = stage.arguments := by
  unfold Stage.tokens
  rw [List.filterMap_map]
  exact List.filterMap_some

theorem length_tokens (stage : Stage) : stage.tokens.length = stage.arguments.length :=
  List.length_map _

/-- The words of a stage are read as that stage, if they are not too many. -/
theorem stage_tokens {stage : Stage} (h : stage.arguments.length ≤ limit) :
    Pipeline.stage limit stage.tokens = .ok stage :=
  stage_eq_ok_iff.mpr ⟨fun _ => isWord_of_mem_tokens, (length_tokens stage).symm ▸ h,
    (text?_tokens stage).symm⟩

/-- What is put behind the last of some lists stands behind all of them. -/
theorem intercalate_concat_append {α : Type} (separator : List α) (front : List (List α))
    (last behind : List α) : separator.intercalate (front ++ [last ++ behind]) =
      separator.intercalate (front ++ [last]) ++ behind := by
  induction front with
  | nil => simp
  | cons first rest ih =>
      rw [List.cons_append, List.cons_append, List.intercalate_cons_of_ne_nil (by simp),
        List.intercalate_cons_of_ne_nil (by simp), ih, ← List.append_assoc]

/-- A line is its chunks with pipes between them. -/
theorem intercalate_chunks (tokens : List Token) :
    [Token.pipe].intercalate (chunks tokens) = tokens := by
  rw [chunks_eq_splitOn]
  exact List.intercalate_splitOn Token.pipe

/-! ## From tokens to tokens -/

/-- What is read of a line is what stands there: nothing is lost, added or moved. -/
theorem tokens_of_ofTokens (h : ofTokens limit tokens = .ok pipeline) :
    pipeline.tokens = tokens ∧ pipeline.Fits limit := by
  obtain ⟨rest, hdetach, hchunks, harguments⟩ := parts_of_ofTokens h
  obtain ⟨-, hname, -, hlast⟩ := detach_eq_ok hdetach
  -- what is left of the last chunk without its redirection is the last stage
  have hstages : pipeline.stages.map Stage.tokens = initChunks tokens ++ [rest] := by
    have hwords := congrArg (List.map (List.map Token.word)) harguments
    rw [List.map_map, List.map_map] at hwords
    refine hwords.trans ?_
    conv_rhs => rw [← List.map_id (initChunks tokens ++ [rest])]
    exact List.map_congr_left fun chunk hchunk => map_word_text? (hchunks chunk hchunk).1.2
  have hstage : ∀ stage ∈ pipeline.stages, stage.tokens ∈ initChunks tokens ++ [rest] :=
    fun stage hmem => hstages ▸ List.mem_map_of_mem hmem
  refine ⟨?_, ?_, fun stage hmem => ?_, ?_⟩
  · have hpieces := intercalate_chunks tokens
    rw [chunks_eq, hlast, intercalate_concat_append, ← hstages] at hpieces
    exact hpieces
  · intro hnone
    rw [hnone] at hstages
    exact absurd hstages.symm (by simp)
  · rw [← length_tokens]
    exact ⟨List.length_pos_iff.mpr (hchunks _ (hstage stage hmem)).1.1,
      (hchunks _ (hstage stage hmem)).2⟩
  · intro target htarget
    rw [htarget, Option.any_some] at hname
    simpa using hname

/-! ## From pipelines to pipelines -/

theorem pipe_notMem_tokens (stage : Stage) : Token.pipe ∉ stage.tokens :=
  fun h => absurd (isWord_of_mem_tokens h) (by decide)

/-- The chunks of a line that asks for a pipeline are its stages, the last one with the
redirection. -/
theorem chunks_tokens (front : List Stage) (last : Stage) (target : Option Target) :
    chunks (Pipeline.tokens ⟨front ++ [last], target⟩) =
      front.map Stage.tokens ++ [last.tokens ++ (target.map Target.token).toList] := by
  unfold Pipeline.tokens
  dsimp only
  rw [List.map_append, List.map_singleton, ← intercalate_concat_append, chunks_eq_splitOn,
    List.splitOn_intercalate]
  · intro chunk hchunk
    rcases List.mem_append.mp hchunk with hchunk | hchunk
    · obtain ⟨stage, -, rfl⟩ := List.mem_map.mp hchunk
      exact pipe_notMem_tokens stage
    · rw [List.mem_singleton.mp hchunk]
      cases target <;> simp [pipe_notMem_tokens, Target.token]
  · simp

/-- The redirection is taken off the words before it. -/
theorem detach_tokens {stage : Stage} {target : Option Target}
    (h : ∀ found, target = some found → found.path ≠ "") :
    detach (stage.tokens ++ (target.map Target.token).toList) = .ok (stage.tokens, target) := by
  have hredirect : stage.tokens.any Token.isRedirect = false := by
    refine List.any_eq_false.mpr fun token htoken => ?_
    have hword := isWord_of_mem_tokens htoken
    rw [Token.isRedirect_eq_not_isWord (Token.ne_pipe_of_isWord hword), hword]
    simp
  rw [detach_eq]
  cases target with
  | none =>
      have hnone : Structure.target? stage.tokens = none := by
        unfold Structure.target?
        split
        · rename_i mode path hlast
          exact absurd (List.any_eq_false.mp hredirect _ (List.mem_of_getLast? hlast))
            (by simp [Token.isRedirect])
        · rfl
      simp [hnone, hredirect]
  | some found =>
      have hname : found.path.isEmpty = false := by simpa using h found rfl
      simp [Structure.target?, Target.token, hname, hredirect]

/-- A traversal that brings each element back to where it comes from. -/
theorem mapM_map_eq_ok {α β ε : Type} {f : α → Except ε β} {g : β → α} {xs : List β}
    (h : ∀ x ∈ xs, f (g x) = .ok x) : (xs.map g).mapM f = .ok xs := by
  induction xs with
  | nil => rfl
  | cons x xs ih =>
      rw [List.map_cons, List.mapM_cons, h x List.mem_cons_self,
        ih fun y hy => h y (List.mem_cons_of_mem _ hy)]
      rfl

/-- A pipeline that fits the limit is read off the tokens that ask for it. -/
theorem ofTokens_tokens (h : pipeline.Fits limit) :
    ofTokens limit pipeline.tokens = .ok pipeline := by
  obtain ⟨stages, target⟩ := pipeline
  obtain ⟨front, last, rfl⟩ : ∃ front last, stages = front ++ [last] :=
    ⟨_, _, (List.dropLast_append_getLast h.stages).symm⟩
  have hchunks := chunks_tokens front last target
  have hlast : lastChunk (Pipeline.tokens ⟨front ++ [last], target⟩) =
      last.tokens ++ (target.map Target.token).toList := by
    unfold lastChunk
    rw [hchunks, List.getLast?_concat]
    rfl
  have hinit : initChunks (Pipeline.tokens ⟨front ++ [last], target⟩) =
      front.map Stage.tokens := by
    unfold initChunks
    rw [hchunks, List.dropLast_concat]
  have hstages : (front.map Stage.tokens ++ [last.tokens]).mapM (stage limit) =
      .ok (front ++ [last]) := by
    rw [← List.map_singleton, ← List.map_append]
    exact mapM_map_eq_ok fun stage hstage => stage_tokens (h.arguments stage hstage).2
  rw [ofTokens_eq, hlast, hinit, detach_tokens h.target]
  simp only [Except.bind, hstages]

/-! ## The grammar -/

theorem isWords_tokens {stage : Stage} (h : stage.arguments.length ≤ limit) :
    IsWords limit stage.tokens := ⟨stage.arguments, by simp [Stage.arguments], h, rfl⟩

theorem IsWords.exists_stage {chunk : List Token} (h : IsWords limit chunk) :
    ∃ stage : Stage, chunk = stage.tokens ∧ 1 ≤ stage.arguments.length ∧
      stage.arguments.length ≤ limit := by
  obtain ⟨words, hne, hlimit, rfl⟩ := h
  cases words with
  | nil => exact absurd rfl hne
  | cons program operands => exact ⟨⟨program, operands⟩, rfl, by simp [Stage.arguments], hlimit⟩

/-- The tokens that ask for a pipeline make up a sentence. -/
theorem Fits.sentence (h : pipeline.Fits limit) : Sentence limit pipeline.tokens := by
  obtain ⟨stages, target⟩ := pipeline
  unfold Pipeline.tokens
  dsimp only
  induction stages with
  | nil => exact absurd rfl h.stages
  | cons first rest ih =>
      have hfirst := isWords_tokens (h.arguments first List.mem_cons_self).2
      cases rest with
      | nil =>
          cases target with
          | none => simpa using .plain hfirst
          | some target => simpa [Target.token] using Sentence.redirected hfirst (h.target target rfl)
      | cons second more =>
          have hrest := ih ⟨by simp, fun stage hstage =>
            h.arguments stage (List.mem_cons_of_mem _ hstage), h.target⟩
          simpa using Sentence.piped hfirst hrest

/-- Every sentence asks for a pipeline. -/
theorem Sentence.exists_pipeline (h : Sentence limit tokens) :
    ∃ pipeline : Pipeline, pipeline.Fits limit ∧ pipeline.tokens = tokens := by
  induction h with
  | plain hwords =>
      obtain ⟨stage, rfl, hstage⟩ := hwords.exists_stage
      exact ⟨⟨[stage], none⟩, ⟨by simp, by simpa using hstage, by simp⟩, by simp [Pipeline.tokens]⟩
  | @redirected _ mode path hwords hpath =>
      obtain ⟨stage, rfl, hstage⟩ := hwords.exists_stage
      exact ⟨⟨[stage], some ⟨path, mode⟩⟩, ⟨by simp, by simpa using hstage, by simpa using hpath⟩,
        by simp [Pipeline.tokens, Target.token]⟩
  | piped hwords _ ih =>
      obtain ⟨stage, rfl, hstage⟩ := hwords.exists_stage
      obtain ⟨⟨stages, target⟩, hfits, rfl⟩ := ih
      refine ⟨⟨stage :: stages, target⟩, ⟨by simp, ?_, hfits.target⟩, ?_⟩
      · intro other hother
        rcases List.mem_cons.mp hother with rfl | hother
        · exact hstage
        · exact hfits.arguments other hother
      · have hne : stages.map Stage.tokens ≠ [] := by simpa using hfits.stages
        simp [Pipeline.tokens, List.intercalate_cons_of_ne_nil hne]

/-! ## Both together -/

/-- **Reading inverts writing.** For every limit and every list of tokens, the parser comes to a
pipeline exactly if the list is what asks for that pipeline, which has at least one stage, from one
word up to the limit in each, and a name for its target if it has one. So no word, stage or
redirection is lost, doubled or moved; and the lists that it accepts are the sentences
`Word+ (Pipe Word+)* Redirect?`. -/
theorem ofTokens_inverts_tokens (limit : Nat) (tokens : List Token) :
    (∀ pipeline, ofTokens limit tokens = .ok pipeline ↔
      pipeline.tokens = tokens ∧ pipeline.Fits limit) ∧
    ((∃ pipeline, ofTokens limit tokens = .ok pipeline) ↔ Sentence limit tokens) := by
  have hinverse : ∀ pipeline, ofTokens limit tokens = .ok pipeline ↔
      pipeline.tokens = tokens ∧ pipeline.Fits limit := by
    intro pipeline
    constructor
    · exact tokens_of_ofTokens
    · rintro ⟨rfl, hfits⟩
      exact ofTokens_tokens hfits
  refine ⟨hinverse, ?_, fun hsentence => ?_⟩
  · rintro ⟨pipeline, hread⟩
    obtain ⟨rfl, hfits⟩ := tokens_of_ofTokens hread
    exact hfits.sentence
  · obtain ⟨pipeline, hfits, rfl⟩ := hsentence.exists_pipeline
    exact ⟨pipeline, ofTokens_tokens hfits⟩

end Pipeline

end LineShell
