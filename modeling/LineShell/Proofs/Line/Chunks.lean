import LineShell.Line.Structure
import Mathlib.Data.List.Forall2

/-!
# Chunks of a line

What the checks and the parser see of a line, in terms of its chunks: the runs of tokens between
pipes.

* **cutting** — `chunks` is `List.splitOn` at the pipe, no chunk holds a pipe, and the line is its
  chunks with the pipes put back (`eq_flatMap_append_lastChunk`);
* **checking** — the redirection at the end is the last chunk's (`target?_eq`), and a redirection
  is misplaced in an earlier chunk or before the end of the last one (`misplacesRedirection_eq`);
* **reading** — a chunk spells a stage exactly if it holds words alone, some of them and not too
  many (`stage_eq_ok_iff`), and which fault it has otherwise.
-/

namespace LineShell

namespace Token

/-- The text of a word. -/
def text? : Token → Option String
  | .word text => some text
  | _ => none

/-- Between pipes, what is no word is a redirection. -/
theorem isRedirect_eq_not_isWord {token : Token} (h : token ≠ .pipe) :
    token.isRedirect = !token.isWord := by
  cases token with
  | word => rfl
  | pipe => exact absurd rfl h
  | redirect => rfl

theorem ne_pipe_of_isWord {token : Token} (h : token.isWord = true) : token ≠ .pipe := by
  rintro rfl
  exact absurd h (by decide)

end Token

/-! ## Runs between separators -/

/-- A list is cut at a separator into lists without it. -/
theorem notMem_of_mem_splitOn {α : Type} [BEq α] [LawfulBEq α] {separator : α}
    {xs run : List α} (h : run ∈ xs.splitOn separator) : separator ∉ run := by
  induction xs generalizing run with
  | nil => simp_all
  | cons x xs ih =>
      rw [List.splitOn_cons_eq_if_modifyHead] at h
      split at h
      · rcases List.mem_cons.mp h with rfl | h
        · exact List.not_mem_nil
        · exact ih h
      · rename_i hx
        have hne : separator ≠ x := fun heq => hx (beq_iff_eq.mpr heq.symm)
        obtain ⟨first, more, hruns⟩ := List.exists_cons_of_ne_nil (List.splitOn_ne_nil separator xs)
        rw [hruns, List.modifyHead_cons] at h
        rcases List.mem_cons.mp h with rfl | h
        · have hfirst := ih (hruns ▸ List.mem_cons_self)
          simp [hfirst, hne]
        · exact ih (hruns ▸ List.mem_cons_of_mem _ h)

/-! ## Traversals that stop at the first fault -/

section Traversal

variable {α β ε : Type} {f : α → Except ε β}

/-- A traversal succeeds with the results of the elements, in order. -/
theorem forall₂_of_mapM_eq_ok {xs : List α} {ys : List β} (h : xs.mapM f = .ok ys) :
    List.Forall₂ (fun x y => f x = .ok y) xs ys := by
  induction xs generalizing ys with
  | nil =>
      cases h
      exact .nil
  | cons x xs ih =>
      rw [List.mapM_cons] at h
      cases hx : f x with
      | error e => rw [hx] at h; exact absurd h (by simp [bind, Except.bind])
      | ok y =>
          cases hxs : xs.mapM f with
          | error e => rw [hx, hxs] at h; exact absurd h (by simp [bind, Except.bind])
          | ok rest =>
              rw [hx, hxs] at h
              cases h
              exact .cons hx (ih hxs)

/-- A traversal of elements none of which fails succeeds. -/
theorem exists_mapM_eq_ok {xs : List α} (h : ∀ x ∈ xs, ∃ y, f x = .ok y) :
    ∃ ys, xs.mapM f = .ok ys := by
  induction xs with
  | nil => exact ⟨[], rfl⟩
  | cons x xs ih =>
      obtain ⟨y, hy⟩ := h x List.mem_cons_self
      obtain ⟨ys, hys⟩ := ih fun z hz => h z (List.mem_cons_of_mem _ hz)
      refine ⟨y :: ys, ?_⟩
      rw [List.mapM_cons, hy, hys]
      rfl

/-- A traversal in which only one fault can occur, and does, ends with it. -/
theorem mapM_eq_error {xs : List α} {e : ε} (hall : ∀ x ∈ xs, (∃ y, f x = .ok y) ∨ f x = .error e)
    (hsome : ∃ x ∈ xs, f x = .error e) : xs.mapM f = .error e := by
  induction xs with
  | nil => exact absurd hsome (by simp)
  | cons x xs ih =>
      rw [List.mapM_cons]
      rcases hall x List.mem_cons_self with ⟨y, hy⟩ | hx
      · have hrest : ∃ z ∈ xs, f z = .error e := by
          obtain ⟨z, hz, hfz⟩ := hsome
          rcases List.mem_cons.mp hz with rfl | hz
          · exact absurd hfz (by rw [hy]; simp)
          · exact ⟨z, hz, hfz⟩
        rw [hy, ih (fun z hz => hall z (List.mem_cons_of_mem _ hz)) hrest]
        rfl
      · rw [hx]
        rfl

end Traversal

namespace Pipeline

/-! ## Cutting -/

theorem chunks_ne_nil (tokens : List Token) : chunks tokens ≠ [] := by
  cases tokens with
  | nil => simp [chunks]
  | cons token rest =>
      cases token <;> simp only [chunks, ne_eq, reduceCtorEq, not_false_eq_true] <;>
        split <;> simp

theorem chunks_cons {token : Token} (rest : List Token) (h : token ≠ .pipe) :
    chunks (token :: rest) = (chunks rest).modifyHead (token :: ·) := by
  obtain ⟨chunk, more, hchunks⟩ := List.exists_cons_of_ne_nil (chunks_ne_nil rest)
  cases token with
  | pipe => exact absurd rfl h
  | word text => simp [chunks, hchunks]
  | redirect mode target => simp [chunks, hchunks]

/-- The chunks are what the pipes cut the line into. -/
theorem chunks_eq_splitOn (tokens : List Token) : chunks tokens = tokens.splitOn .pipe := by
  induction tokens with
  | nil => rfl
  | cons token rest ih =>
      rw [List.splitOn_cons_eq_if_modifyHead]
      by_cases h : token = .pipe
      · subst h
        simp [chunks, ih]
      · rw [chunks_cons rest h, ih]
        simp [h]

/-- No chunk holds a pipe. -/
theorem pipe_notMem_of_mem_chunks {tokens chunk : List Token} (h : chunk ∈ chunks tokens) :
    Token.pipe ∉ chunk := by
  rw [chunks_eq_splitOn] at h
  exact notMem_of_mem_splitOn h

/-- The chunks before the last one. -/
def initChunks (tokens : List Token) : List (List Token) := (chunks tokens).dropLast

/-- The last chunk. -/
def lastChunk (tokens : List Token) : List Token := (chunks tokens).getLast?.getD []

theorem chunks_eq (tokens : List Token) : chunks tokens = initChunks tokens ++ [lastChunk tokens] := by
  unfold initChunks lastChunk
  rw [List.getLast?_eq_some_getLast (chunks_ne_nil tokens)]
  exact (List.dropLast_concat_getLast (chunks_ne_nil tokens)).symm

theorem mem_chunks_of_mem_initChunks {tokens chunk : List Token} (h : chunk ∈ initChunks tokens) :
    chunk ∈ chunks tokens := List.dropLast_subset _ h

theorem lastChunk_mem_chunks (tokens : List Token) : lastChunk tokens ∈ chunks tokens := by
  rw [chunks_eq]
  exact List.mem_append_right _ List.mem_cons_self

/-- A line is its chunks with a pipe behind each but the last. -/
theorem eq_flatMap_append_lastChunk (tokens : List Token) :
    tokens = (initChunks tokens).flatMap (· ++ [.pipe]) ++ lastChunk tokens := by
  induction tokens with
  | nil => rfl
  | cons token rest ih =>
      obtain ⟨first, more, hchunks⟩ := List.exists_cons_of_ne_nil (chunks_ne_nil rest)
      unfold initChunks lastChunk at ih ⊢
      by_cases hpipe : token = .pipe
      · subst hpipe
        simp only [chunks, hchunks] at ih ⊢
        conv_lhs => rw [ih]
        simp
      · rw [chunks_cons rest hpipe]
        rw [hchunks] at ih ⊢
        conv_lhs => rw [ih]
        cases more <;> simp

/-- The line begins as its first chunk does, unless it begins with a pipe. -/
theorem exists_chunk_of_head? {token : Token} {tokens : List Token}
    (h : tokens.head? = some token) (hpipe : token ≠ .pipe) :
    ∃ chunk ∈ chunks tokens, chunk.head? = some token := by
  cases tokens with
  | nil => exact absurd h (by simp)
  | cons first rest =>
      obtain rfl : first = token := by simpa using h
      obtain ⟨chunk, more, hchunks⟩ := List.exists_cons_of_ne_nil (chunks_ne_nil rest)
      refine ⟨first :: chunk, ?_, rfl⟩
      rw [chunks_cons rest hpipe, hchunks]
      exact List.mem_cons_self

/-! ## Checking -/

/-- The redirection at the end of the line is the one at the end of its last chunk. -/
theorem target?_eq (tokens : List Token) :
    Structure.target? tokens = Structure.target? (lastChunk tokens) := by
  have hline := eq_flatMap_append_lastChunk tokens
  generalize lastChunk tokens = last at hline ⊢
  generalize initChunks tokens = init at hline
  subst hline
  cases last with
  | nil =>
      rcases List.eq_nil_or_concat init with rfl | ⟨front, chunk, rfl⟩
      · rfl
      · simp [Structure.target?]
  | cons token rest =>
      unfold Structure.target?
      rw [List.getLast?_append, List.getLast?_eq_some_getLast (List.cons_ne_nil token rest)]
      rfl

/-- A redirection stands before the end of the line if it stands in an earlier chunk, or before
the end of the last one. -/
theorem misplacesRedirection_eq (tokens : List Token) :
    Structure.misplacesRedirection tokens =
      ((initChunks tokens).any (·.any Token.isRedirect)
        || (lastChunk tokens).dropLast.any Token.isRedirect) := by
  have hline := eq_flatMap_append_lastChunk tokens
  have hfront : ∀ chunks : List (List Token), (chunks.flatMap (· ++ [.pipe])).any Token.isRedirect =
      chunks.any (·.any Token.isRedirect) := by
    intro chunks
    induction chunks with
    | nil => rfl
    | cons chunk more ih => simp_all [Token.isRedirect]
  unfold Structure.misplacesRedirection
  generalize lastChunk tokens = last at hline ⊢
  generalize initChunks tokens = init at hline ⊢
  subst hline
  cases last with
  | nil =>
      -- The line ends with a pipe, which is what is left out.
      rcases List.eq_nil_or_concat init with rfl | ⟨front, chunk, rfl⟩
      · rfl
      · rw [List.append_nil, List.concat_eq_append, List.flatMap_append, List.flatMap_singleton,
          ← List.append_assoc, List.dropLast_concat, List.any_append, hfront]
        simp
  | cons token rest =>
      rw [List.dropLast_append_of_ne_nil (List.cons_ne_nil token rest), List.any_append, hfront]

/-! ## Reading -/

/-- How many words a chunk holds. -/
def wordCount (chunk : List Token) : Nat := chunk.countP Token.isWord

/-- A chunk of words alone is read if there is room for them. -/
theorem words_of_forall_isWord {chunk : List Token} (h : ∀ token ∈ chunk, token.isWord = true)
    (room : Nat) : words room chunk =
      if chunk.length ≤ room then .ok (chunk.filterMap Token.text?)
      else .error .tooManyArguments := by
  induction chunk generalizing room with
  | nil => simp [words]
  | cons token rest ih =>
      have hrest := ih fun other hother => h other (List.mem_cons_of_mem _ hother)
      cases token with
      | pipe => exact absurd (h .pipe List.mem_cons_self) (by decide)
      | redirect mode target => exact absurd (h _ List.mem_cons_self) (by simp [Token.isWord])
      | word text =>
          cases room with
          | zero => simp [words]
          | succ room =>
              simp only [words, hrest room, List.length_cons, Nat.add_le_add_iff_right]
              split <;> simp [Except.map, Token.text?]

/-- A chunk with a redirection is refused for it if there is room for its words. -/
theorem words_of_any_isRedirect {chunk : List Token} (hpipe : Token.pipe ∉ chunk)
    (h : chunk.any Token.isRedirect = true) (room : Nat) (hroom : wordCount chunk ≤ room) :
    words room chunk = .error .mislocatedRedirection := by
  induction chunk generalizing room with
  | nil => exact absurd h (by simp)
  | cons token rest ih =>
      cases token with
      | pipe => exact absurd List.mem_cons_self hpipe
      | redirect mode target => cases room <;> rfl
      | word text =>
          have hcount : wordCount (.word text :: rest) = wordCount rest + 1 :=
            List.countP_cons_of_pos rfl
          cases room with
          | zero => omega
          | succ room =>
              have hrest := ih (fun hmem => hpipe (List.mem_cons_of_mem _ hmem))
                (by simpa [Token.isRedirect] using h) room (by omega)
              simp [words, hrest, Except.map]

/-- What is read of a chunk is its words, of which there are no more than there is room for. -/
theorem words_eq_ok {room : Nat} {chunk : List Token} {texts : List String}
    (h : words room chunk = .ok texts) :
    (∀ token ∈ chunk, token.isWord = true) ∧ chunk.length ≤ room ∧
      texts = chunk.filterMap Token.text? := by
  induction chunk generalizing room texts with
  | nil =>
      simp only [words, Except.ok.injEq] at h
      simp [← h]
  | cons token rest ih =>
      cases token with
      | pipe => cases room <;> exact absurd h (by simp [words])
      | redirect mode target => cases room <;> exact absurd h (by simp [words])
      | word text =>
          cases room with
          | zero => exact absurd h (by simp [words])
          | succ room =>
              simp only [words] at h
              cases hrest : words room rest with
              | error fault => exact absurd h (by simp [hrest, Except.map])
              | ok more =>
                  obtain ⟨hall, hlength, rfl⟩ := ih hrest
                  simp only [hrest, Except.map, Except.ok.injEq] at h
                  subst h
                  exact ⟨by simpa [Token.isWord] using hall, by simpa using hlength,
                    by simp [Token.text?]⟩

/-- A chunk spells a stage exactly if it holds words alone, some of them and not too many. The
stage has these words as its arguments. -/
theorem stage_eq_ok_iff {limit : Nat} {chunk : List Token} {result : Stage} :
    stage limit chunk = .ok result ↔
      (∀ token ∈ chunk, token.isWord = true) ∧ chunk.length ≤ limit ∧
        result.arguments = chunk.filterMap Token.text? := by
  unfold stage
  constructor
  · intro h
    cases hwords : words limit chunk with
    | error fault => exact absurd h (by simp [hwords, bind, Except.bind])
    | ok texts =>
        obtain ⟨hall, hlength, rfl⟩ := words_eq_ok hwords
        refine ⟨hall, hlength, ?_⟩
        simp only [hwords, bind, Except.bind] at h
        cases htexts : chunk.filterMap Token.text? with
        | nil => exact absurd h (by simp [htexts, Stage.ofWords?, throw, throwThe, MonadExceptOf.throw])
        | cons program operands =>
            simp only [htexts, Stage.ofWords?, pure, Except.pure, Except.ok.injEq] at h
            rw [← h]
            rfl
  · rintro ⟨hall, hlength, harguments⟩
    rw [words_of_forall_isWord hall, if_pos hlength, ← harguments]
    rfl

/-- A chunk of words alone that spells no stage has too many of them, unless it has none. -/
theorem stage_of_forall_isWord (limit : Nat) {chunk : List Token} (hne : chunk ≠ [])
    (hall : ∀ token ∈ chunk, token.isWord = true) :
    (∃ result, stage limit chunk = .ok result) ∧ chunk.length ≤ limit ∨
      stage limit chunk = .error .tooManyArguments ∧ limit < chunk.length := by
  by_cases hlength : chunk.length ≤ limit
  · left
    cases chunk with
    | nil => exact absurd rfl hne
    | cons token rest =>
        cases token with
        | word text =>
            exact ⟨⟨⟨text, rest.filterMap Token.text?⟩, stage_eq_ok_iff.mpr ⟨hall, hlength, rfl⟩⟩,
              hlength⟩
        | pipe => exact absurd (hall .pipe List.mem_cons_self) (by decide)
        | redirect mode target => exact absurd (hall _ List.mem_cons_self) (by simp [Token.isWord])
  · right
    refine ⟨?_, Nat.lt_of_not_le hlength⟩
    unfold stage
    rw [words_of_forall_isWord hall, if_neg hlength]
    rfl

/-- A chunk with a redirection and not too many words is refused for the redirection. -/
theorem stage_of_any_isRedirect {limit : Nat} {chunk : List Token} (hpipe : Token.pipe ∉ chunk)
    (h : chunk.any Token.isRedirect = true) (hlimit : wordCount chunk ≤ limit) :
    stage limit chunk = .error .mislocatedRedirection := by
  unfold stage
  rw [words_of_any_isRedirect hpipe h limit hlimit]
  rfl

/-- Taking the redirection off the end of a chunk, in terms of what the checks ask. -/
theorem detach_eq (chunk : List Token) : detach chunk =
    match Structure.target? chunk with
    | some target =>
        if target.path.isEmpty then .error .noOutputFile
        else if chunk.dropLast.any Token.isRedirect then .error .mislocatedRedirection
        else .ok (chunk.dropLast, some target)
    | none =>
        if chunk.any Token.isRedirect then .error .mislocatedRedirection else .ok (chunk, none) := by
  unfold detach Structure.target?
  cases chunk.getLast? with
  | none => rfl
  | some token => cases token <;> rfl

/-- A chunk that ends with a redirection is what stands before it, and the redirection. -/
theorem eq_dropLast_append {chunk : List Token} {target : Target}
    (h : Structure.target? chunk = some target) :
    chunk = chunk.dropLast ++ [.redirect target.mode target.path] := by
  unfold Structure.target? at h
  split at h
  · rename_i mode path hlast
    cases h
    obtain ⟨front, rfl⟩ := List.getLast?_eq_some_iff.mp hlast
    simp
  · exact absurd h (by simp)

/-- What is left of a chunk and the redirection taken off it make up the chunk. The redirection
names a file, and no other one is left. -/
theorem detach_eq_ok {chunk rest : List Token} {target : Option Target}
    (h : detach chunk = .ok (rest, target)) :
    target = Structure.target? chunk ∧ target.any (·.path.isEmpty) = false ∧
      rest.any Token.isRedirect = false ∧
      chunk = rest ++ (target.map fun target => .redirect target.mode target.path).toList := by
  rw [detach_eq] at h
  cases htarget : Structure.target? chunk with
  | none =>
      simp only [htarget] at h
      split at h
      · exact absurd h (by simp)
      · cases h
        exact ⟨rfl, rfl, by simp_all, by simp⟩
  | some found =>
      simp only [htarget] at h
      split at h
      · exact absurd h (by simp)
      · split at h
        · exact absurd h (by simp)
        · cases h
          exact ⟨rfl, by simp_all, by simp_all, by simpa using eq_dropLast_append htarget⟩

/-- A pipe-free list without redirections holds words alone. -/
theorem forall_isWord_of_not_any {chunk : List Token} (hpipe : Token.pipe ∉ chunk)
    (h : chunk.any Token.isRedirect = false) : ∀ token ∈ chunk, token.isWord = true := by
  intro token hmem
  have hredirect := List.any_eq_false.mp h token hmem
  rw [Token.isRedirect_eq_not_isWord fun heq => hpipe (heq ▸ hmem)] at hredirect
  simpa using hredirect

/-- Words alone are all counted. -/
theorem wordCount_of_forall_isWord {chunk : List Token}
    (h : ∀ token ∈ chunk, token.isWord = true) : wordCount chunk = chunk.length :=
  List.countP_eq_length.mpr h

/-- The parser takes the redirection off the last chunk and then reads the chunks in order. -/
theorem ofTokens_eq (limit : Nat) (tokens : List Token) : ofTokens limit tokens =
    (detach (lastChunk tokens)).bind fun detached =>
      ((initChunks tokens ++ [detached.1]).mapM (stage limit)).bind fun stages =>
        .ok ⟨stages, detached.2⟩ := rfl

end Pipeline

end LineShell
