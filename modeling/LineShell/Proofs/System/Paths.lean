import LineShell.System.Path
import Mathlib

/-!
# The names on a path

* **`parse_absoluteOf`** — the path through some names is read as these names;
* **`parse_join`** — a relative path below such a path leads through these names first;
* **`unslashed_of_mem_parse`** — no name on a path holds a slash.
-/

namespace LineShell.Path

variable {bytes left right name : Bytes} {names : List Bytes}

/-- The name can stand between two slashes. -/
structure Plain (name : Bytes) : Prop where
  filled : name ≠ []
  unslashed : slash ∉ name

/-- The names between the slashes of a path. -/
def parts (bytes : Bytes) : List Bytes :=
  (bytes.splitOnP (· == slash)).filter fun name => !name.isEmpty

theorem cut_eq_splitOnP (bytes : Bytes) : Text.cut slash bytes = bytes.splitOnP (· == slash) := by
  induction bytes with
  | nil => simp [Text.cut]
  | cons b bytes ih =>
      unfold Text.cut at ih ⊢
      rw [List.foldr_cons, ih, List.splitOnP_cons_eq_if_modifyHead]
      cases hpieces : bytes.splitOnP (· == slash) with
      | nil => exact absurd hpieces (List.splitOnP_ne_nil _ _)
      | cons piece more => simp only [beq_iff_eq, List.modifyHead_cons]

theorem parse_eq (bytes : Bytes) : parse bytes = ⟨bytes.head? == some slash,
    if bytes.getLast? == some slash && !(parts bytes).isEmpty then parts bytes ++ [[]]
    else parts bytes⟩ := by
  unfold parse parts
  rw [cut_eq_splitOnP]

theorem parts_append_slash : parts (left ++ slash :: right) = parts left ++ parts right := by
  unfold parts
  have hsplit : (left ++ slash :: right).splitOnP (· == slash) =
      left.splitOnP (· == slash) ++ right.splitOnP (· == slash) :=
    List.splitOnP_append_cons left right (beq_self_eq_true slash)
  rw [hsplit, List.filter_append]

theorem parts_nil : parts [] = [] := by simp [parts]

theorem parts_slash_cons : parts (slash :: right) = parts right := by
  have h : parts ([] ++ slash :: right) = parts [] ++ parts right := parts_append_slash
  rwa [parts_nil, List.nil_append, List.nil_append] at h

theorem parts_of_plain (h : Plain name) : parts name = [name] := by
  have hsplit : name.splitOnP (· == slash) = [name] := by
    refine List.splitOnP_eq_singleton fun b hb => beq_false_of_ne ?_
    rintro rfl
    exact h.unslashed hb
  unfold parts
  rw [hsplit, List.filter_cons_of_pos (by simpa using h.filled), List.filter_nil]

theorem unslashed_of_mem_splitOnP (h : name ∈ bytes.splitOnP (· == slash)) : slash ∉ name := by
  induction bytes generalizing name with
  | nil =>
      rw [List.splitOnP_nil, List.mem_singleton] at h
      rw [h]
      exact List.not_mem_nil
  | cons b bytes ih =>
      -- a slash begins a new piece, and any other byte is put in front of the first one
      rw [List.splitOnP_cons_eq_if_modifyHead] at h
      split at h
      · rcases List.mem_cons.mp h with rfl | h
        · exact List.not_mem_nil
        · exact ih h
      · rename_i hb
        cases hpieces : bytes.splitOnP (· == slash) with
        | nil => exact absurd hpieces (List.splitOnP_ne_nil _ _)
        | cons piece more =>
            rw [hpieces] at h ih
            rw [List.modifyHead_cons] at h
            rcases List.mem_cons.mp h with rfl | h
            · intro hmem
              rcases List.mem_cons.mp hmem with rfl | hmem
              · exact hb (beq_self_eq_true slash)
              · exact ih List.mem_cons_self hmem
            · exact ih (List.mem_cons_of_mem _ h)

theorem plain_of_mem_parts (h : name ∈ parts bytes) : Plain name := by
  obtain ⟨hmem, hfilled⟩ := List.mem_filter.mp h
  exact ⟨by simpa using hfilled, unslashed_of_mem_splitOnP hmem⟩

/-- No name on a path holds a slash. -/
theorem unslashed_of_mem_parse (h : name ∈ (parse bytes).names) : slash ∉ name := by
  rw [parse_eq] at h
  dsimp only at h
  split at h
  · rcases List.mem_append.mp h with h | h
    · exact (plain_of_mem_parts h).unslashed
    · rw [List.mem_singleton.mp h]
      exact List.not_mem_nil
  · exact (plain_of_mem_parts h).unslashed

/-- What stands before the first slash is the first name. -/
theorem exists_parts_of_relative (hfilled : bytes ≠ []) (hrelative : bytes.head? ≠ some slash) :
    ∃ name names, parts bytes = name :: names := by
  cases bytes with
  | nil => exact absurd rfl hfilled
  | cons b bytes =>
      have hb : ¬(b == slash) = true := fun heq => hrelative (congrArg some (eq_of_beq heq))
      unfold parts
      rw [List.splitOnP_cons_eq_if_modifyHead, if_neg hb]
      cases hpieces : bytes.splitOnP (· == slash) with
      | nil => exact absurd hpieces (List.splitOnP_ne_nil _ _)
      | cons piece more => exact ⟨b :: piece, _, List.filter_cons_of_pos rfl⟩

/-- A path without names leads to the root. -/
theorem absolute_of_names_eq_nil (hfilled : bytes ≠ []) (h : (parse bytes).names = []) :
    (parse bytes).absolute = true := by
  by_contra hrelative
  rw [parse_eq] at h hrelative
  obtain ⟨name, names, hparts⟩ := exists_parts_of_relative hfilled (by simpa using hrelative)
  dsimp only at h
  rw [hparts] at h
  split at h <;> cases h

theorem absolute_of_relative (h : bytes.head? ≠ some slash) : (parse bytes).absolute = false := by
  rw [parse_eq]
  simpa using h

theorem names_ne_nil_of_relative (hfilled : bytes ≠ []) (h : bytes.head? ≠ some slash) :
    (parse bytes).names ≠ [] := by
  intro hnil
  have habsolute := absolute_of_names_eq_nil hfilled hnil
  rw [absolute_of_relative h] at habsolute
  cases habsolute

theorem length_le_length_join (left right : Bytes) : right.length ≤ (join left right).length := by
  unfold join
  split_ifs
  · exact Nat.le_refl _
  · rw [List.length_append]
    exact Nat.le_add_left _ _
  · rw [List.length_append, List.length_cons]
    omega

/-! ## Paths through given names -/

theorem parts_flatMap (h : ∀ name ∈ names, Plain name) :
    parts (names.flatMap fun name => slash :: name) = names := by
  -- from behind, as a slash parts what stands before it from a plain name
  induction names using List.reverseRecOn with
  | nil => exact parts_nil
  | append_singleton names name ih =>
      rw [List.flatMap_append, List.flatMap_singleton, parts_append_slash,
        ih fun other hother => h other (List.mem_append_left _ hother),
        parts_of_plain (h name (List.mem_append_right _ List.mem_cons_self))]

theorem parts_absoluteOf (h : ∀ name ∈ names, Plain name) : parts (absoluteOf names) = names := by
  cases names with
  | nil => simp [absoluteOf, parts_slash_cons, parts_nil]
  | cons name names =>
      unfold absoluteOf
      rw [List.isEmpty_cons, if_neg Bool.false_ne_true]
      exact parts_flatMap h

theorem head?_absoluteOf : (absoluteOf names).head? = some slash := by
  cases names with
  | nil => rfl
  | cons name names => rfl

/-- Only the path of the root ends with a slash. -/
theorem getLast?_absoluteOf (h : ∀ name ∈ names, Plain name) :
    (absoluteOf names).getLast? = some slash ↔ names = [] := by
  refine ⟨fun hlast => ?_, fun hnil => hnil ▸ rfl⟩
  by_contra hne
  obtain ⟨front, name, rfl⟩ := (List.eq_nil_or_concat' names).resolve_left hne
  have hname := h name (List.mem_append_right _ List.mem_cons_self)
  have hpath : absoluteOf (front ++ [name]) =
      (front.flatMap fun name => slash :: name) ++ slash :: name := by
    unfold absoluteOf
    rw [if_neg (by simp), List.flatMap_append, List.flatMap_singleton]
  rw [hpath, List.getLast?_append_of_ne_nil _ (List.cons_ne_nil _ _),
    List.getLast?_cons_of_ne_nil hname.filled] at hlast
  exact hname.unslashed (List.mem_of_getLast? hlast)

/-- The path through some names is read as these names. -/
theorem parse_absoluteOf (h : ∀ name ∈ names, Plain name) :
    parse (absoluteOf names) = ⟨true, names⟩ := by
  rw [parse_eq, head?_absoluteOf, parts_absoluteOf h]
  have hopen : ((absoluteOf names).getLast? == some slash && !names.isEmpty) = false := by
    by_cases hnil : names = []
    · simp [hnil]
    · have hlast := mt (getLast?_absoluteOf h).mp hnil
      simp [hlast]
  rw [hopen, if_neg Bool.false_ne_true]
  rfl

/-- A relative path below the path through some names leads through these names first. -/
theorem parse_join (h : ∀ name ∈ names, Plain name) (hfilled : bytes ≠ [])
    (hrelative : bytes.head? ≠ some slash) :
    parse (join (absoluteOf names) bytes) = ⟨true, names ++ (parse bytes).names⟩ := by
  obtain ⟨first, others, hparts⟩ := exists_parts_of_relative hfilled hrelative
  -- the path of the root has the slash already that every other one is given
  have hjoin : ∃ front, join (absoluteOf names) bytes = front ++ bytes ∧
      front.head? = some slash ∧ parts (front ++ bytes) = names ++ parts bytes := by
    unfold join
    rw [if_neg (by simpa using hrelative)]
    split
    · rename_i hlast
      obtain rfl := (getLast?_absoluteOf h).mp (by simpa using hlast)
      exact ⟨_, rfl, rfl, parts_slash_cons⟩
    · refine ⟨absoluteOf names ++ [slash], by simp, ?_, ?_⟩
      · rw [List.head?_append, head?_absoluteOf]
        rfl
      · rw [List.append_assoc, List.singleton_append, parts_append_slash, parts_absoluteOf h]
  obtain ⟨front, hpath, hhead, hnames⟩ := hjoin
  have hsome : (names ++ first :: others).isEmpty = false := by simp
  rw [hpath, parse_eq, parse_eq, hnames, hparts, List.head?_append, hhead,
    List.getLast?_append_of_ne_nil _ hfilled, hsome, List.isEmpty_cons]
  simp only [Option.some_or, beq_self_eq_true, Bool.not_false, Bool.and_true]
  split
  · rw [List.append_assoc]
  · rfl

end LineShell.Path
