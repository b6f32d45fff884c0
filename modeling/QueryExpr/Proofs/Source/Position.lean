import Mathlib.Data.List.DropRight
import Mathlib.Data.Prod.Lex
import Mathlib.Data.Set.Function
import QueryExpr.Proofs.Source.Span

/-!
# Lines and columns

A position in a text is what the characters before it make of the first line and the first column,
one after another: `advance` is the step of one character. It always leads on, so that positions
grow with the offsets of characters. The line and the column of an offset are counted off exactly,
also where the offset is no boundary of characters.
-/

namespace QueryExpr

open String (utf8Len)

/-- The characters of a text with the bytes at which they start; the text starts at `first`. -/
def characterStarts (first : Nat) : List Char → List (Nat × Char)
  | [] => []
  | c :: rest => (first, c) :: characterStarts (first + c.utf8Size) rest

/-- The characters of a text that start before a byte offset. -/
def startedBefore (source : String) (offset : Nat) : List Char :=
  ((characterStarts 0 source.toList).filter (·.1 < offset)).map Prod.snd

/-- The offsets at which a character of a text starts, and the end of the text. -/
def boundaries (source : String) : Set Nat :=
  {offset | String.Pos.Raw.IsValid source ⟨offset⟩}

/-- The line and the column behind a character. -/
def advance : Nat × Nat → Char → Nat × Nat
  | (line, column), c => if c = '\n' then (line + 1, 1) else (line, column + 1)

variable {source : String} {text front back : List Char} {first offset : Nat}

/-- No character starts before its text. -/
lemma le_of_mem_characterStarts {start : Nat × Char} (member : start ∈ characterStarts first text) :
    first ≤ start.1 := by
  induction text generalizing first with
  | nil => cases member
  | cons c rest ih =>
    obtain _ | ⟨_, later⟩ := member
    · exact Nat.le_refl _
    · exact Nat.le_of_add_right_le (ih later)

/-- Every character starts before the end of its text. -/
lemma lt_of_mem_characterStarts {start : Nat × Char} (member : start ∈ characterStarts first text) :
    start.1 < first + utf8Len text := by
  induction text generalizing first with
  | nil => cases member
  | cons c rest ih =>
    have positive := c.utf8Size_pos
    rw [String.utf8Len_cons]
    obtain _ | ⟨_, later⟩ := member
    · omega
    · have := ih later
      omega

/-- The characters of a text behind another one start where that one ends. -/
lemma characterStarts_append : characterStarts first (front ++ back) =
    characterStarts first front ++ characterStarts (first + utf8Len front) back := by
  induction front generalizing first with
  | nil => rw [String.utf8Len_nil]; rfl
  | cons c rest ih =>
    rw [String.utf8Len_cons, Nat.add_comm (utf8Len rest), ← Nat.add_assoc, List.cons_append,
      characterStarts, ih]
    rfl

/-- The characters that start in a text are those of the text. -/
lemma map_snd_characterStarts : (characterStarts first text).map Prod.snd = text := by
  induction text generalizing first with
  | nil => rfl
  | cons c rest ih => rw [characterStarts, List.map_cons, ih]

/-- What starts before the end of the front of a text is that front. -/
lemma startedBefore_of_append (split : source.toList = front ++ back)
    (size : utf8Len front = offset) : startedBefore source offset = front := by
  have early : ∀ start ∈ characterStarts 0 front, decide (start.1 < offset) = true := by
    intro start member
    have := lt_of_mem_characterStarts member
    exact decide_eq_true (by omega)
  have late : ∀ start ∈ characterStarts (0 + utf8Len front) back,
      ¬ decide (start.1 < offset) = true := by
    intro start member
    have := le_of_mem_characterStarts member
    rw [decide_eq_true_eq]
    omega
  rw [startedBefore, split, characterStarts_append, List.filter_append,
    List.filter_eq_self.2 early, List.filter_eq_nil_iff.2 late, List.append_nil,
    map_snd_characterStarts]

/-- The line and the column of an offset are reached by the characters that start before it. -/
lemma lineColumnFrom_eq_foldl (line column first offset : Nat) (text : List Char) :
    lineColumnFrom line column offset text =
      (((characterStarts first text).filter (·.1 < first + offset)).map Prod.snd).foldl advance
        (line, column) := by
  induction text generalizing line column first offset with
  | nil => rfl
  | cons c rest ih =>
    have positive := c.utf8Size_pos
    by_cases start : offset = 0
    · -- all characters start at the offset or behind it
      have late : ∀ start ∈ characterStarts first (c :: rest),
          ¬ decide (start.1 < first + offset) = true := by
        intro other member
        have := le_of_mem_characterStarts member
        rw [decide_eq_true_eq]
        omega
      rw [lineColumnFrom, if_pos start, List.filter_eq_nil_iff.2 late]
      rfl
    · have kept : decide ((first, c).1 < first + offset) = true :=
        decide_eq_true (Nat.lt_add_of_pos_right (Nat.pos_of_ne_zero start))
      -- the offset can be inside of the first character: then no other one starts before it
      have same : (characterStarts (first + c.utf8Size) rest).filter (·.1 < first + offset) =
          (characterStarts (first + c.utf8Size) rest).filter
            (·.1 < first + c.utf8Size + (offset - c.utf8Size)) := by
        refine List.filter_congr fun other member => decide_eq_decide.2 ?_
        have := le_of_mem_characterStarts member
        omega
      rw [lineColumnFrom, if_neg start, characterStarts, List.filter_cons, if_pos kept, same,
        List.map_cons, List.foldl_cons, advance]
      split
      · exact ih ..
      · exact ih ..

/-- A position is reached by advancing over the characters that start before it. -/
lemma lineColumn_eq_foldl (source : String) (offset : Nat) :
    lineColumn source offset = (startedBefore source offset).foldl advance (1, 1) := by
  rw [lineColumn, lineColumnFrom_eq_foldl 1 1 0, Nat.zero_add]
  rfl

/-- From the start of a text, lines are counted by their ends and columns from the last of these. -/
lemma foldl_advance (text : List Char) :
    text.foldl advance (1, 1) =
      (1 + text.count '\n', 1 + (text.rtakeWhile (· ≠ '\n')).length) := by
  induction text using List.reverseRecOn with
  | nil => rfl
  | append_singleton text c ih =>
    rw [List.foldl_concat, ih, advance, List.count_append, List.rtakeWhile_concat]
    by_cases same : c = '\n'
    · subst same
      rfl
    · simp [same, Nat.add_assoc]

/-- Advancing over a character leads to a later position. -/
lemma lt_advance (position : Nat × Nat) (c : Char) :
    toLex position < toLex (advance position c) := by
  rw [advance, Prod.Lex.toLex_lt_toLex]
  split
  · exact .inl (Nat.lt_succ_self _)
  · exact .inr ⟨rfl, Nat.lt_succ_self _⟩

/-- Advancing over a text leads to a later position, unless the text is empty. -/
lemma lt_foldl_advance (position : Nat × Nat) (nonempty : text ≠ []) :
    toLex position < toLex (text.foldl advance position) := by
  induction text using List.reverseRecOn with
  | nil => exact absurd rfl nonempty
  | append_singleton text c ih =>
    rw [List.foldl_concat]
    by_cases empty : text = []
    · subst empty
      exact lt_advance position c
    · exact (ih empty).trans (lt_advance _ c)

/-- An offset is a boundary if a beginning of the source has that length. -/
lemma mem_boundaries_iff : offset ∈ boundaries source ↔
    ∃ front back, source.toList = front ++ back ∧ utf8Len front = offset := by
  show String.Pos.Raw.IsValid source ⟨offset⟩ ↔ _
  rw [String.Pos.Raw.isValid_iff_exists_append]
  constructor
  · rintro ⟨front, back, rfl, same⟩
    refine ⟨front.toList, back.toList, String.toList_append, ?_⟩
    rw [← utf8ByteSize_eq_utf8Len]
    exact (congrArg String.Pos.Raw.byteIdx same).symm
  · rintro ⟨front, back, split, rfl⟩
    refine ⟨.ofList front, .ofList back, String.toList_injective (by simpa using split), ?_⟩
    rw [← String.utf8ByteSize_ofList]
    rfl

/-- Positions grow from one boundary to the next ones. -/
lemma strictMonoOn_lineColumn (source : String) :
    StrictMonoOn (fun offset => toLex (lineColumn source offset)) (boundaries source) := by
  intro offset here other there less
  obtain ⟨front, back, split, rfl⟩ := mem_boundaries_iff.1 here
  obtain ⟨front', back', split', rfl⟩ := mem_boundaries_iff.1 there
  -- the characters before the second boundary begin with those before the first one
  obtain ⟨more, rfl⟩ : front <+: front' := by
    obtain inside | ⟨more, rfl⟩ :=
      List.prefix_or_prefix_of_prefix ⟨back, split.symm⟩ ⟨back', split'.symm⟩
    · exact inside
    · rw [String.utf8Len_append] at less
      omega
  have nonempty : more ≠ [] := by
    rintro rfl
    rw [List.append_nil] at less
    exact Nat.lt_irrefl _ less
  show toLex (lineColumn source _) < toLex (lineColumn source _)
  rw [lineColumn_eq_foldl, lineColumn_eq_foldl, startedBefore_of_append split rfl,
    startedBefore_of_append split' rfl, List.foldl_append]
  exact lt_foldl_advance _ nonempty

/-- The line of an offset is one more than the line ends among the characters that start before it,
and its column one more than those of these characters that follow the last line end. This holds of
every offset, inside of a character and past the end of the text as well. At the boundaries of
characters greater offsets have greater positions, so that no two of them share one. -/
theorem lineColumn_exact (source : String) :
    (∀ offset, lineColumn source offset =
      (1 + (startedBefore source offset).count '\n',
        1 + ((startedBefore source offset).rtakeWhile (· ≠ '\n')).length)) ∧
    StrictMonoOn (fun offset => toLex (lineColumn source offset)) (boundaries source) ∧
    Set.InjOn (lineColumn source) (boundaries source) := by
  refine ⟨?_, strictMonoOn_lineColumn source, ?_⟩
  · intro offset
    rw [lineColumn_eq_foldl, foldl_advance]
  · intro offset here other there same
    exact (strictMonoOn_lineColumn source).injOn here there (congrArg toLex same)

/-- An offset inside of a letter of two bytes, and the boundaries at which the letter and the line
end. -/
theorem lineColumn_exact_letter :
    let source := "aé\nb"
    (startedBefore source 2 = ['a', 'é'] ∧ lineColumn source 2 = (1, 3)) ∧
      (3 ∈ boundaries source ∧ 4 ∈ boundaries source) ∧
      toLex (lineColumn source 3) < toLex (lineColumn source 4) ∧
      lineColumn source 3 ≠ lineColumn source 4 := by
  intro source
  obtain ⟨counted, grows, apart⟩ := lineColumn_exact source
  have letter : startedBefore source 2 = ['a', 'é'] := by decide
  have before : 3 ∈ boundaries source :=
    mem_boundaries_iff.2 ⟨['a', 'é'], ['\n', 'b'], by decide, by decide⟩
  have behind : 4 ∈ boundaries source :=
    mem_boundaries_iff.2 ⟨['a', 'é', '\n'], ['b'], by decide, by decide⟩
  refine ⟨⟨letter, ?_⟩, ⟨before, behind⟩, grows before behind (by decide), fun same => ?_⟩
  · rw [counted, letter]
    decide
  · exact absurd (apart before behind same) (by decide)

end QueryExpr
