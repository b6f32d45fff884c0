import Mathlib.Tactic.Lemma
import QueryExpr.Text.Dotted

/-!
# The last dot of a name

A dotted name is split at its last dot: what stands after it has no dot, and both parts with the dot
between them are the name.
-/

namespace QueryExpr.Dotted

variable {separator : Char} {text before after : List Char}

/-- A text is not split if it has no separator. -/
lemma splitLast?_eq_none_iff : splitLast? separator text = none ↔ separator ∉ text := by
  induction text with
  | nil => exact iff_of_true rfl List.not_mem_nil
  | cons c rest ih =>
    rw [splitLast?, List.mem_cons, not_or, ← ih]
    cases splitLast? separator rest with
    | some parts => exact iff_of_false nofun fun h => nomatch h.2
    | none =>
      by_cases same : c = separator
      · rw [if_pos same]
        exact iff_of_false nofun fun h => h.1 same.symm
      · rw [if_neg same]
        exact iff_of_true rfl ⟨Ne.symm same, rfl⟩

/-- The parts of a text around its last separator. -/
lemma eq_of_splitLast? (h : splitLast? separator text = some (before, after)) :
    text = before ++ separator :: after ∧ separator ∉ after := by
  induction text generalizing before with
  | nil => cases h
  | cons c rest ih =>
    rw [splitLast?] at h
    split at h
    · next later =>
      cases h
      obtain ⟨rfl, clean⟩ := ih later
      exact ⟨rfl, clean⟩
    · next clean =>
      split at h
      · next same =>
        cases h
        exact ⟨congrArg (· :: after) same, splitLast?_eq_none_iff.1 clean⟩
      · cases h

/-- A text is split at a separator with none behind it. -/
lemma splitLast?_append (before : List Char) (clean : separator ∉ after) :
    splitLast? separator (before ++ separator :: after) = some (before, after) := by
  induction before with
  | nil => rw [List.nil_append, splitLast?, splitLast?_eq_none_iff.2 clean, if_pos rfl]
  | cons c rest ih => rw [List.cons_append, splitLast?, ih]

/-- The owner of a name and its last segment are what stands around its last dot. -/
lemma owner?_eq_some_iff {name owner simple : String} :
    owner? name = some (owner, simple) ↔ name = owner ++ "." ++ simple ∧ '.' ∉ simple.toList := by
  rw [owner?, Option.map_eq_some_iff]
  constructor
  · rintro ⟨⟨before, after⟩, split, parts⟩
    cases parts
    obtain ⟨joined, clean⟩ := eq_of_splitLast? split
    rw [String.toList_ofList]
    refine ⟨String.toList_injective ?_, clean⟩
    simpa using joined
  · rintro ⟨rfl, clean⟩
    refine ⟨(owner.toList, simple.toList), ?_, by simp⟩
    have joined : (owner ++ "." ++ simple).toList = owner.toList ++ '.' :: simple.toList := by simp
    rw [joined, splitLast?_append _ clean]

/-- A name is as long with underscores as with dots. -/
lemma length_underscored (name : String) : (underscored name).length = name.length := by
  simp [underscored, String.length_toList]

/-- Names without underscores are told apart after their dots became underscores. -/
lemma eq_of_underscored {name other : String} (clean : '_' ∉ name.toList)
    (cleanOther : '_' ∉ other.toList) (same : underscored name = underscored other) :
    name = other := by
  have undone {text : String} (h : '_' ∉ text.toList) :
      ((underscored text).toList.map fun c => if c = '_' then '.' else c) = text.toList := by
    rw [underscored, String.toList_ofList, List.map_map]
    refine (List.map_congr_left fun c member => ?_).trans (List.map_id _)
    have plain : c ≠ '_' := fun same => h (same ▸ member)
    by_cases dot : c = '.'
    · simp [dot]
    · simp [dot, plain]
  apply String.toList_injective
  rw [← undone clean, same, undone cleanOther]

end QueryExpr.Dotted
