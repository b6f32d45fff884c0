import Mathlib.Tactic.Lemma
import QueryExpr.Text.Case

/-!
# Letter case of ASCII texts

What the case of a text says about its first letter, and the case of ASCII texts letter by letter.
Spellings that differ only in the case of their letters, as `Respelled` says, have one lower case
and one upper case.
-/

namespace QueryExpr.Case

/-- ASCII texts that differ at most in the case of their letters. -/
structure Respelled (text other : String) : Prop where
  ascii : ∀ c ∈ text.toList, c.toNat < 128
  ascii_other : ∀ c ∈ other.toList, c.toNat < 128
  letters : text.toList.map Char.toLower = other.toList.map Char.toLower

/-- A character of ASCII is lowered alone, whatever stands before it. -/
lemma lowerFrom_cons {c : Char} (ascii : c.toNat < 128) (casedBefore : Bool) (rest : List Char) :
    ∃ cased, lowerFrom casedBefore (c :: rest) = c.toLower :: lowerFrom cased rest := by
  have image : lowerChar c = [c.toLower] := if_pos ascii
  have sigma : c ≠ 'Σ' := by
    rintro rfl
    exact absurd ascii (by decide)
  refine ⟨if isIgnorable c then casedBefore else inRanges casedRanges c, ?_⟩
  simp [lowerFrom, image, sigma]

/-- The lower case of a text starts with the lower case of its first letter, if that is ASCII. -/
lemma lower_ne_of_first {text other : String} {c : Char} (first : text.toList.head? = some c)
    (ascii : c.toNat < 128) (differs : other.toList.head? ≠ some c.toLower) :
    lower text ≠ other := by
  rintro rfl
  apply differs
  unfold lower
  cases chars : text.toList with
  | nil =>
    rw [chars] at first
    cases first
  | cons head rest =>
    rw [chars] at first
    cases first
    obtain ⟨cased, same⟩ := lowerFrom_cons ascii false rest
    simp [same]

/-- Only two letters have the upper case `C`. -/
lemma eq_of_toUpper {c : Char} (h : c.toUpper = 'C') : c = 'c' ∨ c = 'C' := by
  unfold Char.toUpper at h
  split at h
  · left
    rw [Char.ext_iff] at h ⊢
    change c.val + 4294967264 = 67 at h
    show c.val = 99
    grind
  · exact .inr h

/-- A text of ASCII is lowered character by character, whatever stands before it. -/
lemma lowerFrom_ascii {chars : List Char} (ascii : ∀ c ∈ chars, c.toNat < 128)
    (casedBefore : Bool) : lowerFrom casedBefore chars = chars.map Char.toLower := by
  induction chars generalizing casedBefore with
  | nil => rfl
  | cons c rest ih =>
    rw [List.forall_mem_cons] at ascii
    obtain ⟨cased, same⟩ := lowerFrom_cons ascii.1 casedBefore rest
    rw [same, ih ascii.2, List.map_cons]

/-- The lower case of a text of ASCII is that of its characters. -/
lemma lower_ascii {text : String} (ascii : ∀ c ∈ text.toList, c.toNat < 128) :
    lower text = String.ofList (text.toList.map Char.toLower) := by
  rw [lower, lowerFrom_ascii ascii]

/-- A text of ASCII is as long in lower case. -/
lemma length_lower {text : String} (ascii : ∀ c ∈ text.toList, c.toNat < 128) :
    (lower text).length = text.length := by
  rw [lower_ascii ascii, String.length_ofList, List.length_map, String.length_toList]

/-- The upper case of a text of ASCII is that of its characters. -/
lemma upper_ascii {text : String} (ascii : ∀ c ∈ text.toList, c.toNat < 128) :
    upper text = String.ofList (text.toList.map Char.toUpper) := by
  have image : text.toList.map upperChar = text.toList.map fun c => [c.toUpper] :=
    List.map_congr_left fun c member => if_pos (ascii c member)
  rw [upper, List.flatMap_def, image, ← List.flatMap_def, ← List.map_eq_flatMap]

/-- The case of a character of ASCII is lost in its upper case. -/
lemma toUpper_toLower {c : Char} (ascii : c.toNat < 128) : c.toLower.toUpper = c.toUpper := by
  have all : ∀ n < 128, (Char.ofNat n).toLower.toUpper = (Char.ofNat n).toUpper := by decide
  have here := all c.toNat ascii
  rwa [Char.ofNat_toNat] at here

namespace Respelled

variable {text other : String}

/-- Spellings of one name have the same lower case. -/
lemma lower (same : Respelled text other) : lower other = lower text := by
  rw [lower_ascii same.ascii, lower_ascii same.ascii_other, same.letters]

/-- Spellings of one name have the same upper case. -/
lemma upper (same : Respelled text other) : upper other = upper text := by
  -- the upper case of a letter is that of its lower case, in which the texts agree
  have image : ∀ chars : List Char, (∀ c ∈ chars, c.toNat < 128) →
      chars.map Char.toUpper = (chars.map Char.toLower).map Char.toUpper := by
    intro chars ascii
    rw [List.map_map]
    exact List.map_congr_left fun c member => (toUpper_toLower (ascii c member)).symm
  rw [upper_ascii same.ascii, upper_ascii same.ascii_other, image _ same.ascii,
    image _ same.ascii_other, same.letters]

end Respelled

end QueryExpr.Case
