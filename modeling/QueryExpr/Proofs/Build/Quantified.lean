import Mathlib.Data.Nat.Basic
import Mathlib.Order.Lattice
import QueryExpr.Proofs.Build.Truth

/-!
# Meaning of quantified comparisons

An interpretation gives a value of an ordered domain to every expression, and a finite collection of
values to every expression that can stand on the right of a quantifier. Under it a comparison has
one meaning as it is written, `ComparisonSign.HoldsFor`, and one as it is built, through the truth
of its predicate. The theorem `Node.quantified_truth_iff` says when the two agree: always, but for
an inequality under a quantifier. That one is built to the negation of the quantified equality, so
it agrees only if the collection has values, and either all or none of them equal the left side.
-/

namespace QueryExpr

universe u

variable {V : Type u} [LinearOrder V]

/-- What a comparison of two values says as it is written. -/
def ComparisonSign.Holds (sign : ComparisonSign) (x y : V) : Prop :=
  match sign with
  | .eq => x = y
  | .ne => x ≠ y
  | .lt => x < y
  | .le => x ≤ y
  | .gt => y < x
  | .ge => y ≤ x

/-- What a comparison says as it is written: of some or of all values of a collection, or without a
quantifier of a single value. -/
def ComparisonSign.HoldsFor (sign : ComparisonSign) (word : Option QuantifierWord) (x single : V)
    (elements : List V) : Prop :=
  match word with
  | none => sign.Holds x single
  | some .any | some .some => ∃ y ∈ elements, sign.Holds x y
  | some .all => ∀ y ∈ elements, sign.Holds x y

/-- Whether a comparison of two values holds. -/
def ComparisonOp.test (op : ComparisonOp) (x y : V) : Bool :=
  match op with
  | .eq => x = y
  | .lt => x < y
  | .le => x ≤ y
  | .gt => y < x
  | .ge => y ≤ x

/-- Whether a condition on values holds under a quantifier. -/
def Quantifier.test (quantifier : Quantifier) (condition : V → Bool) (single : V)
    (elements : List V) : Bool :=
  match quantifier with
  | .one => condition single
  | .any => elements.any condition
  | .all => elements.all condition

/-- An interpretation of expressions as values and as collections of values. Tests other than
comparisons are given as they are. -/
structure Interpretation (V : Type u) where
  value : Expression → V
  elements : Expression → List V
  other : PredicateKind → Bool

/-- The truth of tests in an interpretation. -/
def Interpretation.tests (interpretation : Interpretation V) : PredicateKind → Bool
  | .comparison op left right quantifier =>
    quantifier.test (op.test (interpretation.value left)) (interpretation.value right)
      (interpretation.elements right)
  | kind => interpretation.other kind

variable {interpretation : Interpretation V}

/-- A test under the quantifier of a word says what the comparison for the word says. -/
lemma Quantifier.test_quantifierOf {sign : ComparisonSign} {op : ComparisonOp} {x : V}
    (same : ∀ y, op.test x y = true ↔ sign.Holds x y) (word : Option QuantifierWord) (single : V)
    (elements : List V) :
    (Syntax.quantifierOf word).test (op.test x) single elements = true ↔
      sign.HoldsFor word x single elements := by
  cases word with
  | none => exact same single
  | some word =>
    cases word with
    | any | some =>
      show elements.any (op.test x) = true ↔ ∃ y ∈ elements, sign.Holds x y
      simp only [List.any_eq_true, same]
    | all =>
      show elements.all (op.test x) = true ↔ ∀ y ∈ elements, sign.Holds x y
      simp only [List.all_eq_true, same]

namespace Predicate

/-- A comparison is true if its operator holds under its quantifier. -/
lemma truth_comparison (op : ComparisonOp) (left right : Expression) (quantifier : Quantifier)
    (negated : Bool) :
    truth .classical interpretation.tests ⟨.comparison op left right quantifier, negated⟩ =
      Logic.classical.polarize negated
        (quantifier.test (op.test (interpretation.value left)) (interpretation.value right)
          (interpretation.elements right)) :=
  rfl

/-- A comparison other than an inequality is built to what it says. -/
lemma truth_ofSign {sign : ComparisonSign} (h : sign ≠ .ne) (left right : Expression)
    (word : Option QuantifierWord) :
    (ofSign sign left right (Syntax.quantifierOf word)).truth .classical interpretation.tests =
        true ↔
      sign.HoldsFor word (interpretation.value left) (interpretation.value right)
        (interpretation.elements right) := by
  cases sign with
  | ne => exact absurd rfl h
  | _ =>
    rw [ofSign, truth_comparison]
    refine Quantifier.test_quantifierOf ?_ word _ _
    exact fun _ => decide_eq_true_iff

/-- An inequality is built to the negation of what the equality says. -/
lemma truth_ofSign_ne (left right : Expression) (word : Option QuantifierWord) :
    (ofSign .ne left right (Syntax.quantifierOf word)).truth .classical interpretation.tests =
        true ↔
      ¬ ComparisonSign.eq.HoldsFor word (interpretation.value left) (interpretation.value right)
        (interpretation.elements right) := by
  have equal : ∀ y, ComparisonOp.eq.test (interpretation.value left) y = true ↔
      ComparisonSign.eq.Holds (interpretation.value left) y := fun _ => decide_eq_true_iff
  rw [ofSign, truth_comparison, ← Quantifier.test_quantifierOf equal, Bool.not_eq_true]
  exact iff_of_eq (Bool.not_eq_true' _)

end Predicate

/-- None and some of the elements differ from a value at once if there are elements, and either all
or none of them equal the value. -/
lemma none_iff_some {x : V} {elements : List V} :
    ((∀ y ∈ elements, x ≠ y) ↔ ∃ y ∈ elements, x ≠ y) ↔
      elements ≠ [] ∧ ((∀ y ∈ elements, x = y) ∨ ∀ y ∈ elements, x ≠ y) := by
  constructor
  · intro h
    refine ⟨?_, ?_⟩
    · rintro rfl
      obtain ⟨y, member, _⟩ := h.1 nofun
      cases member
    · by_cases none : ∀ y ∈ elements, x ≠ y
      · exact .inr none
      · refine .inl fun y member => Decidable.byContradiction fun differs => ?_
        exact none (h.2 ⟨y, member, differs⟩)
  · rintro ⟨inhabited, all | none⟩
    · obtain ⟨y, member⟩ := List.exists_mem_of_ne_nil _ inhabited
      refine ⟨fun none => absurd (all y member) (none y member), ?_⟩
      rintro ⟨z, member, differs⟩
      exact absurd (all z member) differs
    · obtain ⟨y, member⟩ := List.exists_mem_of_ne_nil _ inhabited
      exact ⟨fun _ => ⟨y, member, none y member⟩, fun _ => none⟩

/-- The negation of a quantified equality agrees with the quantified inequality if there are
elements, and either all or none of them equal the left side. -/
lemma ComparisonSign.not_eq_iff_ne (word : QuantifierWord) (x single : V) (elements : List V) :
    (¬ ComparisonSign.eq.HoldsFor (some word) x single elements ↔
        ComparisonSign.ne.HoldsFor (some word) x single elements) ↔
      elements ≠ [] ∧ ((∀ y ∈ elements, x = y) ∨ ∀ y ∈ elements, x ≠ y) := by
  rw [← none_iff_some]
  cases word with
  | any | some =>
    show ((¬ ∃ y ∈ elements, x = y) ↔ ∃ y ∈ elements, x ≠ y) ↔ _
    simp only [not_exists, not_and, ne_eq]
  | all =>
    show ((¬ ∀ y ∈ elements, x = y) ↔ ∀ y ∈ elements, x ≠ y) ↔ _
    simp only [Classical.not_forall, exists_prop, ne_eq]
    exact Iff.comm

namespace Syntax

/-- A quantified comparison is built to a predicate that says what is written, except for a
quantified inequality over a collection that is empty or has some but not all values equal to the
left side. A quantified inequality is built like the negation of the equality. -/
theorem Node.quantified_truth_iff {context : Context} {span sign word left right e}
    (h : Node.Builds context ⟨.binary (.quantified sign word) left right, span⟩ e) :
    ∃ l r p, left.Builds context l ∧ right.Builds context r ∧ e = .predicate p ∧
      (∀ (V : Type u) [LinearOrder V] (interpretation : Interpretation V),
        (p.truth .classical interpretation.tests = true ↔
          sign.HoldsFor word (interpretation.value l) (interpretation.value r)
            (interpretation.elements r)) ↔
        (sign = .ne → word ≠ none →
          interpretation.elements r ≠ [] ∧
            ((∀ y ∈ interpretation.elements r, interpretation.value l = y) ∨
              ∀ y ∈ interpretation.elements r, interpretation.value l ≠ y))) ∧
      (sign = .ne → ∀ outer e',
        Node.Builds context ⟨.negation ⟨.binary (.quantified .eq word) left right, span⟩, outer⟩ e' →
          e' = e) := by
  obtain ⟨l, r, hl, hr, rfl⟩ := h.binary
  refine ⟨l, r, .ofSign sign l r (quantifierOf word), hl, hr, rfl, ?_, ?_⟩
  · intro V _ interpretation
    by_cases inequality : sign = .ne
    -- only an inequality is built with its negation outside the quantifier
    · subst inequality
      rw [Predicate.truth_ofSign_ne]
      cases word with
      | none => exact ⟨fun _ _ quantified => absurd rfl quantified, fun _ => .rfl⟩
      | some word =>
        rw [ComparisonSign.not_eq_iff_ne]
        exact ⟨fun agree _ _ => agree, fun agree => agree rfl nofun⟩
    · rw [Predicate.truth_ofSign inequality]
      exact ⟨fun _ same => absurd same inequality, fun _ => .rfl⟩
  -- the negation finds the equality without a flag, so it sets the flag of the inequality
  · rintro rfl outer e' negated
    obtain ⟨p, hp, rfl⟩ := negated.negation
    obtain ⟨inner, built, stands⟩ := Node.buildsPredicate_iff.1 hp
    obtain ⟨l', r', hl', hr', rfl⟩ := built.binary
    cases hl.unique hl'
    cases hr.unique hr'
    cases stands
    rfl

/-- The inequality with all values agrees with its built form where no value equals the left side.
-/
theorem Node.quantified_truth_iff_none_equal :
    let node := Node.quantified (.identifier "x") .ne (some .all) "s"
    let interpretation : Interpretation Nat := ⟨fun _ => 1, fun _ => [2, 3], fun _ => false⟩
    ∃ p, node.Builds .plain (.predicate p) ∧
      (p.truth .classical interpretation.tests = true ↔
        ComparisonSign.ne.HoldsFor (some .all) 1 1 [2, 3]) := by
  intro node interpretation
  refine ⟨_, rfl, ?_⟩
  obtain ⟨l, r, p, _, _, same, agree, _⟩ := Node.quantified_truth_iff (rfl : node.Builds .plain _)
  cases same
  refine (agree Nat interpretation).2 fun _ _ => ⟨nofun, .inr ?_⟩
  show ∀ y ∈ [2, 3], (1 : Nat) ≠ y
  decide

/-- The inequality with some of two values holds of one of them, but it is built like the negation
of the equality with some of them, which does not. -/
theorem Node.quantified_ne_any_differs :
    let node := Node.quantified (.identifier "x") .ne (some .any) "s"
    let negation := Node.negation (.quantified (.identifier "x") .eq (some .any) "s")
    let interpretation : Interpretation Nat := ⟨fun _ => 1, fun _ => [1, 2], fun _ => false⟩
    ∃ p, node.Builds .plain (.predicate p) ∧ negation.Builds .plain (.predicate p) ∧
      ComparisonSign.ne.HoldsFor (some .any) 1 1 [1, 2] ∧
      p.truth .classical interpretation.tests = false := by
  intro node negation interpretation
  refine ⟨_, rfl, rfl, ⟨2, by decide, ?_⟩, rfl⟩
  show (1 : Nat) ≠ 2
  decide

end Syntax

end QueryExpr
