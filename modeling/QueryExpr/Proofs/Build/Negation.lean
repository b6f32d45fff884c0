import Mathlib.Algebra.Group.Nat.Even
import Mathlib.Logic.Function.Iterate
import Mathlib.Order.Monotone.Basic
import QueryExpr.Proofs.Build.NormalForm
import QueryExpr.Proofs.Build.Room
import QueryExpr.Proofs.Predicate.Truth

/-!
# Repeated negation

The first negation of a predicate sets its flag, and every further one wraps it. A wrapped predicate
could be mistaken for the first negation of a conjunction with a single child, but no build makes
such a conjunction. So among predicates with proper compounds only, by
`Predicate.negation_reversible`, a negation determines what it negates, and trees with different
numbers of negations around one node are built to different predicates.
-/

namespace QueryExpr

namespace Predicate

/-- A predicate that is a compound has at least two children, or it negates the conjunction of a
single negated predicate. -/
def IsProper (p : Predicate) : Prop :=
  ∀ op children, p.kind = .compound op children →
    2 ≤ children.length ∨ p.negated ∧ op = .and ∧ ∃ child, children = [child] ∧ child.negated

/-- All compounds in a predicate are proper, at any depth. -/
def AllProper (p : Predicate) : Prop :=
  ∀ q : Predicate, Part.Within (.predicate q) (.predicate p) → q.IsProper

variable {p q : Predicate}

/-- The normal form of a build has proper compounds. -/
lemma IsNormal.isProper (h : p.IsNormal) : p.IsProper := by
  intro op children same
  obtain ⟨several, -⟩ | wrapped := h op children same
  · exact .inl several
  · exact .inr wrapped

/-- If all compounds in a predicate are proper, so is the predicate itself. -/
lemma AllProper.isProper (h : p.AllProper) : p.IsProper :=
  h p .refl

/-- A negated predicate is negated again around a conjunction of it alone. -/
lemma negate_of_negated (h : p.negated = true) : p.negate = ⟨.compound .and [p], true⟩ :=
  if_pos h

/-- A predicate that holds as written is negated by its flag. -/
lemma negate_of_positive (h : p.negated = false) : p.negate = ⟨p.kind, true⟩ := by
  obtain ⟨kind, negated⟩ := p
  cases h
  rfl

/-- A negation is always negated. -/
lemma negated_negate (p : Predicate) : p.negate.negated = true := by
  cases h : p.negated with
  | true => rw [negate_of_negated h]
  | false => rw [negate_of_positive h]

/-- A first negation is no second one. -/
lemma IsProper.negate_ne_wrapped (h : p.IsProper) (positive : p.negated = false) :
    p.negate ≠ ⟨.compound .and [q], true⟩ := by
  intro same
  rw [negate_of_positive positive] at same
  have single : p.kind = .compound .and [q] := congrArg kind same
  obtain several | ⟨negated, -⟩ := h .and [q] single
  · exact absurd several (Nat.not_succ_le_self 1)
  · exact Bool.false_ne_true (positive.symm.trans negated)

/-- The negations of proper compounds are those of one predicate only. -/
lemma IsProper.negate_injective (hp : p.IsProper) (hq : q.IsProper) (same : p.negate = q.negate) :
    p = q := by
  cases first : p.negated with
  | true =>
    cases second : q.negated with
    | true =>
      rw [negate_of_negated first, negate_of_negated second] at same
      cases same
      rfl
    | false =>
      -- `p` is wrapped once more, and the first negation of a proper `q` is no such wrapper
      rw [negate_of_negated first] at same
      exact absurd same.symm (hq.negate_ne_wrapped second)
  | false =>
    cases second : q.negated with
    | true =>
      rw [negate_of_negated second] at same
      exact absurd same (hp.negate_ne_wrapped first)
    | false =>
      rw [negate_of_positive first, negate_of_positive second] at same
      obtain ⟨kind, _⟩ := p
      obtain ⟨kind', _⟩ := q
      cases first
      cases second
      cases same
      rfl

/-- The negation of a proper predicate is proper. -/
lemma IsProper.negate (h : p.IsProper) : p.negate.IsProper := by
  intro op children same
  cases flag : p.negated with
  | true =>
    rw [negate_of_negated flag] at same ⊢
    cases same
    exact .inr ⟨rfl, rfl, p, rfl, flag⟩
  | false =>
    rw [negate_of_positive flag] at same
    obtain several | ⟨negated, -⟩ := h op children same
    · exact .inl several
    · exact absurd (flag.symm.trans negated) Bool.false_ne_true

/-- A negation stands directly around the predicate or around what the predicate stands around. -/
lemma within_negate {part : Part} (within : part.Within (.predicate p.negate)) :
    part = .predicate p.negate ∨ part.Within (.predicate p) := by
  obtain same | ⟨child, direct, deeper⟩ := within.cases_head
  · exact .inl same.symm
  · right
    cases flag : p.negated with
    | true =>
      rw [negate_of_negated flag] at direct
      obtain rfl := List.mem_singleton.1 direct
      exact deeper
    | false =>
      rw [negate_of_positive flag] at direct
      exact .head direct deeper

/-- The negation of a predicate with proper compounds has proper compounds. -/
lemma AllProper.negate (h : p.AllProper) : p.negate.AllProper := by
  intro q within
  obtain same | inside := within_negate within
  · cases same
    exact h.isProper.negate
  · exact h q inside

/-- How many negations are recorded at the top of a predicate. -/
def negations : Predicate → Nat
  | ⟨.compound .and [child], true⟩ => child.negations + 1
  | ⟨_, true⟩ => 1
  | ⟨_, false⟩ => 0

/-- A predicate that holds as written is no negation. -/
lemma negations_of_positive (h : p.negated = false) : p.negations = 0 := by
  obtain ⟨kind, negated⟩ := p
  cases h
  rw [negations]

/-- A negated predicate is at least one negation. -/
lemma negations_pos (h : p.negated = true) : 0 < p.negations := by
  unfold negations
  split
  · exact Nat.succ_pos _
  · exact Nat.one_pos
  · cases h

/-- Every negation records one more. -/
lemma negations_lt_negate (p : Predicate) : p.negations < p.negate.negations := by
  cases flag : p.negated with
  | true =>
    rw [negate_of_negated flag, negations.eq_1]
    exact Nat.lt_succ_self _
  | false =>
    rw [negations_of_positive flag]
    exact negations_pos p.negated_negate

/-- Different numbers of negations of one predicate differ. -/
lemma iterate_negate_ne (p : Predicate) {j k : Nat} (differ : j ≠ k) :
    negate^[j] p ≠ negate^[k] p := by
  have mono : StrictMono fun n => (negate^[n] p).negations := by
    refine strictMono_nat_of_lt_succ fun n => ?_
    rw [Function.iterate_succ_apply']
    exact negations_lt_negate _
  exact fun same => differ (mono.injective (congrArg negations same))

/-- Negations cancel in pairs in what a predicate means. -/
lemma truth_iterate_negate {α : Type} (logic : Logic α) (tests : PredicateKind → α) (p : Predicate)
    (k : Nat) : (negate^[k] p).truth logic tests =
      if Even k then p.truth logic tests else logic.neg (p.truth logic tests) := by
  induction k with
  | zero => rfl
  | succ k ih =>
    rw [Function.iterate_succ_apply', truth_negate, ih]
    by_cases even : Even k
    · rw [if_pos even, if_neg (Nat.even_add_one.not.2 (not_not.2 even))]
    · rw [if_neg even, if_pos (Nat.even_add_one.2 even), logic.neg_neg]

end Predicate

namespace Syntax

/-- A node under negations, each with its span. -/
def Node.denied (node : Node) : List Span → Node
  | [] => node
  | span :: rest => ⟨.negation (node.denied rest), span⟩

variable {context : Context}

/-- With room for the negations their number is that of the negations of the predicate. -/
lemma Node.BuildsPredicate.denied {node : Node} {p} (h : node.BuildsPredicate context p)
    (spans : List Span) :
    (node.denied spans).BuildsPredicate (context.limited (context.options.maxDepth + spans.length))
      (Predicate.negate^[spans.length] p) := by
  induction spans with
  | nil => exact h.limited le_rfl
  | cons span rest ih =>
    rw [List.length_cons, Function.iterate_succ_apply']
    exact (Node.Builds.of_negation ih).predicate

/-- What is built under negations is built on its own, and negated as often. -/
lemma Node.BuildsPredicate.of_denied {node : Node} {spans : List Span} {q}
    (h : (node.denied spans).BuildsPredicate context q) :
    ∃ p, node.BuildsPredicate context p ∧ q = Predicate.negate^[spans.length] p := by
  induction spans generalizing q with
  | nil => exact ⟨q, h, rfl⟩
  | cons span rest ih =>
    obtain ⟨e, built, stands⟩ := Node.buildsPredicate_iff.1 h
    obtain ⟨inner, builtInner, rfl⟩ := built.negation
    cases stands
    obtain ⟨p, hp, rfl⟩ := ih builtInner
    refine ⟨p, hp, ?_⟩
    rw [List.length_cons, Function.iterate_succ_apply']

/-- Trees with different numbers of negations around one node are built to different predicates. -/
lemma Node.denied_ne {node : Node} {spans others : List Span}
    (differ : spans.length ≠ others.length) {q q'} (h : (node.denied spans).BuildsPredicate context q)
    (h' : (node.denied others).BuildsPredicate context q') : q ≠ q' := by
  obtain ⟨p, hp, rfl⟩ := h.of_denied
  obtain ⟨p', hp', rfl⟩ := h'.of_denied
  obtain rfl : p = p' := Except.ok.inj (hp.symm.trans hp')
  exact Predicate.iterate_negate_ne p differ

end Syntax

/-- A session whose macros keep the normal form answers with proper compounds only. -/
lemma Session.answer_allProper {session : Session}
    (macros : ∀ name, session.context.Trusts Part.IsNormal name) {request : Request} {p}
    (h : (session.answer request).1 = .ok (.predicate p)) : p.AllProper := by
  intro q within
  have obeyed := answer_obeys session.context.keeps_isNormal macros h
  have inside : Part.Within (.predicate q) (.expression (.predicate p)) :=
    .head (List.mem_singleton.2 rfl) within
  exact (obeyed _ (.head _) _ inside q rfl).isProper

/-- Negation is reversible on proper predicates, and so on those whose compounds are all proper, at
any depth. It keeps them so, and only one of them has a given negation. Different numbers of
negations differ, any number but none sets the flag, and an even number of them means what the
predicate means, an odd number the opposite. So negations around a node can be counted whatever the
node is built to: with room for them they are built one by one, and another number of them is built
to another predicate. -/
theorem Predicate.negation_reversible {p : Predicate} (proper : p.IsProper) :
    (p.negate.IsProper ∧ (p.AllProper → p.negate.AllProper) ∧
      ∀ q : Predicate, q.IsProper → p.negate = q.negate → p = q) ∧
    (∀ j k, j < k → negate^[j] p ≠ negate^[k] p) ∧
    (∀ k, 1 ≤ k → (negate^[k] p).negated = true) ∧
    (∀ (α : Type) (logic : Logic α) (tests : PredicateKind → α) (k : Nat),
      (negate^[k] p).truth logic tests =
        if Even k then p.truth logic tests else logic.neg (p.truth logic tests)) ∧
    ∀ (context : Context) (node : Syntax.Node),
      (node.BuildsPredicate context p → ∀ spans,
        (Request.predicate (node.denied spans)).BuildsWithRoom context
          (context.options.maxDepth + spans.length)
          (.predicate (negate^[spans.length] p))) ∧
      ∀ spans others : List Span, spans.length ≠ others.length →
        ∀ q q', (node.denied spans).BuildsPredicate context q →
          (node.denied others).BuildsPredicate context q' → q ≠ q' := by
  refine ⟨⟨proper.negate, .negate, ?injective⟩, ?distinct, ?flagged, ?meaning, ?trees⟩
  case injective =>
    intro q properToo same
    exact proper.negate_injective properToo same
  case distinct =>
    intro j k less
    exact iterate_negate_ne p less.ne
  case flagged =>
    intro k several
    obtain ⟨n, rfl⟩ := Nat.exists_eq_add_of_le' several
    rw [Function.iterate_succ_apply']
    exact negated_negate _
  case meaning =>
    intro α logic tests k
    exact truth_iterate_negate logic tests p k
  case trees =>
    intro context node
    constructor
    · intro built spans
      exact Request.buildsWithRoom_of_buildsPredicate (built.denied spans)
    · intro spans others differ q q' h h'
      exact Syntax.Node.denied_ne differ h h'

/-- A conjunction with a single negated child would have the negation of that child. -/
example (kind : PredicateKind) :
    (Predicate.positive (.compound .and [⟨kind, true⟩])).negate = Predicate.negate ⟨kind, true⟩ :=
  rfl

/-- A twice negated conjunction that a macro hands on, under two and under five more negations. -/
theorem Predicate.negation_reversible_handed_on :
    let test := Syntax.Node.unary (.isNull false) (.identifier "b")
    let conjunction := Syntax.Node.connective .and (.boolean true) test
    let node := Syntax.Node.negation (.negation (.call "First" [conjunction]))
    let children := [positive (.boolean true), positive (.isNull (.property "b"))]
    let p : Predicate := ⟨.compound .and [⟨.compound .and children, true⟩], true⟩
    node.BuildsPredicate .withFirst p ∧ p.AllProper ∧
      p.negate.AllProper ∧ negate^[2] p ≠ negate^[5] p ∧
      (negate^[5] p).truth .classical (fun _ => true) = false ∧
      (Request.predicate (node.denied [⟨0, 1⟩, ⟨1, 2⟩])).BuildsWithRoom .withFirst 514
        (.predicate (negate^[2] p)) := by
  intro test conjunction node children p
  have own : node.BuildsPredicate .withFirst p := rfl
  have answered : ((Session.start .withFirst "").answer (.predicate node)).1 =
      .ok (.predicate p) := rfl
  have macros : ∀ name, Context.withFirst.Trusts Part.IsNormal name :=
    Context.trusts_first Context.withFirst.keeps_isNormal rfl
  have proper : p.AllProper := Session.answer_allProper macros answered
  obtain ⟨⟨-, kept, -⟩, distinct, -, meaning, trees⟩ :=
    Predicate.negation_reversible proper.isProper
  refine ⟨own, proper, kept proper, distinct 2 5 (by decide), ?_, (trees _ node).1 own _⟩
  rw [meaning Bool .classical _ 5, if_neg (by decide)]
  rfl

end QueryExpr
