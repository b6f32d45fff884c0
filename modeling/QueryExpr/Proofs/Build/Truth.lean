import QueryExpr.Proofs.Build.Inversion
import QueryExpr.Proofs.Predicate.Truth
import QueryExpr.Syntax.Construct

/-!
# Meaning of built predicates

`Node.truth?` reads a truth value off a parse tree: connectives, negations and parentheses as they
are written, and any other node by the predicate it is built to on its own. A node with a flag for
its negation is read as the negation of the node without it. The theorem `Node.truth?_eq_truth` says
that flattening and wrapping do not change this meaning.
-/

namespace QueryExpr.Syntax

open Traced

/-- Alternatives that are written as the negation of another one. -/
def Kind.isDenial : Kind → Bool
  | .unary (.existence negated) _ | .unary (.isNull negated) _ | .unary (.isEmpty negated) _ => negated
  | .binary (.comparison .ne) .. | .binary (.quantified .ne none) .. => true
  | .between negated .. | .like negated .. | .inList negated .. | .memberOf negated .. => negated
  | _ => false

/-- The alternative without its negation. -/
def Kind.affirmed : Kind → Kind
  | .unary (.existence _) operand => .unary (.existence false) operand
  | .unary (.isNull _) operand => .unary (.isNull false) operand
  | .unary (.isEmpty _) operand => .unary (.isEmpty false) operand
  | .binary (.comparison .ne) left right => .binary (.comparison .eq) left right
  | .binary (.quantified .ne none) left right => .binary (.quantified .eq none) left right
  | .between _ operand low high => .between false operand low high
  | .like _ operand pattern escape => .like false operand pattern escape
  | .inList _ operand items parenthesized => .inList false operand items parenthesized
  | .memberOf _ element collection => .memberOf false element collection
  | kind => kind

/-- The predicate that a node is built to on its own. -/
def Node.predicate? (context : Context) (node : Node) : Option Predicate :=
  (node.buildPredicate context 0).result.toOption

section

variable {α : Type} (logic : Logic α) (tests : PredicateKind → α) (context : Context)

/-- The truth value that a node means, given those of the tests it is built to. -/
def Node.truth? : Node → Option α
  | ⟨.connective op left right, _⟩ => do
    return logic.connect op (← left.truth?) (← right.truth?)
  | ⟨.negation operand, _⟩ => do
    return logic.neg (← operand.truth?)
  | ⟨.unary .grouped operand, _⟩ | ⟨.unary .plus operand, _⟩ => operand.truth?
  | ⟨.atom (.boolean value), _⟩ => some (logic.ofBool value)
  | ⟨kind, span⟩ => do
    let predicate ← Node.predicate? context ⟨kind.affirmed, span⟩
    return logic.polarize kind.isDenial (predicate.truth logic tests)

end

variable {context : Context} {span : Span}

/-- An alternative that is no negation stays as it is without one. -/
lemma Kind.affirmed_eq_self {kind : Kind} (h : kind.isDenial = false) : kind.affirmed = kind := by
  cases kind with
  | unary op operand =>
    cases op with
    | existence | isNull | isEmpty => cases h; rfl
    | _ => rfl
  | binary op left right =>
    cases op with
    | comparison sign =>
      cases sign with
      | ne => cases h
      | _ => rfl
    | quantified sign word =>
      cases sign with
      | ne =>
        cases word with
        | none => cases h
        | some => rfl
      | _ => rfl
    | _ => rfl
  | between | like | inList | memberOf => cases h; rfl
  | _ => rfl

/-- A build of a negated predicate beside a build of the same predicate without the negation. -/
def Denies (denied affirmed : Traced Fault Expression) : Prop :=
  ∀ e, denied.result = .ok e → ∃ what,
    e = .predicate ⟨what, true⟩ ∧ affirmed.result = .ok (.predicate ⟨what, false⟩)

namespace Denies

variable {α : Type}

/-- Both builds can start with the same step. -/
lemma bind {t : Traced Fault α} {f g : α → Traced Fault Expression}
    (next : ∀ a, Denies (f a) (g a)) : Denies (t >>= f) (t >>= g) := by
  intro e h
  obtain ⟨a, ha, h⟩ := bind_ok.1 h
  obtain ⟨what, rfl, affirmed⟩ := next a e h
  exact ⟨what, rfl, bind_ok.2 ⟨a, ha, affirmed⟩⟩

/-- Both builds end with a flag for the negation. -/
lemma pure (what : PredicateKind) :
    Denies (Pure.pure (.predicate ⟨what, true⟩)) (Pure.pure (.predicate ⟨what, false⟩)) := by
  intro e h
  exact ⟨what, (pure_ok.1 h).symm, rfl⟩

/-- A build that fails says nothing. -/
lemma fail (fault : Fault) (t : Traced Fault Expression) : Denies (.fail fault) t :=
  nofun

end Denies

/-- A negated alternative is built to the negation of what it is built to without its negation. -/
lemma Kind.build_affirmed {kind : Kind} {depth} (denial : kind.isDenial = true) :
    Denies (kind.build context depth span) (kind.affirmed.build context depth span) := by
  cases kind with
  | unary op operand =>
    cases op with
    | existence negated | isNull negated =>
      cases denial
      rw [affirmed, Kind.build, Kind.build]
      exact .bind fun x => .pure _
    | isEmpty negated =>
      cases denial
      rw [affirmed, Kind.build, Kind.build]
      -- the operand has to be a path under both polarities
      refine .bind fun x => ?_
      rw [UnaryOp.build, UnaryOp.build]
      cases asPath span "IS EMPTY" x with
      | error fault => exact .fail fault _
      | ok path => exact .pure _
    | _ => cases denial
  | binary op left right =>
    cases op with
    | comparison sign =>
      cases sign with
      | ne =>
        rw [affirmed, Kind.build, Kind.build]
        exact .bind fun _ => .bind fun l => .bind fun r => .pure _
      | _ => cases denial
    | quantified sign word =>
      cases sign with
      | ne =>
        cases word with
        | none =>
          rw [affirmed, Kind.build, Kind.build]
          exact .bind fun _ => .bind fun l => .bind fun r => .pure _
        | some => cases denial
      | _ => cases denial
    | _ => cases denial
  | between negated operand low high =>
    cases denial
    rw [affirmed, Kind.build, Kind.build]
    exact .bind fun x => .bind fun l => .bind fun u => .pure _
  | like negated operand pattern escape =>
    cases denial
    rw [affirmed, Kind.build, Kind.build]
    refine .bind fun c => ?_
    split
    · exact .fail _ _
    · exact .bind fun x => .bind fun y => .pure _
  | inList negated operand items parenthesized =>
    cases denial
    rw [affirmed, Kind.build, Kind.build]
    exact .bind fun x => .bind fun built => .pure _
  | memberOf negated element collection =>
    cases denial
    rw [affirmed, Kind.build, Kind.build]
    exact .bind fun x => .bind fun y => .bind fun path => .pure _
  | _ => cases denial

variable {α : Type} {logic : Logic α} {tests : PredicateKind → α}

/-- A node read by what it is built to on its own means the predicate it is built to. -/
lemma Node.truth_affirmed {kind : Kind} {p} (h : Node.BuildsPredicate context ⟨kind, span⟩ p) :
    (do
      let predicate ← Node.predicate? context ⟨kind.affirmed, span⟩
      return logic.polarize kind.isDenial (predicate.truth logic tests)) =
      some (p.truth logic tests) := by
  cases denial : kind.isDenial with
  | false =>
    rw [Kind.affirmed_eq_self denial, Node.predicate?, h]
    rfl
  | true =>
    obtain ⟨e, built, hp⟩ := Node.buildsPredicate_iff.1 h
    obtain ⟨room, built⟩ := Node.builds_iff.1 built
    obtain ⟨what, rfl, affirmed⟩ := Kind.build_affirmed denial e built
    cases hp
    have same : Node.BuildsPredicate context ⟨kind.affirmed, span⟩ ⟨what, false⟩ :=
      Node.buildsPredicate_iff.2 ⟨_, Node.builds_iff.2 ⟨room, affirmed⟩, rfl⟩
    rw [Node.predicate?, same]
    rfl

/-- The predicate that a node is built to has the truth value that the node means, for every value
of the tests. -/
theorem Node.truth?_eq_truth : ∀ {node : Node} {p}, node.BuildsPredicate context p →
    node.truth? logic tests context = some (p.truth logic tests)
  | ⟨kind, span⟩, p, h => by
    cases kind with
    | connective op left right =>
      -- each side means its own predicate, whether or not the left one is flattened
      obtain ⟨e, built, hp⟩ := Node.buildsPredicate_iff.1 h
      obtain ⟨l, r, hl, hr, rfl⟩ := built.connective
      cases hp
      rw [truth?, truth?_eq_truth hl, truth?_eq_truth hr, Predicate.truth_join]
      rfl
    | negation operand =>
      obtain ⟨e, built, hp⟩ := Node.buildsPredicate_iff.1 h
      obtain ⟨q, hq, rfl⟩ := built.negation
      cases hp
      rw [truth?, truth?_eq_truth hq, Predicate.truth_negate]
      rfl
    | unary op operand =>
      cases op with
      | grouped =>
        have inner : operand.BuildsPredicate context p := h.transparent (.inl rfl)
        rw [truth?, truth?_eq_truth inner]
      | plus =>
        have inner : operand.BuildsPredicate context p := h.transparent (.inr rfl)
        rw [truth?, truth?_eq_truth inner]
      | _ => exact Node.truth_affirmed h
    | atom leaf =>
      cases leaf with
      | boolean value =>
        obtain ⟨e, built, hp⟩ := Node.buildsPredicate_iff.1 h
        obtain ⟨_, built⟩ := Node.builds_iff.1 built
        cases built
        cases hp
        rfl
      | _ => exact Node.truth_affirmed h
    | _ => exact Node.truth_affirmed h

/-- A twice negated inequality beside a disjunction, where a null test is unknown. -/
theorem Node.truth?_eq_truth_nested :
    let inequality := Node.binary (.comparison .ne) (.identifier "a") (.identifier "b")
    let disjunction := Node.connective .or (.unary (.isNull true) (.identifier "c")) (.boolean false)
    let node := Node.connective .and (.negation (.negation inequality)) (.unary .grouped disjunction)
    ∃ p, node.BuildsPredicate .plain p ∧
      node.truth? .kleene (fun _ => .unknown) .plain = some (p.truth .kleene fun _ => .unknown) ∧
      node.truth? .classical (fun _ => true) .plain = some (p.truth .classical fun _ => true) := by
  refine ⟨_, rfl, ?_, ?_⟩
  · exact Node.truth?_eq_truth rfl
  · exact Node.truth?_eq_truth rfl

end QueryExpr.Syntax
