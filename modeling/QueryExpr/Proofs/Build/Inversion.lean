import QueryExpr.Proofs.Build.Narrowing

/-!
# Inversion of builds

What the parts of a tree are built to when the tree is. A node is built on its own by a build that
starts with it, as `Node.Builds` and `Node.BuildsPredicate` say. By `Node.builds_of_build` a node
that is built within a tree is built to the same on its own, so every lemma here speaks about parts
on their own.
-/

namespace QueryExpr

open Traced

/-- The context without names, with the usual options. -/
def Context.plain : Context :=
  ⟨.empty, .standard, Temporal.iso⟩

/-- The plain context with a macro that stands for its first argument. -/
def Context.withFirst : Context :=
  { plain with registries :=
    { Registries.empty with macros := .register .empty "first" StockMacro.first.expand } }

namespace Syntax

variable {context : Context} {depth : Nat} {span : Span}

/-- A node is built to an expression on its own. -/
def Node.Builds (context : Context) (node : Node) (expression : Expression) : Prop :=
  (node.build context 0).result = .ok expression

/-- A node is built to a predicate on its own. -/
def Node.BuildsPredicate (context : Context) (node : Node) (predicate : Predicate) : Prop :=
  (node.buildPredicate context 0).result = .ok predicate

/-- A node that is built under others is built to the same on its own. -/
lemma Node.builds_of_build {node : Node} {e}
    (h : (node.build context depth).result = .ok e) : node.Builds context e := by
  have cut : Cut _ (node.build context depth) (node.build context 0) :=
    Node.build_cut (.refl context) (by omega) node
  rw [Node.Builds, ← cut.eq_of_ok h]
  exact h

/-- A node is built to one expression at most. -/
lemma Node.Builds.unique {node : Node} {e e'} (h : node.Builds context e)
    (h' : node.Builds context e') : e = e' :=
  Except.ok.inj (h.symm.trans h')

/-- A node is built to a predicate if it is built to an expression that stands for one. -/
lemma Node.buildsPredicate_iff {node : Node} {p} :
    node.BuildsPredicate context p ↔
      ∃ e, node.Builds context e ∧ asPredicate node e = .ok p := by
  rw [BuildsPredicate, buildPredicate, bind_ok]
  rfl

/-- An expression stands for a predicate if it is one or a boolean literal, whatever node it was
built from. -/
lemma asPredicate_ok {node : Node} {e p} :
    asPredicate node e = .ok p ↔
      e = .predicate p ∨ ∃ value, e = .literal (.boolean value) ∧ p = .positive (.boolean value) := by
  constructor
  · intro h
    unfold asPredicate at h
    split at h
    case h_1 q => cases h; exact .inl rfl
    case h_2 value => cases h; exact .inr ⟨value, rfl, rfl⟩
    case h_3 => cases h
  · rintro (rfl | ⟨value, rfl, rfl⟩)
    · rfl
    · rfl

/-- A node is built on its own like its alternative, unless nothing may be built. -/
lemma Node.builds_iff {kind : Kind} {e} :
    Node.Builds context ⟨kind, span⟩ e ↔
      0 < context.options.maxDepth ∧ (kind.build context 1 span).result = .ok e := by
  rw [Builds, Node.build]
  by_cases full : context.options.maxDepth ≤ 0
  · rw [if_pos full]
    exact ⟨nofun, fun ⟨room, _⟩ => absurd room (by omega)⟩
  · rw [if_neg full]
    exact ⟨fun h => ⟨by omega, h⟩, fun ⟨_, h⟩ => h⟩

/-- An alternative with one operand is built from its operand. -/
lemma Node.Builds.unary {op operand e} (h : Node.Builds context ⟨.unary op operand, span⟩ e) :
    ∃ x, operand.Builds context x ∧ op.build span x = .ok e := by
  have ⟨_, h⟩ := Node.builds_iff.1 h
  simp only [Kind.build, bind_ok, lift_ok] at h
  obtain ⟨x, hx, h⟩ := h
  exact ⟨x, Node.builds_of_build hx, h⟩

/-- Parentheses and a plus sign are built to what their operand is built to. -/
lemma Node.Builds.transparent {op operand e} (plain : op = .grouped ∨ op = .plus)
    (h : Node.Builds context ⟨.unary op operand, span⟩ e) : operand.Builds context e := by
  obtain ⟨x, hx, same⟩ := h.unary
  obtain rfl | rfl := plain <;> cases same <;> exact hx

/-- Parentheses and a plus sign are built to the predicate of their operand. -/
lemma Node.BuildsPredicate.transparent {op operand p} (plain : op = .grouped ∨ op = .plus)
    (h : Node.BuildsPredicate context ⟨.unary op operand, span⟩ p) :
    operand.BuildsPredicate context p := by
  obtain ⟨e, built, hp⟩ := Node.buildsPredicate_iff.1 h
  exact Node.buildsPredicate_iff.2
    ⟨e, built.transparent plain, asPredicate_ok.2 (asPredicate_ok.1 hp)⟩

/-- An alternative with two operands is built from its operands. -/
lemma Node.Builds.binary {op left right e}
    (h : Node.Builds context ⟨.binary op left right, span⟩ e) :
    ∃ l r, left.Builds context l ∧ right.Builds context r ∧ e = op.build context l r := by
  have ⟨_, h⟩ := Node.builds_iff.1 h
  simp only [Kind.build, bind_ok, pure_ok] at h
  obtain ⟨_, _, l, hl, r, hr, rfl⟩ := h
  exact ⟨l, r, Node.builds_of_build hl, Node.builds_of_build hr, rfl⟩

/-- `AND` and `OR` are built from the predicates of their sides. -/
lemma Node.Builds.connective {op left right e}
    (h : Node.Builds context ⟨.connective op left right, span⟩ e) :
    ∃ p q, left.BuildsPredicate context p ∧ right.BuildsPredicate context q ∧
      e = .predicate (.join op p q) := by
  have ⟨_, h⟩ := Node.builds_iff.1 h
  simp only [Kind.build, bind_ok, lift_ok, pure_ok] at h
  obtain ⟨l, hl, p, hp, r, hr, q, hq, rfl⟩ := h
  exact ⟨p, q, Node.buildsPredicate_iff.2 ⟨l, Node.builds_of_build hl, hp⟩,
    Node.buildsPredicate_iff.2 ⟨r, Node.builds_of_build hr, hq⟩, rfl⟩

/-- `NOT` is built from the predicate of its operand. -/
lemma Node.Builds.negation {operand e}
    (h : Node.Builds context ⟨.negation operand, span⟩ e) :
    ∃ p, operand.BuildsPredicate context p ∧ e = .predicate p.negate := by
  have ⟨_, h⟩ := Node.builds_iff.1 h
  simp only [Kind.build, bind_ok, lift_ok, pure_ok] at h
  obtain ⟨x, hx, p, hp, rfl⟩ := h
  exact ⟨p, Node.buildsPredicate_iff.2 ⟨x, Node.builds_of_build hx, hp⟩, rfl⟩

/-- Only a single item without parentheses may stand for a collection, and no call does. -/
lemma isBareItem_iff {items : List Node} {parenthesized : Bool} :
    isBareItem items parenthesized ↔
      ∃ item, items = [item] ∧ parenthesized = false ∧ ∀ c, item.kind ≠ .call c := by
  constructor
  · intro bare
    unfold isBareItem at bare
    split at bare
    · next item =>
      split at bare
      · cases bare
      · next other => exact ⟨item, rfl, by simpa using bare, other⟩
    · cases bare
  · rintro ⟨item, rfl, rfl, other⟩
    simp only [isBareItem]
    rfl

end Syntax

end QueryExpr
