import QueryExpr.Proofs.Build.Room
import QueryExpr.Proofs.Predicate.Join
import QueryExpr.Syntax.Construct

/-!
# Chains of one connective

A chain is a tree of one connective that is nested to the left, as `a AND b AND c` is read. A
`Chain` holds such a tree from its left end on, with the parentheses around its left sides. By
`Chain.builds_compound` it is built to one compound, which takes in the first operand only if that
is a compound of the same connective by itself, and has every other operand as one child.
-/

namespace QueryExpr.Syntax

open Predicate (positive)

/-- A list that is related to one with a last element has a last element as well. -/
lemma exists_of_forall₂_concat {α β : Type} {R : α → β → Prop} {front : List α} {last : α}
    {whole : List β} (h : List.Forall₂ R (front ++ [last]) whole) :
    ∃ front' last', whole = front' ++ [last'] ∧ List.Forall₂ R front front' ∧ R last last' := by
  induction front generalizing whole with
  | nil =>
    obtain ⟨last', _, related, none, rfl⟩ := List.forall₂_cons_left_iff.1 h
    cases none
    exact ⟨[], last', rfl, .nil, related⟩
  | cons a front ih =>
    obtain ⟨b, rest, related, others, rfl⟩ := List.forall₂_cons_left_iff.1 h
    obtain ⟨front', last', rfl, before, end'⟩ := ih others
    exact ⟨b :: front', last', rfl, .cons related before, end'⟩

/-- A chain of one connective: its first operand, with parentheses and further operands around
it. -/
inductive Chain where
  | first (node : Node)
  | grouped (inner : Chain) (span : Span)
  | extended (left : Chain) (right : Node) (span : Span)

namespace Chain

/-- The tree of a chain. -/
def node (op : BooleanOp) : Chain → Node
  | first node => node
  | grouped inner span => ⟨.unary .grouped (inner.node op), span⟩
  | extended left right span => ⟨.connective op (left.node op) right, span⟩

/-- The first operand. -/
def head : Chain → Node
  | first node => node
  | grouped inner _ => inner.head
  | extended left _ _ => left.head

/-- The operands after the first. -/
def tail : Chain → List Node
  | first _ => []
  | grouped inner _ => inner.tail
  | extended left right _ => left.tail ++ [right]

/-- The number of nodes around the first operand. -/
def height : Chain → Nat
  | first _ => 0
  | grouped inner _ => inner.height + 1
  | extended left _ _ => left.height + 1

variable {context : Context} {op : BooleanOp}

/-- A chain with room for its nodes is built to what its operands are built to, joined one after
another. -/
lemma buildsPredicate {chain : Chain} {p ps} (first : chain.head.BuildsPredicate context p)
    (rest : List.Forall₂ (Node.BuildsPredicate context) chain.tail ps) :
    (chain.node op).BuildsPredicate (context.limited (context.options.maxDepth + chain.height))
      (ps.foldl (.join op) p) := by
  induction chain generalizing ps with
  | first node =>
    cases rest
    exact first.limited le_rfl
  | grouped inner span ih =>
    obtain ⟨e, built, stands⟩ := Node.buildsPredicate_iff.1 (ih first rest)
    refine Node.buildsPredicate_iff.2 ⟨e, built.of_unary rfl, ?_⟩
    exact asPredicate_ok.2 (asPredicate_ok.1 stands)
  | extended left right span ih =>
    -- the last operand joins what the operands before it are built to
    obtain ⟨before, last, rfl, earlier, built⟩ := exists_of_forall₂_concat rest
    rw [List.foldl_append]
    apply Node.Builds.predicate
    exact Node.Builds.of_connective (ih first earlier) (built.limited (Nat.le_add_right _ _)) op

/-- A chain of more than one operand is built to a predicate and never to a literal. -/
lemma exists_predicate {chain : Chain} (several : chain.tail ≠ []) {e}
    (h : (chain.node op).Builds context e) : ∃ p, e = .predicate p := by
  induction chain with
  | first => exact absurd rfl several
  | grouped inner span ih => exact ih several (h.transparent (.inl rfl))
  | extended left right span =>
    obtain ⟨p, q, -, -, rfl⟩ := h.connective
    exact ⟨_, rfl⟩

/-- A chain of one connective over operands that are built on their own is built, with room for its
nodes, to one compound that is not negated. Its children are the children of the first operand, if
that is itself such a compound, and otherwise the first operand; then all others in order, each as
one child. A compound of the other connective or a negated one is never taken apart. -/
theorem builds_compound {chain : Chain} (several : chain.tail ≠ []) {p ps}
    (first : chain.head.BuildsPredicate context p)
    (rest : List.Forall₂ (Node.BuildsPredicate context) chain.tail ps) :
    ∃ children,
      ((∃ inner, p = positive (.compound op inner) ∧ children = inner ++ ps) ∨
        (∀ inner, p ≠ positive (.compound op inner)) ∧ children = p :: ps) ∧
      ∀ request : Request, request.tree = chain.node op →
        request.BuildsWithRoom context (context.options.maxDepth + chain.height)
          (.predicate (positive (.compound op children))) := by
  have others : ps ≠ [] := by
    rintro rfl
    exact several (List.forall₂_nil_right_iff.1 rest)
  obtain ⟨children, joined, shape⟩ := Predicate.foldl_join_cases op p others
  refine ⟨children, shape, ?_⟩
  intro request same
  have whole : (chain.node op).BuildsPredicate _ _ := buildsPredicate first rest
  obtain ⟨e, built, stands⟩ := Node.buildsPredicate_iff.1 whole
  obtain ⟨q, rfl⟩ := exists_predicate several built
  cases stands
  apply Request.buildsWithRoom_of_builds
  rw [same, ← joined]
  exact built

/-- A chain of two conjunctions, a disjunction and a negated conjunction, of which only the first
conjunction is taken apart. -/
theorem builds_compound_conjunctions :
    let sides := (Node.boolean true, Node.unary (.isNull false) (.identifier "b"))
    let conjunction := Node.connective .and sides.1 sides.2
    let disjunction := Node.connective .or sides.1 sides.2
    let start := Chain.grouped (.first conjunction) ⟨0, 9⟩
    let longer := Chain.extended (.extended start conjunction ⟨0, 19⟩) disjunction ⟨0, 29⟩
    let chain := Chain.extended (.grouped longer ⟨0, 30⟩) (.negation conjunction) ⟨0, 40⟩
    let children := [positive (.boolean true), positive (.isNull (.property "b"))]
    let others := [positive (.compound .and children), positive (.compound .or children),
      ⟨.compound .and children, true⟩]
    List.Forall₂ (Node.BuildsPredicate .plain) chain.tail others ∧
      ∀ request : Request, request.tree = chain.node .and →
        request.BuildsWithRoom .plain 517
          (.predicate (positive (.compound .and (children ++ others)))) := by
  intro sides conjunction disjunction start longer chain children others
  have several : chain.tail ≠ [] := nofun
  have first : chain.head.BuildsPredicate .plain (positive (.compound .and children)) := rfl
  have rest : List.Forall₂ (Node.BuildsPredicate .plain) chain.tail others :=
    .cons rfl (.cons rfl (.cons rfl .nil))
  refine ⟨rest, ?_⟩
  obtain ⟨_, shape, built⟩ := builds_compound several first rest
  obtain ⟨inner, same, rfl⟩ | ⟨other, -⟩ := shape
  · cases same
    exact built
  · exact absurd rfl (other children)

end Chain

end QueryExpr.Syntax
