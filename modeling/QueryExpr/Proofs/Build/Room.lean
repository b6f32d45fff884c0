import QueryExpr.Proofs.Build.Nesting

/-!
# Room to nest

How far nodes may nest is the only way in which the limit on nesting bears on a build. A node whose
parts are built on their own is built itself if the limit leaves room for one more node around them:
the lemmas `Node.Builds.of_unary`, `of_binary`, `of_connective`, `of_negation` and `of_inList` are
the converses of the inversion lemmas. `Request.BuildsWithRoom` says what a request comes to under
every limit, and by `Request.buildsWithRoom_iff` a single build under a limit is enough to know it.
-/

namespace QueryExpr

open Traced

variable {context : Context} {span : Span}

namespace Syntax

/-- A node that is built on its own is built to the same under others that the limit leaves room
for. -/
lemma Node.Builds.nested {node : Node} {e} (h : node.Builds context e) {depth limit : Nat}
    (room : context.options.maxDepth + depth ≤ limit) :
    (node.build (context.limited limit) depth).result = .ok e := by
  -- the context itself is the one with the higher limit, limited again
  have narrow := (context.limited limit).narrows_limited context.options.maxDepth
  have cut : Cut _ (node.build context 0) (node.build (context.limited limit) depth) :=
    Node.build_cut narrow room node
  rw [← cut.eq_of_ok h]
  exact h

/-- The same for the predicate of a node. -/
lemma Node.BuildsPredicate.nested {node : Node} {p} (h : node.BuildsPredicate context p)
    {depth limit : Nat} (room : context.options.maxDepth + depth ≤ limit) :
    ∃ e, (node.build (context.limited limit) depth).result = .ok e ∧
      asPredicate node e = .ok p := by
  obtain ⟨e, built, stands⟩ := Node.buildsPredicate_iff.1 h
  exact ⟨e, built.nested room, stands⟩

/-- A predicate stays the same under a higher limit. -/
lemma Node.BuildsPredicate.limited {node : Node} {p} (h : node.BuildsPredicate context p)
    {limit : Nat} (more : context.options.maxDepth ≤ limit) :
    node.BuildsPredicate (context.limited limit) p := by
  have room : context.options.maxDepth + 0 ≤ limit := more
  obtain ⟨e, built, stands⟩ := h.nested room
  exact Node.buildsPredicate_iff.2 ⟨e, built, stands⟩

/-- A node that is built to a predicate is that predicate's node as well. -/
lemma Node.Builds.predicate {node : Node} {p} (h : node.Builds context (.predicate p)) :
    node.BuildsPredicate context p :=
  Node.buildsPredicate_iff.2 ⟨_, h, rfl⟩

/-- With room for one node more, a node builds what its step makes of its operand. -/
lemma Node.Builds.of_unary {op operand x e} (h : operand.Builds context x)
    (made : op.build span x = .ok e) :
    Node.Builds (context.limited (context.options.maxDepth + 1)) ⟨.unary op operand, span⟩ e := by
  refine Node.builds_iff.2 ⟨Nat.succ_pos _, ?_⟩
  simp only [Kind.build, bind_ok, lift_ok]
  exact ⟨x, h.nested le_rfl, made⟩

/-- With room for one node more, a node builds what its step makes of its two operands. -/
lemma Node.Builds.of_binary {op left right l r} (hl : left.Builds context l)
    (hr : right.Builds context r) (permitted : op.permit context.options span = .ok ()) :
    Node.Builds (context.limited (context.options.maxDepth + 1)) ⟨.binary op left right, span⟩
      (op.build context l r) := by
  refine Node.builds_iff.2 ⟨Nat.succ_pos _, ?_⟩
  simp only [Kind.build, bind_ok, lift_ok, pure_ok]
  exact ⟨(), permitted, l, hl.nested le_rfl, r, hr.nested le_rfl, rfl⟩

/-- With room for one node more, a connective builds the join of its predicates. -/
lemma Node.Builds.of_connective {left right p q} (hp : left.BuildsPredicate context p)
    (hq : right.BuildsPredicate context q) (op : BooleanOp) :
    Node.Builds (context.limited (context.options.maxDepth + 1)) ⟨.connective op left right, span⟩
      (.predicate (.join op p q)) := by
  obtain ⟨l, builtLeft, standsLeft⟩ := hp.nested le_rfl
  obtain ⟨r, builtRight, standsRight⟩ := hq.nested le_rfl
  refine Node.builds_iff.2 ⟨Nat.succ_pos _, ?_⟩
  simp only [Kind.build, bind_ok, lift_ok, pure_ok]
  exact ⟨l, builtLeft, p, standsLeft, r, builtRight, q, standsRight, rfl⟩

/-- With room for one node more, a negation builds the negated predicate. -/
lemma Node.Builds.of_negation {operand p} (h : operand.BuildsPredicate context p) :
    Node.Builds (context.limited (context.options.maxDepth + 1)) ⟨.negation operand, span⟩
      (.predicate p.negate) := by
  obtain ⟨e, built, stands⟩ := h.nested le_rfl
  refine Node.builds_iff.2 ⟨Nat.succ_pos _, ?_⟩
  simp only [Kind.build, bind_ok, lift_ok, pure_ok]
  exact ⟨e, built, p, stands, rfl⟩

/-- Nodes that are built on their own are built one after another. -/
lemma buildAll_of_builds {nodes : List Node} {built}
    (each : List.Forall₂ (Node.Builds context) nodes built) {depth limit : Nat}
    (room : context.options.maxDepth + depth ≤ limit) :
    (buildAll (context.limited limit) depth nodes).result = .ok built := by
  -- nodes in a list are built at the same depth, so the room for one is the room for all
  induction each with
  | nil => rfl
  | cons h _ ih =>
    simp only [buildAll, bind_ok, pure_ok]
    exact ⟨_, h.nested room, _, ih, rfl⟩

/-- With room for one node more, a membership test builds the test of its operand and items. -/
lemma Node.Builds.of_inList {operand items l rs} (h : operand.Builds context l)
    (each : List.Forall₂ (Node.Builds context) items rs) (negated parenthesized : Bool) :
    Node.Builds (context.limited (context.options.maxDepth + 1))
      ⟨.inList negated operand items parenthesized, span⟩
      (membership context negated (isBareItem items parenthesized) l rs) := by
  refine Node.builds_iff.2 ⟨Nat.succ_pos _, ?_⟩
  simp only [Kind.build, bind_ok, pure_ok]
  exact ⟨l, h.nested le_rfl, rs, buildAll_of_builds each le_rfl, rfl⟩

end Syntax

namespace Request

variable {request : Request} {room : Nat} {e : Expression}

/-- Under every limit on nesting a request is built to an expression or fails for the limit, and the
limits from `room` on leave room for it. -/
def BuildsWithRoom (context : Context) (room : Nat) (request : Request) (e : Expression) : Prop :=
  ∀ limit, (request.build (context.limited limit) 0).result = .ok e ∨
    limit < room ∧
      ∃ span, (request.build (context.limited limit) 0).result = .error ⟨.nesting limit, span⟩

/-- What a request comes to under one limit decides what it comes to under all. -/
lemma buildsWithRoom_iff :
    request.BuildsWithRoom context room e ↔
      (request.build (context.limited room) 0).result = .ok e := by
  constructor
  · intro h
    obtain built | ⟨less, -⟩ := h room
    · exact built
    · exact absurd less (Nat.lt_irrefl room)
  · intro h limit
    rcases Nat.lt_or_ge limit room with less | more
    · -- a lower limit cuts the build, if it changes it
      have narrow := (context.limited room).narrows_limited limit
      have cut : Cut _ (request.build (context.limited limit) 0)
          (request.build (context.limited room) 0) := request.build_cut narrow less.le
      cases built : (request.build (context.limited limit) 0).result with
      | ok other =>
        have same := cut.eq_of_ok built
        exact .inl (built.symm.trans (same ▸ h))
      | error fault =>
        obtain failed | stop := cut.error_or_stops built
        · cases failed.symm.trans h
        · obtain ⟨cause, span⟩ := fault
          cases stop
          exact .inr ⟨less, span, rfl⟩
    · have narrow := (context.limited limit).narrows_limited room
      have cut : Cut _ (request.build (context.limited room) 0)
          (request.build (context.limited limit) 0) := request.build_cut narrow more
      exact .inl (cut.eq_of_ok h ▸ h)

/-- A request for the predicate of a tree is answered with what the tree is built to. -/
lemma buildsWithRoom_of_buildsPredicate {tree : Syntax.Node} {p}
    (h : tree.BuildsPredicate (context.limited room) p) :
    (predicate tree).BuildsWithRoom context room (.predicate p) :=
  buildsWithRoom_iff.2 (bind_ok.2 ⟨p, h, rfl⟩)

/-- A request for a tree that is built to a predicate is answered with it, in either form. -/
lemma buildsWithRoom_of_builds {p} (h : request.tree.Builds (context.limited room) (.predicate p)) :
    request.BuildsWithRoom context room (.predicate p) := by
  cases request with
  | expression tree => exact buildsWithRoom_iff.2 h
  | predicate tree => exact buildsWithRoom_of_buildsPredicate h.predicate

end Request

end QueryExpr
