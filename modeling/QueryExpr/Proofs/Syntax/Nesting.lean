import Mathlib.Data.List.Chain
import Mathlib.Logic.Relation
import QueryExpr.Syntax.Basic

/-!
# Nested nodes

The nodes that stand directly in a node, through whatever clause, path or list they are written in,
and chains of nodes of which each stands directly in the one before it. `Node.Tower` is what a limit
on nesting is about: a chain of a given length that starts at a node.
-/

namespace QueryExpr

variable {α : Type}

/-- What a bound counts from, if it counts. -/
def Bound.offsets : Bound α → List α
  | preceding offset | following offset => [offset]
  | unboundedPreceding | currentRow | unboundedFollowing => []

/-- What the bounds of a frame count from, the start before the end. -/
def Frame.offsets (frame : Frame α) : List α :=
  frame.start.offsets ++ frame.stop.toList.flatMap Bound.offsets

namespace Syntax

/-- The nodes of a branch, the condition before the result. -/
def Branch.inner (branch : Branch) : List Node :=
  [branch.condition, branch.result]

/-- The nodes of a path, which are its qualifier and the indices of its links. -/
def Path.inner (path : Path) : List Node :=
  path.qualifier.toList ++ path.links.flatMap fun link => link.index.toList

/-- The nodes of a window, which are its partition, its ordering and the offsets of its frame. -/
def Over.inner : Over → List Node
  | named _ => []
  | inline _ partitionBy orderBy frame =>
    partitionBy ++ orderBy.map OrderItem.expression ++ frame.toList.flatMap Frame.offsets

/-- The nodes of a call, which are its arguments and those of its clauses. -/
def Call.inner (call : Call) : List Node :=
  call.arguments ++ (call.withinGroup.getD []).map OrderItem.expression ++ call.filter.toList ++
    call.window.toList.flatMap Over.inner

/-- The nodes that stand directly in an alternative. -/
def Kind.inner : Kind → List Node
  | .atom _ => []
  | .unary _ operand | .negation operand | .typeOf operand => [operand]
  | .binary _ left right | .connective _ left right => [left, right]
  | .between _ operand low high => [operand, low, high]
  | .like _ operand pattern escape => operand :: pattern :: escape.toList
  | .inList _ operand items _ => operand :: items
  | .simpleCase operand branches otherwise =>
    operand :: (branches.flatMap Branch.inner ++ otherwise.toList)
  | .searchedCase branches otherwise => branches.flatMap Branch.inner ++ otherwise.toList
  | .trim _ character operand => character.toList ++ [operand]
  | .count _ argument filter window =>
    argument.toList ++ filter.toList ++ window.toList.flatMap Over.inner
  | .call c => c.inner
  | .path _ p => p.inner
  | .memberOf _ element collection => element :: collection.inner
  | .applied _ arguments => arguments

/-- One node stands directly in another. -/
def Node.Contains (outer inner : Node) : Prop :=
  inner ∈ outer.kind.inner

/-- A node is another one or stands in it, however deep. -/
def Node.Within (part whole : Node) : Prop :=
  Relation.ReflTransGen Node.Contains whole part

/-- What holds of the root of a tree and of everything in the nodes in it holds of all its nodes. -/
lemma Node.forall_within {holds : Node → Prop} {tree : Node} (root : holds tree)
    (inner : ∀ node ∈ tree.kind.inner, ∀ part : Node, part.Within node → holds part) :
    ∀ part : Node, part.Within tree → holds part := by
  intro part within
  obtain rfl | ⟨first, standing, within⟩ := Relation.ReflTransGen.cases_head within
  · exact root
  · exact inner first standing part within

/-- What holds of an operator with two operands that have nothing in them. -/
lemma Node.forall_within_leaves {holds : Node → Prop} {op left right} (alone : left.kind.inner = [])
    (alone' : right.kind.inner = []) (root : holds (Kind.binary op left right).node)
    (first : holds left) (second : holds right) :
    ∀ part : Node, part.Within (Kind.binary op left right).node → holds part := by
  have inLeft := Node.forall_within first (alone ▸ List.forall_mem_nil _)
  have inRight := Node.forall_within second (alone' ▸ List.forall_mem_nil _)
  exact Node.forall_within root
    (List.forall_mem_cons.2 ⟨inLeft, List.forall_mem_singleton.2 inRight⟩)

/-- There is a chain of some length of nodes that each stand directly in the one before, from a node
on. -/
def Node.Tower (node : Node) (height : Nat) : Prop :=
  ∃ chain : List Node, chain.head? = some node ∧ chain.IsChain Node.Contains ∧ chain.length = height

/-- Every node is a chain of length one. -/
lemma Node.Tower.single (node : Node) : node.Tower 1 :=
  ⟨[node], rfl, .singleton node, rfl⟩

/-- A node around the start of a chain makes the chain one longer. -/
lemma Node.Tower.nest {outer inner : Node} {height} (tower : inner.Tower height)
    (h : outer.Contains inner) : outer.Tower (height + 1) := by
  obtain ⟨chain, head, linked, rfl⟩ := tower
  refine ⟨outer :: chain, rfl, ?_, rfl⟩
  refine .cons linked fun next first => ?_
  obtain rfl : inner = next := Option.some.inj (head.symm.trans first)
  exact h

end Syntax

end QueryExpr
