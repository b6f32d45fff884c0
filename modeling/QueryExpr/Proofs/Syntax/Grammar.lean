import QueryExpr.Proofs.Syntax.Nesting

/-!
# Trees that keep to the grammar

The types of parse trees allow more than the grammar of the query language does. `Node.Grammatical`
says that a tree keeps to what the grammar promises, at every node of it: paths and links are not
empty, only paths and parameters have a type, frames are not turned round, and where a predicate has
to stand there stands a predicate or a boolean, perhaps in parentheses.
-/

namespace QueryExpr.Syntax

/-- The alternatives for predicates, and booleans. -/
def Kind.isPredicate : Kind → Bool
  | .connective .. | .negation _ | .between .. | .like .. | .inList .. | .memberOf .. => true
  | .unary (.existence _) _ | .unary (.isNull _) _ | .unary (.isEmpty _) _ => true
  | .binary (.comparison _) _ _ | .binary (.quantified _ _) _ _ => true
  | .atom (.boolean _) => true
  | _ => false

/-- A predicate or a boolean, in any number of parentheses and plus signs. -/
inductive Node.IsCondition : Node → Prop where
  | bare {kind : Kind} {span} : kind.isPredicate → IsCondition ⟨kind, span⟩
  | wrapped {op operand span} : op = .grouped ∨ op = .plus → IsCondition operand →
    IsCondition ⟨.unary op operand, span⟩

/-- Paths as expressions, and parameters. -/
def Kind.hasType : Kind → Bool
  | .path .plain _ | .atom (.namedParameter _) | .atom (.positionalParameter _) => true
  | _ => false

/-- The frame of a window that is specified with one. -/
def Over.frames : Over → List (Frame Node)
  | named _ => []
  | inline _ _ _ frame => frame.toList

/-- The items of the ordering of a window. -/
def Over.items : Over → List OrderItem
  | named _ => []
  | inline _ _ orderBy _ => orderBy

namespace Kind

/-- The nodes of an alternative that have to be predicates. -/
def conditions : Kind → List Node
  | .connective _ left right => [left, right]
  | .negation operand => [operand]
  | .searchedCase branches _ => branches.map Branch.condition
  | .count _ _ filter _ => filter.toList
  | .call c => c.filter.toList
  | _ => []

/-- The path of an alternative that is written with one. -/
def paths : Kind → List Path
  | .path _ p | .memberOf _ _ p => [p]
  | _ => []

/-- The frame of an alternative that has one. -/
def frames : Kind → List (Frame Node)
  | .count _ _ _ window => window.toList.flatMap Over.frames
  | .call c => c.window.toList.flatMap Over.frames
  | _ => []

/-- The items that stand in the orderings of an alternative. -/
def items : Kind → List OrderItem
  | .count _ _ _ window => window.toList.flatMap Over.items
  | .call c => c.withinGroup.getD [] ++ c.window.toList.flatMap Over.items
  | _ => []

/-- An alternative keeps to the grammar. -/
structure Grammatical (kind : Kind) : Prop where
  path : ∀ path ∈ kind.paths, path.qualifier.isSome ∨ path.links ≠ []
  link : ∀ path ∈ kind.paths, ∀ link ∈ path.links, link.segments ≠ []
  subpath : kind ≠ .atom (.subpath [])
  type : ∀ operand, kind = .typeOf operand → operand.kind.hasType
  frame : ∀ frame ∈ kind.frames,
    frame.start ≠ .unboundedFollowing ∧ frame.stop ≠ some .unboundedPreceding
  condition : ∀ condition ∈ kind.conditions, condition.IsCondition

/-- Without paths and frames, an alternative with operands that are expressions or predicates keeps
to the grammar if the latter are conditions. -/
lemma Grammatical.of_conditions {kind : Kind} (paths : kind.paths = []) (frames : kind.frames = [])
    (leaf : ∀ atom, kind ≠ .atom atom) (type : ∀ operand, kind ≠ .typeOf operand)
    (conditions : ∀ condition ∈ kind.conditions, condition.IsCondition) : kind.Grammatical where
  path := by simp [paths]
  link := by simp [paths]
  subpath := leaf _
  type operand same := absurd same (type operand)
  frame := by simp [frames]
  condition := conditions

end Kind

/-- Every node of a tree keeps to the grammar. -/
def Node.Grammatical (tree : Node) : Prop :=
  ∀ node : Node, node.Within tree → node.kind.Grammatical

/-- A tree keeps to the grammar if its root does and the nodes that stand in it do. -/
lemma Node.grammatical_of_inner {tree : Node} (root : tree.kind.Grammatical)
    (inner : ∀ node ∈ tree.kind.inner, node.Grammatical) : tree.Grammatical :=
  Node.forall_within root inner

end QueryExpr.Syntax
