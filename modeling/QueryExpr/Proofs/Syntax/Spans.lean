import Mathlib.Tactic.Lemma
import QueryExpr.Syntax.Basic

/-!
# Trees without their spans

`Node.unplaced` empties the spans of all nodes and of all items of orderings in a tree and leaves
everything else. Two trees are the same but for their spans if they are the same without them.
-/

namespace QueryExpr.Syntax

mutual

/-- A node with all spans in it emptied. -/
def Node.unplaced : Node → Node
  | ⟨kind, _⟩ => ⟨kind.unplaced, Span.empty⟩

/-- An alternative with all spans in it emptied. -/
def Kind.unplaced : Kind → Kind
  | .atom leaf => .atom leaf
  | .unary op operand => .unary op operand.unplaced
  | .binary op left right => .binary op left.unplaced right.unplaced
  | .connective op left right => .connective op left.unplaced right.unplaced
  | .negation operand => .negation operand.unplaced
  | .typeOf operand => .typeOf operand.unplaced
  | .between negated operand low high =>
    .between negated operand.unplaced low.unplaced high.unplaced
  | .like negated operand pattern escape =>
    .like negated operand.unplaced pattern.unplaced (unplacedOption escape)
  | .inList negated operand items parenthesized =>
    .inList negated operand.unplaced (unplacedAll items) parenthesized
  | .simpleCase operand branches otherwise =>
    .simpleCase operand.unplaced (unplacedBranches branches) (unplacedOption otherwise)
  | .searchedCase branches otherwise =>
    .searchedCase (unplacedBranches branches) (unplacedOption otherwise)
  | .trim side character operand => .trim side (unplacedOption character) operand.unplaced
  | .count distinct argument filter window =>
    .count distinct (unplacedOption argument) (unplacedOption filter) (unplacedOver window)
  | .call call => .call call.unplaced
  | .path role path => .path role path.unplaced
  | .memberOf negated element collection =>
    .memberOf negated element.unplaced collection.unplaced
  | .applied head arguments => .applied head (unplacedAll arguments)

/-- Nodes with all spans in them emptied. -/
def unplacedAll : List Node → List Node
  | [] => []
  | node :: rest => node.unplaced :: unplacedAll rest

/-- A node that may be missing, with all spans in it emptied. -/
def unplacedOption : Option Node → Option Node
  | none => none
  | some node => some node.unplaced

/-- The branches of a case expression with all spans in them emptied. -/
def unplacedBranches : List Branch → List Branch
  | [] => []
  | ⟨condition, result⟩ :: rest =>
    ⟨condition.unplaced, result.unplaced⟩ :: unplacedBranches rest

/-- A path with all spans in its qualifier and its indices emptied. -/
def Path.unplaced : Path → Path
  | ⟨qualifier, links⟩ => ⟨unplacedOption qualifier, unplacedLinks links⟩

/-- Links with all spans in their indices emptied. -/
def unplacedLinks : List Link → List Link
  | [] => []
  | ⟨segments, index⟩ :: rest => ⟨segments, unplacedOption index⟩ :: unplacedLinks rest

/-- A call with all spans in its arguments and clauses emptied. -/
def Call.unplaced : Call → Call
  | ⟨name, distinct, arguments, withinGroup, filter, window⟩ =>
    ⟨name, distinct, unplacedAll arguments, unplacedGroup withinGroup, unplacedOption filter,
      unplacedOver window⟩

/-- A within group clause with all spans in it emptied. -/
def unplacedGroup : Option (List OrderItem) → Option (List OrderItem)
  | none => none
  | some items => some (unplacedItems items)

/-- The items of an ordering with all spans in them and their own spans emptied. -/
def unplacedItems : List OrderItem → List OrderItem
  | [] => []
  | ⟨expression, descending, nulls, collation, _⟩ :: rest =>
    ⟨expression.unplaced, descending, nulls, collation, Span.empty⟩ :: unplacedItems rest

/-- A window with all spans in it emptied. -/
def unplacedOver : Option Over → Option Over
  | none => none
  | some (.named name) => some (.named name)
  | some (.inline name partitionBy orderBy frame) =>
    some (.inline name (unplacedAll partitionBy) (unplacedItems orderBy) (unplacedFrame frame))

/-- A frame with all spans in its bounds emptied. -/
def unplacedFrame : Option (Frame Node) → Option (Frame Node)
  | none => none
  | some ⟨mode, start, stop, exclusion⟩ =>
    some ⟨mode, unplacedBound start, unplacedStop stop, exclusion⟩

/-- The end of a frame, if it has one, with all spans in it emptied. -/
def unplacedStop : Option (Bound Node) → Option (Bound Node)
  | none => none
  | some bound => some (unplacedBound bound)

/-- A bound with all spans in what it counts from emptied. -/
def unplacedBound : Bound Node → Bound Node
  | .unboundedPreceding => .unboundedPreceding
  | .preceding offset => .preceding offset.unplaced
  | .currentRow => .currentRow
  | .following offset => .following offset.unplaced
  | .unboundedFollowing => .unboundedFollowing

end

/-- The alternative of an emptied node is the emptied alternative. -/
lemma Node.unplaced_kind (node : Node) : node.unplaced.kind = node.kind.unplaced := by
  cases node
  rfl

/-- Spans do not take part in the name of an alternative. -/
lemma Kind.name_unplaced (kind : Kind) : kind.unplaced.name = kind.name := by
  cases kind <;> rfl

/-- A node is there after the spans in it are emptied if it was there before. -/
lemma isSome_unplacedOption (node : Option Node) : (unplacedOption node).isSome = node.isSome := by
  cases node <;> rfl

end QueryExpr.Syntax
