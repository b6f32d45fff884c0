import Mathlib.Tactic.Lemma
import QueryExpr.Syntax.Basic

/-!
# Parentheses and plus signs around nodes

`Node.Wrap` relates a tree to the trees that come of it by writing parentheses and plus signs around
any of its nodes, as often as one likes. Two nodes are left as they stand, because the builder looks
at the alternative that is written there: the operand of a type, and an item that stands alone after
an `IN` without parentheses. Nodes in them can be wrapped like others.
-/

namespace QueryExpr.Syntax

mutual

/-- A node, and the node with wrappers around it and around nodes in it. -/
inductive Node.Wrap : Node → Node → Prop where
  | inside {kind kind' span} : kind.Wrap kind' → Node.Wrap ⟨kind, span⟩ ⟨kind', span⟩
  | grouped {node node' span} : node.Wrap node' → Node.Wrap node ⟨.unary .grouped node', span⟩
  | plus {node node' span} : node.Wrap node' → Node.Wrap node ⟨.unary .plus node', span⟩

/-- An alternative, and the alternative with wrappers around nodes in it. -/
inductive Kind.Wrap : Kind → Kind → Prop where
  | atom leaf : Kind.Wrap (.atom leaf) (.atom leaf)
  | unary {operand operand'} op : operand.Wrap operand' →
    Kind.Wrap (.unary op operand) (.unary op operand')
  | binary {left left' right right'} op : left.Wrap left' → right.Wrap right' →
    Kind.Wrap (.binary op left right) (.binary op left' right')
  | connective {left left' right right'} op : left.Wrap left' → right.Wrap right' →
    Kind.Wrap (.connective op left right) (.connective op left' right')
  | negation {operand operand'} : operand.Wrap operand' →
    Kind.Wrap (.negation operand) (.negation operand')
  /-- The operand of a type is left as it stands. -/
  | typeOf {kind kind' span} : kind.Wrap kind' →
    Kind.Wrap (.typeOf ⟨kind, span⟩) (.typeOf ⟨kind', span⟩)
  | between {operand operand' low low' high high'} negated : operand.Wrap operand' →
    low.Wrap low' → high.Wrap high' →
    Kind.Wrap (.between negated operand low high) (.between negated operand' low' high')
  | like {operand operand' pattern pattern' escape escape'} negated : operand.Wrap operand' →
    pattern.Wrap pattern' → WrapOption escape escape' →
    Kind.Wrap (.like negated operand pattern escape) (.like negated operand' pattern' escape')
  | inList {operand operand' items items' parenthesized} negated :
    (items.length = 1 → parenthesized = true) → operand.Wrap operand' → WrapAll items items' →
    Kind.Wrap (.inList negated operand items parenthesized)
      (.inList negated operand' items' parenthesized)
  /-- A single item without parentheses is left as it stands. -/
  | inBare {operand operand' kind kind' span} negated : operand.Wrap operand' → kind.Wrap kind' →
    Kind.Wrap (.inList negated operand [⟨kind, span⟩] false)
      (.inList negated operand' [⟨kind', span⟩] false)
  | simpleCase {operand operand' branches branches' otherwise otherwise'} :
    operand.Wrap operand' → WrapBranches branches branches' → WrapOption otherwise otherwise' →
    Kind.Wrap (.simpleCase operand branches otherwise) (.simpleCase operand' branches' otherwise')
  | searchedCase {branches branches' otherwise otherwise'} :
    WrapBranches branches branches' → WrapOption otherwise otherwise' →
    Kind.Wrap (.searchedCase branches otherwise) (.searchedCase branches' otherwise')
  | trim {character character' operand operand'} side : WrapOption character character' →
    operand.Wrap operand' →
    Kind.Wrap (.trim side character operand) (.trim side character' operand')
  | count {argument argument' filter filter' window window'} distinct :
    WrapOption argument argument' → WrapOption filter filter' → WrapOver window window' →
    Kind.Wrap (.count distinct argument filter window) (.count distinct argument' filter' window')
  | call {call call'} : call.Wrap call' → Kind.Wrap (.call call) (.call call')
  | path {path path'} role : path.Wrap path' → Kind.Wrap (.path role path) (.path role path')
  | memberOf {element element' collection collection'} negated : element.Wrap element' →
    collection.Wrap collection' →
    Kind.Wrap (.memberOf negated element collection) (.memberOf negated element' collection')
  | applied {arguments arguments'} head : WrapAll arguments arguments' →
    Kind.Wrap (.applied head arguments) (.applied head arguments')

/-- Nodes, and the nodes wrapped one by one. -/
inductive WrapAll : List Node → List Node → Prop where
  | nil : WrapAll [] []
  | cons {node node' rest rest'} : node.Wrap node' → WrapAll rest rest' →
    WrapAll (node :: rest) (node' :: rest')

/-- A node that may be missing, and the node wrapped if it is there. -/
inductive WrapOption : Option Node → Option Node → Prop where
  | none : WrapOption none none
  | some {node node'} : node.Wrap node' → WrapOption (some node) (some node')

/-- Branches, and the branches with their conditions and results wrapped. -/
inductive WrapBranches : List Branch → List Branch → Prop where
  | nil : WrapBranches [] []
  | cons {condition condition' result result' rest rest'} : condition.Wrap condition' →
    result.Wrap result' → WrapBranches rest rest' →
    WrapBranches (⟨condition, result⟩ :: rest) (⟨condition', result'⟩ :: rest')

/-- A path, and the path with its qualifier and its indices wrapped. -/
inductive Path.Wrap : Path → Path → Prop where
  | mk {qualifier qualifier' links links'} : WrapOption qualifier qualifier' →
    WrapLinks links links' → Path.Wrap ⟨qualifier, links⟩ ⟨qualifier', links'⟩

/-- Links, and the links with their indices wrapped. -/
inductive WrapLinks : List Link → List Link → Prop where
  | nil : WrapLinks [] []
  | cons {index index' rest rest'} segments : WrapOption index index' → WrapLinks rest rest' →
    WrapLinks (⟨segments, index⟩ :: rest) (⟨segments, index'⟩ :: rest')

/-- A call, and the call with its arguments and the nodes of its clauses wrapped. -/
inductive Call.Wrap : Call → Call → Prop where
  | mk {arguments arguments' withinGroup withinGroup' filter filter' window window'}
    name distinct : WrapAll arguments arguments' → WrapGroup withinGroup withinGroup' →
    WrapOption filter filter' → WrapOver window window' →
    Call.Wrap ⟨name, distinct, arguments, withinGroup, filter, window⟩
      ⟨name, distinct, arguments', withinGroup', filter', window'⟩

/-- A within group clause, and the clause with its items wrapped. -/
inductive WrapGroup : Option (List OrderItem) → Option (List OrderItem) → Prop where
  | none : WrapGroup none none
  | some {items items'} : WrapItems items items' → WrapGroup (some items) (some items')

/-- The items of an ordering, and the items with what they sort by wrapped. -/
inductive WrapItems : List OrderItem → List OrderItem → Prop where
  | nil : WrapItems [] []
  | cons {expression expression' rest rest'} descending nulls collation span :
    expression.Wrap expression' → WrapItems rest rest' →
    WrapItems (⟨expression, descending, nulls, collation, span⟩ :: rest)
      (⟨expression', descending, nulls, collation, span⟩ :: rest')

/-- A window, and the window with its partition, its ordering and its frame wrapped. -/
inductive WrapOver : Option Over → Option Over → Prop where
  | none : WrapOver none none
  | named name : WrapOver (some (.named name)) (some (.named name))
  | inline {partitionBy partitionBy' orderBy orderBy' frame frame'} name :
    WrapAll partitionBy partitionBy' → WrapItems orderBy orderBy' → WrapFrame frame frame' →
    WrapOver (some (.inline name partitionBy orderBy frame))
      (some (.inline name partitionBy' orderBy' frame'))

/-- A frame, and the frame with its bounds wrapped. -/
inductive WrapFrame : Option (Frame Node) → Option (Frame Node) → Prop where
  | none : WrapFrame none none
  | some {start start' stop stop'} mode exclusion : WrapBound start start' → WrapStop stop stop' →
    WrapFrame (some ⟨mode, start, stop, exclusion⟩) (some ⟨mode, start', stop', exclusion⟩)

/-- The end of a frame, and the end wrapped if there is one. -/
inductive WrapStop : Option (Bound Node) → Option (Bound Node) → Prop where
  | none : WrapStop none none
  | some {bound bound'} : WrapBound bound bound' → WrapStop (some bound) (some bound')

/-- A bound, and the bound with what it counts from wrapped. -/
inductive WrapBound : Bound Node → Bound Node → Prop where
  | unboundedPreceding : WrapBound .unboundedPreceding .unboundedPreceding
  | preceding {offset offset'} : offset.Wrap offset' →
    WrapBound (.preceding offset) (.preceding offset')
  | currentRow : WrapBound .currentRow .currentRow
  | following {offset offset'} : offset.Wrap offset' →
    WrapBound (.following offset) (.following offset')
  | unboundedFollowing : WrapBound .unboundedFollowing .unboundedFollowing

end

/-- Wrapping keeps the number of nodes. -/
lemma WrapAll.length_eq {nodes nodes' : List Node} (wrap : WrapAll nodes nodes') :
    nodes'.length = nodes.length := by
  induction nodes generalizing nodes' with
  | nil =>
    cases wrap
    rfl
  | cons node rest ih =>
    cases wrap with
    | cons _ others => exact congrArg (· + 1) (ih others)

/-- Wrapping neither adds nor removes a node that may be missing. -/
lemma WrapOption.isSome_eq {node node' : Option Node} (wrap : WrapOption node node') :
    node'.isSome = node.isSome := by
  cases wrap <;> rfl

end QueryExpr.Syntax
