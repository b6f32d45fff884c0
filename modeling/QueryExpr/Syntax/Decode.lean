import QueryExpr.Json.Reader
import QueryExpr.Json.Record
import QueryExpr.Syntax.Basic

/-!
# Reading parse trees from JSON

A node is a record of an alternative and a span; an alternative is a choice by its name. Everything
in an alternative is read with a given decoder for nodes, so that only nodes nest, and a tree is
read to the height of its JSON value.
-/

namespace QueryExpr

open Json

/-- A span. -/
def Span.ofJson? : Decoder Span := fun json => do
  let [start, stop] ← json.slots? ["start", "end"] | none
  return ⟨← start.required asNatural, ← stop.required asNatural⟩

namespace Syntax

/-- The two operands of a record. -/
def pairOfJson? (node : Decoder Node) (json : Json) : Option (Node × Node) := do
  let [left, right] ← json.slots? ["left", "right"] | none
  return (← left.required node, ← right.required node)

/-- A `NOT` flag and an operand. -/
def flaggedOfJson? (node : Decoder Node) (json : Json) : Option (Bool × Node) := do
  let [negated, operand] ← json.slots? ["not", "operand"] | none
  return (← negated.orDefault asBoolean false, ← operand.required node)

/-- An arithmetic alternative, whose operator is named by one of some words. -/
def arithmeticOfJson? (node : Decoder Node) (ops : List (String × BinaryOp)) (json : Json) :
    Option Kind := do
  let [left, op, right] ← json.slots? ["left", "op", "right"] | none
  let left ← left.required node
  let op ← op.required fun json => do
    let (tag, content) ← json.asChoice
    if isUnit content then ops.lookup tag else none
  return .binary op left (← right.required node)

/-- A branch of a case alternative. -/
def Branch.ofJson? (node : Decoder Node) : Decoder Branch := fun json => do
  let [condition, result] ← json.slots? ["condition", "result"] | none
  return ⟨← condition.required node, ← result.required node⟩

/-- An item of an ordering. -/
def OrderItem.ofJson? (node : Decoder Node) : Decoder OrderItem := fun json => do
  let [expression, descending, nulls, collation, span] ←
    json.slots? ["expression", "descending", "nulls", "collation", "span"] | none
  return ⟨← expression.required node, ← descending.orDefault asBoolean false,
    ← nulls.optionalOrCut asTag, ← collation.optionalOrCut asString,
    ← span.orDefault Span.ofJson? Span.empty⟩

/-- The bound of a frame. -/
def boundOfJson? (node : Decoder Node) : Decoder (Bound Node) := fun json => do
  match ← json.asChoice with
  | ("UnboundedPreceding", content) => if isUnit content then some .unboundedPreceding else none
  | ("Preceding", some content) => (node content).map .preceding
  | ("CurrentRow", content) => if isUnit content then some .currentRow else none
  | ("Following", some content) => (node content).map .following
  | ("UnboundedFollowing", content) => if isUnit content then some .unboundedFollowing else none
  | _ => none

/-- A frame. -/
def frameOfJson? (node : Decoder Node) : Decoder (Frame Node) := fun json => do
  let [mode, start, stop, exclusion] ← json.slots? ["mode", "start", "end", "exclusion"] | none
  return ⟨← mode.required asTag, ← start.required (boundOfJson? node),
    ← stop.optionalOrCut (boundOfJson? node), ← exclusion.optionalOrCut asTag⟩

/-- A window of its own. -/
def windowOfJson? (node : Decoder Node) : Decoder Over := fun json => do
  let [name, partitionBy, orderBy, frame] ←
    json.slots? ["name", "partition_by", "order_by", "frame"] | none
  return .inline (← name.optionalOrCut asString) (← partitionBy.orDefault (asList node) [])
    (← orderBy.orDefault (asList (OrderItem.ofJson? node)) [])
    (← frame.optionalOrCut (frameOfJson? node))

/-- An `OVER` clause. -/
def Over.ofJson? (node : Decoder Node) : Decoder Over := fun json => do
  match ← json.asChoice with
  | ("Named", some content) => (asString content).map .named
  | ("Inline", some content) => windowOfJson? node content
  | _ => none

/-- A function call. -/
def Call.ofJson? (node : Decoder Node) : Decoder Call := fun json => do
  let [name, distinct, arguments, withinGroup, filter, window] ←
    json.slots? ["name", "distinct", "arguments", "within_group", "filter", "over"] | none
  return ⟨← name.required asString, ← distinct.orDefault asBoolean false,
    ← arguments.orDefault (asList node) [],
    ← withinGroup.optionalOrCut (asList (OrderItem.ofJson? node)),
    ← filter.optionalOrCut node, ← window.optionalOrCut (Over.ofJson? node)⟩

/-- The links of a path. Each link holds the next one; the number bounds how many there are. -/
def linksOfJson? (node : Decoder Node) : Nat → Decoder (List Link)
  | 0 => fun _ => none
  | bound + 1 => fun json => do
    let [segments, index, next] ← json.slots? ["segments", "index", "next"] | none
    let segments ← segments.required (asList asString)
    let index ← index.optionalOrCut node
    let next ← next.optionalOrCut (linksOfJson? node bound)
    return ⟨segments, index⟩ :: next.getD []

/-- A path. -/
def Path.ofJson? (node : Decoder Node) : Decoder Path := fun json => do
  let [qualifier, links] ← json.slots? ["qualified", "subpath"] | none
  let qualifier ← qualifier.optionalOrCut node
  let links ← links.optionalOrCut fun json => linksOfJson? node json.height json
  return ⟨qualifier, links.getD []⟩

/-- The names of the multiplicative operators. -/
def multiplicativeOps : List (String × BinaryOp) :=
  [("Multiply", .multiply), ("Divide", .divide), ("Modulo", .modulo)]

/-- The names of the additive operators. -/
def additiveOps : List (String × BinaryOp) :=
  [("Plus", .add), ("Minus", .subtract)]

/-- An alternative with content, by its name. -/
def Kind.ofContent? (node : Decoder Node) (tag : String) (json : Json) : Option Kind :=
  match tag with
  | "Grouped" => (node json).map (.unary .grouped)
  | "Concatenation" => (pairOfJson? node json).map fun (l, r) => .binary .concatenation l r
  | "Multiplicative" => arithmeticOfJson? node multiplicativeOps json
  | "Additive" => arithmeticOfJson? node additiveOps json
  | "UnaryMinus" => (node json).map (.unary .minus)
  | "UnaryPlus" => (node json).map (.unary .plus)
  | "SimpleCase" => do
    let [operand, branches, otherwise] ←
      json.slots? ["operand", "when_clauses", "otherwise"] | none
    return .simpleCase (← operand.required node)
      (← branches.required (asList (Branch.ofJson? node))) (← otherwise.optional node)
  | "GeneralCase" => do
    let [branches, otherwise] ← json.slots? ["when_clauses", "otherwise"] | none
    return .searchedCase (← branches.required (asList (Branch.ofJson? node)))
      (← otherwise.optional node)
  | "Boolean" => (asBoolean json).map fun value => .atom (.boolean value)
  | "StringLiteral" => (asString json).map fun raw => .atom (.string raw)
  | "Numeric" => do
    let [text, kind, negative] ← json.slots? ["text", "kind", "negative"] | none
    return .atom (.numeric (← text.required asString) (← kind.required asTag)
      (← negative.orDefault asBoolean false))
  | "TemporalLiteral" => do
    let [kind, body] ← json.slots? ["kind", "text"] | none
    return .atom (.temporal (← kind.required asTag) (← body.required asString))
  | "NamedParameter" => (asString json).map fun name => .atom (.namedParameter name)
  | "PositionalParameter" => (asString json).map fun name => .atom (.positionalParameter name)
  | "EntityType" => (node json).map .typeOf
  | "EntityTypeOrEnumLiteral" =>
    (asList asString json).map fun segments => .atom (.constant segments)
  | "Trim" => do
    let [side, character, operand] ← json.slots? ["trimspec", "character", "operand"] | none
    return .trim (← side.optional asTag) (← character.optional node) (← operand.required node)
  | "TemporalFunction" => (asString json).map fun name => .atom (.temporalFunction name)
  | "Count" => do
    let [distinct, argument, filter, window] ←
      json.slots? ["distinct", "argument", "filter", "over"] | none
    return .count (← distinct.orDefault asBoolean false) (← argument.optional node)
      (← filter.optionalOrCut node) (← window.optionalOrCut (Over.ofJson? node))
  | "FunctionInvocation" => (Call.ofJson? node json).map .call
  | "Path" => (Path.ofJson? node json).map (.path .plain)
  | "SimpleSubpath" => (asList asString json).map fun segments => .atom (.subpath segments)
  | "TreatPath" => do
    let [operand, entityName] ← json.slots? ["path", "entity_name"] | none
    let operand ← operand.required (Path.ofJson? node)
    return .path (.treat (← entityName.required asString)) operand
  | "ObjectSelect" => (asString json).map fun name => .atom (.object name)
  | "ValuePath" => (Path.ofJson? node json).map (.path .value)
  | "MapKeyPath" => (Path.ofJson? node json).map (.path .key)
  | "MapEntrySelect" => (Path.ofJson? node json).map (.path .entry)
  | "Constructor" => do
    let [className, arguments] ← json.slots? ["class_name", "arguments"] | none
    return .applied (.constructor (← className.required (asList asString)))
      (← arguments.required (asList node))
  | "MacroPath" => do
    let [name, arguments] ← json.slots? ["name", "arguments"] | none
    return .applied (.expansion (← name.required asString)) (← arguments.required (asList node))
  | "OuterPath" => (node json).map (.unary .outer)
  | "Identifier" => (asString json).map fun name => .atom (.identifier name)
  | "Or" => (pairOfJson? node json).map fun (l, r) => .connective .or l r
  | "And" => (pairOfJson? node json).map fun (l, r) => .connective .and l r
  | "Negated" => (node json).map .negation
  | "Exists" => (flaggedOfJson? node json).map fun (negated, e) => .unary (.existence negated) e
  | "IsNull" => (flaggedOfJson? node json).map fun (negated, e) => .unary (.isNull negated) e
  | "IsEmpty" => (flaggedOfJson? node json).map fun (negated, e) => .unary (.isEmpty negated) e
  | "MemberOf" => do
    let [negated, element, collection] ← json.slots? ["not", "element", "collection"] | none
    return .memberOf (← negated.orDefault asBoolean false) (← element.required node)
      (← collection.required (Path.ofJson? node))
  | "Between" => do
    let [negated, operand, low, high] ← json.slots? ["not", "operand", "low", "high"] | none
    return .between (← negated.orDefault asBoolean false) (← operand.required node)
      (← low.required node) (← high.required node)
  | "Like" => do
    let [negated, operand, pattern, escape] ←
      json.slots? ["not", "operand", "pattern", "escape"] | none
    return .like (← negated.orDefault asBoolean false) (← operand.required node)
      (← pattern.required node) (← escape.optionalOrCut node)
  | "In" => do
    let [negated, operand, items, parenthesized] ←
      json.slots? ["not", "operand", "items", "parenthesized"] | none
    return .inList (← negated.orDefault asBoolean false) (← operand.required node)
      (← items.required (asList node)) (← parenthesized.orDefault asBoolean false)
  | "Comparison" => do
    let [sign, left, right] ← json.slots? ["op", "left", "right"] | none
    return .binary (.comparison (← sign.required asTag)) (← left.required node)
      (← right.required node)
  | "QuantifiedComparison" => do
    let [sign, left, word, right] ← json.slots? ["op", "left", "quantifier", "right"] | none
    return .binary (.quantified (← sign.required asTag) (← word.optional asTag))
      (← left.required node) (← right.required node)
  | "Error" => (asString json).map fun text => .atom (.unmatched text)
  | _ => none

/-- An alternative. -/
def Kind.ofJson? (node : Decoder Node) : Decoder Kind := fun json => do
  match ← json.asChoice with
  | ("Null", content) => if isUnit content then some (.atom .null) else none
  | (tag, some content) => Kind.ofContent? node tag content
  | _ => none

/-- A node whose JSON value nests to a bounded height. -/
def Node.ofHeight? : Nat → Decoder Node
  | 0 => fun _ => none
  | height + 1 => fun json => do
    let [kind, span] ← json.slots? ["kind", "span"] | none
    return ⟨← kind.required (Kind.ofJson? (Node.ofHeight? height)),
      ← span.orDefault Span.ofJson? Span.empty⟩

/-- The node that a JSON value holds. -/
def Node.ofJson? : Decoder Node := fun json =>
  Node.ofHeight? json.height json

/-- The node that a JSON text holds. -/
def Node.ofText? (text : String) : Option Node :=
  (Json.readLimited? text).bind Node.ofJson?

end Syntax

end QueryExpr
