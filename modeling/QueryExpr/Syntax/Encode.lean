import QueryExpr.Json.Record
import QueryExpr.Syntax.Basic

/-!
# Writing parse trees as JSON

Every field of a node is written, those that hold their default as well.
-/

namespace QueryExpr

open Json

/-- The JSON form of a span. -/
def Span.toJson (span : Span) : Json :=
  .object [("start", .natural span.start), ("end", .natural span.stop)]

namespace Syntax

/-- The JSON form of an alternative without operands. -/
def Atom.toJson (leaf : Atom) : Json :=
  match leaf with
  | null => .string leaf.name
  | boolean value => .tagged leaf.name (.boolean value)
  | string text | namedParameter text | positionalParameter text | temporalFunction text
  | object text | identifier text | unmatched text => .tagged leaf.name (.string text)
  | constant segments | subpath segments => .tagged leaf.name (.strings segments)
  | numeric text kind negative =>
    .tagged leaf.name (.object [("text", .string text), ("kind", ofTag kind),
      ("negative", .boolean negative)])
  | temporal kind body =>
    .tagged leaf.name (.object [("kind", ofTag kind), ("text", .string body)])

/-- The content of an alternative with one operand. -/
def UnaryOp.content (op : UnaryOp) (operand : Json) : Json :=
  match op with
  | grouped | plus | minus | outer => operand
  | existence flag | isNull flag | isEmpty flag =>
    .object [("not", .boolean flag), ("operand", operand)]

/-- The content of an alternative with two operands. -/
def BinaryOp.content (op : BinaryOp) (left right : Json) : Json :=
  match op with
  | concatenation => .object [("left", left), ("right", right)]
  | multiply => arithmetic "Multiply"
  | divide => arithmetic "Divide"
  | modulo => arithmetic "Modulo"
  | add => arithmetic "Plus"
  | subtract => arithmetic "Minus"
  | comparison sign => .object [("op", ofTag sign), ("left", left), ("right", right)]
  | quantified sign word =>
    .object [("op", ofTag sign), ("left", left), ("quantifier", ofOption ofTag word),
      ("right", right)]
where
  /-- An arithmetic operator between the operands. -/
  arithmetic (op : String) : Json :=
    .object [("left", left), ("op", .string op), ("right", right)]

mutual

/-- The JSON form of a node. -/
def Node.toJson : Node → Json
  | ⟨kind, span⟩ => .object [("kind", kind.toJson), ("span", span.toJson)]

/-- The JSON form of an alternative. -/
def Kind.toJson : Kind → Json
  | .atom leaf => leaf.toJson
  | .unary op operand => .tagged op.name (op.content operand.toJson)
  | .binary op left right => .tagged op.name (op.content left.toJson right.toJson)
  | .connective op left right =>
    .tagged (Tagged.tag op) (.object [("left", left.toJson), ("right", right.toJson)])
  | .negation operand => .tagged "Negated" operand.toJson
  | .typeOf operand => .tagged "EntityType" operand.toJson
  | .between negated operand low high =>
    .tagged "Between" (.object [("not", .boolean negated), ("operand", operand.toJson),
      ("low", low.toJson), ("high", high.toJson)])
  | .like negated operand pattern escape =>
    .tagged "Like" (.object [("not", .boolean negated), ("operand", operand.toJson),
      ("pattern", pattern.toJson), ("escape", optionToJson escape)])
  | .inList negated operand items parenthesized =>
    .tagged "In" (.object [("not", .boolean negated), ("operand", operand.toJson),
      ("items", .array (nodesToJson items)), ("parenthesized", .boolean parenthesized)])
  | .simpleCase operand branches otherwise =>
    .tagged "SimpleCase" (.object [("operand", operand.toJson),
      ("when_clauses", .array (branchesToJson branches)), ("otherwise", optionToJson otherwise)])
  | .searchedCase branches otherwise =>
    .tagged "GeneralCase" (.object [("when_clauses", .array (branchesToJson branches)),
      ("otherwise", optionToJson otherwise)])
  | .trim side character operand =>
    .tagged "Trim" (.object [("trimspec", ofOption ofTag side),
      ("character", optionToJson character), ("operand", operand.toJson)])
  | .count distinct argument filter window =>
    .tagged "Count" (.object [("distinct", .boolean distinct), ("argument", optionToJson argument),
      ("filter", optionToJson filter), ("over", overToJson window)])
  | .call call => .tagged "FunctionInvocation" call.toJson
  | .path (.treat entityName) path =>
    .tagged "TreatPath" (.object [("path", path.toJson), ("entity_name", .string entityName)])
  | .path role path => .tagged role.name path.toJson
  | .memberOf negated element collection =>
    .tagged "MemberOf" (.object [("not", .boolean negated), ("element", element.toJson),
      ("collection", collection.toJson)])
  | .applied (.constructor className) arguments =>
    .tagged "Constructor" (.object [("class_name", .strings className),
      ("arguments", .array (nodesToJson arguments))])
  | .applied (.expansion name) arguments =>
    .tagged "MacroPath" (.object [("name", .string name),
      ("arguments", .array (nodesToJson arguments))])

/-- The JSON forms of some nodes. -/
def nodesToJson : List Node → List Json
  | [] => []
  | node :: rest => node.toJson :: nodesToJson rest

/-- The JSON form of an optional node. -/
def optionToJson : Option Node → Json
  | none => .null
  | some node => node.toJson

/-- The JSON forms of the branches of a case alternative. -/
def branchesToJson : List Branch → List Json
  | [] => []
  | ⟨condition, result⟩ :: rest =>
    .object [("condition", condition.toJson), ("result", result.toJson)] :: branchesToJson rest

/-- The JSON form of a path. -/
def Path.toJson : Path → Json
  | ⟨qualifier, links⟩ =>
    .object [("qualified", optionToJson qualifier), ("subpath", linksToJson links)]

/-- The JSON form of the links of a path, each holding the next one. -/
def linksToJson : List Link → Json
  | [] => .null
  | ⟨segments, index⟩ :: rest =>
    .object [("segments", .strings segments), ("index", optionToJson index),
      ("next", linksToJson rest)]

/-- The JSON form of a call. -/
def Call.toJson : Call → Json
  | ⟨name, distinct, arguments, withinGroup, filter, window⟩ =>
    .object [("name", .string name), ("distinct", .boolean distinct),
      ("arguments", .array (nodesToJson arguments)), ("within_group", groupToJson withinGroup),
      ("filter", optionToJson filter), ("over", overToJson window)]

/-- The JSON form of an optional ordering. -/
def groupToJson : Option (List OrderItem) → Json
  | none => .null
  | some items => .array (itemsToJson items)

/-- The JSON forms of the items of an ordering. -/
def itemsToJson : List OrderItem → List Json
  | [] => []
  | ⟨expression, descending, nulls, collation, span⟩ :: rest =>
    .object [("expression", expression.toJson), ("descending", .boolean descending),
      ("nulls", ofOption ofTag nulls), ("collation", .stringOrNull collation),
      ("span", span.toJson)] :: itemsToJson rest

/-- The JSON form of an optional `OVER` clause. -/
def overToJson : Option Over → Json
  | none => .null
  | some (.named name) => .tagged "Named" (.string name)
  | some (.inline name partitionBy orderBy frame) =>
    .tagged "Inline" (.object [("name", .stringOrNull name),
      ("partition_by", .array (nodesToJson partitionBy)),
      ("order_by", .array (itemsToJson orderBy)), ("frame", frameToJson frame)])

/-- The JSON form of an optional frame. -/
def frameToJson : Option (Frame Node) → Json
  | none => .null
  | some ⟨mode, start, stop, exclusion⟩ =>
    .object [("mode", ofTag mode), ("start", boundToJson start), ("end", stopToJson stop),
      ("exclusion", ofOption ofTag exclusion)]

/-- The JSON form of a frame's end. -/
def stopToJson : Option (Bound Node) → Json
  | none => .null
  | some bound => boundToJson bound

/-- The JSON form of a frame's bound. -/
def boundToJson : Bound Node → Json
  | .unboundedPreceding => .string "UnboundedPreceding"
  | .preceding offset => .tagged "Preceding" offset.toJson
  | .currentRow => .string "CurrentRow"
  | .following offset => .tagged "Following" offset.toJson
  | .unboundedFollowing => .string "UnboundedFollowing"

end

end Syntax

end QueryExpr
