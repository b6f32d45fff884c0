import QueryExpr.Expression.Basic
import QueryExpr.Outline.Basic

/-!
# Outlines of expressions

The written shape of literals, expressions and predicates, with every field in its place. Flags that
are the same for every expression, such as the case sensitivity of a match, are written as well.
-/

namespace QueryExpr

/-- The outline of a value of an enumeration. -/
def Tagged.outline {α : Type} [Tagged α] (value : α) : Outline :=
  .word (Tagged.tag value)

/-- The outline of some texts. -/
def Outline.texts (values : List String) : Outline :=
  .list (values.map .text)

/-- The outline of a numeric literal. -/
def NumericLiteral.outline (number : NumericLiteral) : Outline :=
  .record "NumericLiteral" [("text", .text number.text), ("kind", Tagged.outline number.kind)]

/-- The outline of an enum constant. -/
def EnumValue.outline (value : EnumValue) : Outline :=
  .record "EnumValue" [("type_name", .text value.typeName), ("constant", .text value.constant),
    ("ordinal", .natural value.ordinal)]

/-- The outline of an entity. -/
def EntityLiteral.outline (entity : EntityLiteral) : Outline :=
  .record "EntityLiteral" [("entity_name", .text entity.entityName),
    ("type_name", .text entity.typeName), ("original_text", .text entity.writtenText)]

/-- The outline of a literal. -/
def Literal.outline : Literal → Outline
  | null => .word "Null"
  | boolean value => .choice "Boolean" (.flag value)
  | string text => .choice "String" (.text text)
  | numeric number => .choice "Numeric" number.outline
  | timestamp value => .choice "Timestamp" (.written value.text)
  | date value => .choice "Date" (.written value.text)
  | time value => .choice "Time" (.written value.text)
  | enum value writtenText =>
    .choice "Enum" (.record "EnumLiteral" [("value", value.outline),
      ("original_text", .text writtenText)])
  | entityType entity => .choice "EntityType" entity.outline

/-- The outline of a parameter. -/
def Parameter.outline (parameter : Parameter) : Outline :=
  .record "ParameterExpression" [("name", .text parameter.name),
    ("value", .ofOption EnumValue.outline parameter.value),
    ("collection_valued", .flag parameter.collectionValued)]

/-- The outline of what an index is applied to. -/
def IndexBase.outline : IndexBase → Outline
  | property name => .choice "Property" (.text name)
  | entity resolved => .choice "Entity" resolved.outline

/-- The record of a collection access that holds the path. -/
def CollectionAccess.record (access : CollectionAccess) (path : Outline) : Outline :=
  .record (Tagged.tag access ++ "Expression") [("path", path)]

/-- The record of a downcast. -/
def Outline.treat (operand : Outline) (entityName : String) : Outline :=
  .record "TreatExpression" [("expression", operand), ("type_name", .text entityName)]

mutual

/-- The outline of an expression. -/
def Expression.outline : Expression → Outline
  | .path path => .choice "Path" path.outline
  | .parameter parameter => .choice "Parameter" parameter.outline
  | .literal literal => .choice "Literal" literal.outline
  | .function name arguments orderBy window =>
    .choice "Function" (.record "FunctionExpression" [("name", .text name),
      ("arguments", .list (outlines arguments)), ("order_by", .list (orderOutlines orderBy)),
      ("window", windowOutline window)])
  | .aggregate distinct name arguments orderBy filter =>
    .choice "Aggregate" (.record "AggregateExpression" [("distinct", .flag distinct),
      ("name", .text name), ("arguments", .list (outlines arguments)),
      ("order_by", .list (orderOutlines orderBy)), ("filter", filterOutline filter)])
  | .arithmetic left op right =>
    .choice "Arithmetic" (.record "ArithmeticExpression" [("left", left.outline),
      ("op", Tagged.outline op), ("right", right.outline)])
  | .minus operand =>
    .choice "ArithmeticFactor" (.record "ArithmeticFactor" [("expression", operand.outline),
      ("negated", .flag true)])
  | .treat operand entityName => .choice "Treat" (.treat operand.outline entityName)
  | .typeOf operand =>
    .choice "TypeFunction" (.record "TypeFunctionExpression" [("expression", operand.outline)])
  | .collection access path => .choice (Tagged.tag access) (access.record path.outline)
  | .trim side character operand =>
    .choice "Trim" (.record "TrimExpression" [("trimspec", Tagged.outline side),
      ("character", optionOutline character), ("operand", operand.outline)])
  | .simpleCase operand branches otherwise =>
    .choice "SimpleCase" (.record "SimpleCaseExpression" [("operand", operand.outline),
      ("when_clauses", .list (branchOutlines branches)), ("default", optionOutline otherwise)])
  | .searchedCase branches otherwise =>
    .choice "GeneralCase" (.record "GeneralCaseExpression"
      [("when_clauses", .list (branchOutlines branches)), ("default", optionOutline otherwise)])
  | .predicate predicate => .choice "Predicate" predicate.outline

/-- The outlines of some expressions. -/
def outlines : List Expression → List Outline
  | [] => []
  | expression :: rest => expression.outline :: outlines rest

/-- The outline of an optional expression. -/
def optionOutline : Option Expression → Outline
  | none => .absent
  | some expression => .present expression.outline

/-- The outline of a path. -/
def Path.outline : Path → Outline
  | ⟨first, rest, collectionQualified, usedInCollectionFunction⟩ =>
    .record "PathExpression" [("elements", .list (first.outline :: elementOutlines rest)),
      ("collection_qualified", .flag collectionQualified),
      ("used_in_collection_function", .flag usedInCollectionFunction)]

/-- The outline of a path element. -/
def PathElement.outline : PathElement → Outline
  | .property name => .choice "Property" (.text name)
  | .indexed base index =>
    .choice "ArrayAccess" (.record "ArrayAccess" [("base", base.outline), ("index", index.outline)])
  | .treat operand entityName => .choice "Treat" (.treat operand.outline entityName)
  | .collection access path => .choice (Tagged.tag access) (access.record path.outline)

/-- The outlines of some path elements. -/
def elementOutlines : List PathElement → List Outline
  | [] => []
  | element :: rest => element.outline :: elementOutlines rest

/-- The outlines of the branches of a case expression. -/
def branchOutlines : List Branch → List Outline
  | [] => []
  | ⟨condition, result⟩ :: rest =>
    .record "WhenClause" [("condition", condition.outline), ("result", result.outline)]
      :: branchOutlines rest

/-- The outlines of the items of an ordering. -/
def orderOutlines : List OrderItem → List Outline
  | [] => []
  | ⟨expression, ascending, nullsFirst⟩ :: rest =>
    .record "OrderByItem" [("expression", expression.outline), ("ascending", .flag ascending),
      ("nulls_first", .flag nullsFirst)] :: orderOutlines rest

/-- The outline of an optional window. -/
def windowOutline : Option Window → Outline
  | none => .absent
  | some ⟨name, partitionBy, orderBy, filter, frame⟩ =>
    .present (.record "WindowDefinition" [("name", .ofOption .text name),
      ("partition_by", .list (outlines partitionBy)), ("order_by", .list (orderOutlines orderBy)),
      ("filter", filterOutline filter), ("frame", frameOutline frame)])

/-- The outline of an optional frame. -/
def frameOutline : Option (Frame Expression) → Outline
  | none => .absent
  | some ⟨mode, start, stop, exclusion⟩ =>
    .present (.record "WindowFrame" [("mode", Tagged.outline mode), ("start", boundOutline start),
      ("end", stopOutline stop), ("exclusion", .ofOption Tagged.outline exclusion)])

/-- The outline of a frame's end. -/
def stopOutline : Option (Bound Expression) → Outline
  | none => .absent
  | some bound => .present (boundOutline bound)

/-- The outline of a frame's bound. -/
def boundOutline : Bound Expression → Outline
  | .unboundedPreceding => .word "UnboundedPreceding"
  | .preceding offset => .choice "Preceding" offset.outline
  | .currentRow => .word "CurrentRow"
  | .following offset => .choice "Following" offset.outline
  | .unboundedFollowing => .word "UnboundedFollowing"

/-- The outline of an optional filter. -/
def filterOutline : Option Predicate → Outline
  | none => .absent
  | some predicate => .present predicate.outline

/-- The outline of a predicate. -/
def Predicate.outline : Predicate → Outline
  | ⟨kind, negated⟩ =>
    .record "Predicate" [("kind", kind.outline),
      ("polarity", .word (if negated then "Negated" else "Positive"))]

/-- The outline of what a predicate says. -/
def PredicateKind.outline : PredicateKind → Outline
  | .comparison op left right quantifier =>
    .variant "Comparison" [("op", Tagged.outline op), ("left", left.outline),
      ("right", right.outline), ("quantifier", Tagged.outline quantifier)]
  | .between operand low high =>
    .variant "Between" [("operand", operand.outline), ("low", low.outline), ("high", high.outline)]
  | .like operand pattern escape =>
    .variant "Like" [("left", operand.outline), ("pattern", pattern.outline),
      ("case_sensitive", .flag true), ("escape", optionOutline escape)]
  | .inList operand items =>
    .variant "In" [("left", operand.outline), ("right", .list (outlines items))]
  | .isNull operand => .choice "IsNull" operand.outline
  | .isEmpty collection => .choice "IsEmpty" collection.outline
  | .memberOf element collection =>
    .variant "MemberOf" [("element", element.outline), ("collection", collection.outline)]
  | .existence operand => .choice "Exists" operand.outline
  | .compound op children =>
    .variant "Compound"
      [("operator", Tagged.outline op), ("children", .list (childOutlines children))]
  | .boolean value => .choice "Boolean" (.flag value)

/-- The outlines of the children of a compound predicate. -/
def childOutlines : List Predicate → List Outline
  | [] => []
  | predicate :: rest => predicate.outline :: childOutlines rest

end

end QueryExpr
