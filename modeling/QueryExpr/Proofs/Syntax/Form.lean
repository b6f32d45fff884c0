import QueryExpr.Proofs.Json.Form
import QueryExpr.Syntax.Encode

/-!
# JSON forms of parse trees

`Node.form` says which JSON values stand for a tree. Beside the one that is written, with all fields
in their order, these are the values in which fields stand in another order, fields that hold their
default are left out and members of unknown names stand in the objects of nodes, alternatives,
clauses, paths and spans. What is written is one of them, and can stand in a text.
-/

namespace QueryExpr

open Json

/-- The form of a span. -/
def Span.form (span : Span) : Form :=
  .record [.required "start" (.exactly (.natural span.start)),
    .required "end" (.exactly (.natural span.stop))]

/-- The span of a record, which is the empty one by default. -/
def Span.field (span : Span) : Field :=
  ⟨"span", span.form, span = Span.empty⟩

/-- What is written for a span is one of its forms. -/
lemma Span.specimen (span : Span) : span.form.Specimen span.toJson :=
  .record rfl (.cons ⟨.natural span.start⟩ (.cons ⟨.natural span.stop⟩ .nil))

namespace Syntax

/-- The form of an alternative without operands. Only the fields of literals leave a choice. -/
def Atom.form (leaf : Atom) : Form :=
  match leaf with
  | numeric text kind negative =>
    .tagged leaf.name (.record [.required "text" (.exactly (.string text)),
      .required "kind" (.exactly (ofTag kind)), .flag "negative" negative])
  | temporal kind body =>
    .tagged leaf.name (.record [.required "kind" (.exactly (ofTag kind)),
      .required "text" (.exactly (.string body))])
  | _ => .exactly leaf.toJson

/-- The form of the content of an alternative with one operand. -/
def UnaryOp.form (op : UnaryOp) (operand : Form) : Form :=
  match op with
  | grouped | plus | minus | outer => operand
  | existence flag | isNull flag | isEmpty flag =>
    .record [.flag "not" flag, .required "operand" operand]

/-- The form of the content of an alternative with two operands. -/
def BinaryOp.form (op : BinaryOp) (left right : Form) : Form :=
  match op with
  | concatenation => .record [.required "left" left, .required "right" right]
  | multiply => arithmetic "Multiply"
  | divide => arithmetic "Divide"
  | modulo => arithmetic "Modulo"
  | add => arithmetic "Plus"
  | subtract => arithmetic "Minus"
  | comparison sign =>
    .record [.required "op" (.exactly (ofTag sign)), .required "left" left,
      .required "right" right]
  | quantified sign word =>
    .record [.required "op" (.exactly (ofTag sign)), .required "left" left,
      .option "quantifier" (word.map fun word => .exactly (ofTag word)), .required "right" right]
where
  arithmetic (op : String) : Form :=
    .record [.required "left" left, .required "op" (.exactly (.string op)),
      .required "right" right]

mutual

/-- The form of a node. -/
def Node.form : Node → Form
  | ⟨kind, span⟩ => .record [.required "kind" kind.form, span.field]

/-- The form of an alternative, tagged with its name. -/
def Kind.form : Kind → Form
  | .atom leaf => leaf.form
  | .unary op operand => .tagged op.name (op.form operand.form)
  | .binary op left right => .tagged op.name (op.form left.form right.form)
  | .connective op left right =>
    .tagged (Tagged.tag op) (.record [.required "left" left.form, .required "right" right.form])
  | .negation operand => .tagged "Negated" operand.form
  | .typeOf operand => .tagged "EntityType" operand.form
  | .between negated operand low high =>
    .tagged "Between" (.record [.flag "not" negated, .required "operand" operand.form,
      .required "low" low.form, .required "high" high.form])
  | .like negated operand pattern escape =>
    .tagged "Like" (.record [.flag "not" negated, .required "operand" operand.form,
      .required "pattern" pattern.form, .option "escape" (optionForm escape)])
  | .inList negated operand items parenthesized =>
    .tagged "In" (.record [.flag "not" negated, .required "operand" operand.form,
      .required "items" (.items (nodeForms items)), .flag "parenthesized" parenthesized])
  | .simpleCase operand branches otherwise =>
    .tagged "SimpleCase" (.record [.required "operand" operand.form,
      .required "when_clauses" (.items (branchForms branches)),
      .option "otherwise" (optionForm otherwise)])
  | .searchedCase branches otherwise =>
    .tagged "GeneralCase" (.record [.required "when_clauses" (.items (branchForms branches)),
      .option "otherwise" (optionForm otherwise)])
  | .trim side character operand =>
    .tagged "Trim" (.record [.option "trimspec" (side.map fun side => .exactly (ofTag side)),
      .option "character" (optionForm character), .required "operand" operand.form])
  | .count distinct argument filter window =>
    .tagged "Count" (.record [.flag "distinct" distinct, .option "argument" (optionForm argument),
      .option "filter" (optionForm filter), .option "over" (overForm window)])
  | .call call => .tagged "FunctionInvocation" call.form
  | .path (.treat entityName) path =>
    .tagged "TreatPath" (.record [.required "path" path.form,
      .required "entity_name" (.exactly (.string entityName))])
  | .path role path => .tagged role.name path.form
  | .memberOf negated element collection =>
    .tagged "MemberOf" (.record [.flag "not" negated, .required "element" element.form,
      .required "collection" collection.form])
  | .applied (.constructor className) arguments =>
    .tagged "Constructor" (.record [.required "class_name" (.exactly (.strings className)),
      .required "arguments" (.items (nodeForms arguments))])
  | .applied (.expansion name) arguments =>
    .tagged "MacroPath" (.record [.required "name" (.exactly (.string name)),
      .required "arguments" (.items (nodeForms arguments))])

/-- The forms of several nodes, one for each. -/
def nodeForms : List Node → List Form
  | [] => []
  | node :: rest => node.form :: nodeForms rest

/-- The form of a node that may be missing. -/
def optionForm : Option Node → Option Form
  | none => none
  | some node => some node.form

/-- The forms of the branches of a case expression, each with its condition and its result. -/
def branchForms : List Branch → List Form
  | [] => []
  | ⟨condition, result⟩ :: rest =>
    .record [.required "condition" condition.form, .required "result" result.form] ::
      branchForms rest

/-- The form of a path, whose qualifier and links are null where it has none. -/
def Path.form : Path → Form
  | ⟨qualifier, links⟩ =>
    .record [.option "qualified" (optionForm qualifier), .option "subpath" (linksForm links)]

/-- The form of the links of a path, each holding the next one. -/
def linksForm : List Link → Option Form
  | [] => none
  | ⟨segments, index⟩ :: rest =>
    some (.record [.required "segments" (.exactly (.strings segments)),
      .option "index" (optionForm index), .option "next" (linksForm rest)])

/-- The form of a call, with its clauses null where it has none. -/
def Call.form : Call → Form
  | ⟨name, distinct, arguments, withinGroup, filter, window⟩ =>
    .record [.required "name" (.exactly (.string name)), .flag "distinct" distinct,
      .list "arguments" (nodeForms arguments), .option "within_group" (groupForm withinGroup),
      .option "filter" (optionForm filter), .option "over" (overForm window)]

/-- The form of a within group clause. One without items is an empty array, and not null. -/
def groupForm : Option (List OrderItem) → Option Form
  | none => none
  | some items => some (.items (itemForms items))

/-- The forms of the items of an ordering, each with the span that it has. -/
def itemForms : List OrderItem → List Form
  | [] => []
  | ⟨expression, descending, nulls, collation, span⟩ :: rest =>
    .record [.required "expression" expression.form, .flag "descending" descending,
      .option "nulls" (nulls.map fun nulls => .exactly (ofTag nulls)),
      .option "collation" (collation.map fun name => .exactly (.string name)), span.field] ::
      itemForms rest

/-- The form of a window, which is a name or a specification. -/
def overForm : Option Over → Option Form
  | none => none
  | some (.named name) => some (.tagged "Named" (.exactly (.string name)))
  | some (.inline name partitionBy orderBy frame) =>
    some (.tagged "Inline" (.record [
      .option "name" (name.map fun name => .exactly (.string name)),
      .list "partition_by" (nodeForms partitionBy), .list "order_by" (itemForms orderBy),
      .option "frame" (frameForm frame)]))

/-- The form of the frame of a window. -/
def frameForm : Option (Frame Node) → Option Form
  | none => none
  | some ⟨mode, start, stop, exclusion⟩ =>
    some (.record [.required "mode" (.exactly (ofTag mode)), .required "start" (boundForm start),
      .option "end" (stopForm stop),
      .option "exclusion" (exclusion.map fun exclusion => .exactly (ofTag exclusion))])

/-- The form of the end of a frame that has one. -/
def stopForm : Option (Bound Node) → Option Form
  | none => none
  | some bound => some (boundForm bound)

/-- The form of a bound, which is a tag alone unless the bound counts from something. -/
def boundForm : Bound Node → Form
  | .unboundedPreceding => .exactly (.string "UnboundedPreceding")
  | .preceding offset => .tagged "Preceding" offset.form
  | .currentRow => .exactly (.string "CurrentRow")
  | .following offset => .tagged "Following" offset.form
  | .unboundedFollowing => .exactly (.string "UnboundedFollowing")

end

/-! ## What is written -/

/-- What is written for an alternative without operands is one of its forms. -/
lemma Atom.specimen (leaf : Atom) : leaf.form.Specimen leaf.toJson := by
  cases leaf with
  | null => exact .string _
  | boolean value => exact .exactly ⟨trivial, trivial⟩
  | numeric text kind negative =>
    exact .tagged _ (.record rfl (.cons ⟨.string text⟩ (.cons ⟨.tag kind⟩
      (.cons ⟨.boolean negative⟩ .nil))))
  | temporal kind body =>
    exact .tagged _ (.record rfl (.cons ⟨.tag kind⟩ (.cons ⟨.string body⟩ .nil)))
  | constant segments | subpath segments =>
    exact .exactly ⟨(Form.Specimen.strings segments).proper, trivial⟩
  | string | namedParameter | positionalParameter | temporalFunction | object | identifier
  | unmatched => exact .exactly ⟨trivial, trivial⟩

/-- The content written with a specimen of the operand is a specimen. -/
lemma UnaryOp.specimen (op : UnaryOp) {operand : Form} {json : Json} (h : operand.Specimen json) :
    (op.form operand).Specimen (op.content json) := by
  cases op with
  | grouped | plus | minus | outer => exact h
  | existence flag | isNull flag | isEmpty flag =>
    exact .record rfl (.cons ⟨.boolean flag⟩ (.cons ⟨h⟩ .nil))

/-- The content written with specimens of both operands is a specimen. -/
lemma BinaryOp.specimen (op : BinaryOp) {left right : Form} {l r : Json} (hl : left.Specimen l)
    (hr : right.Specimen r) : (op.form left right).Specimen (op.content l r) := by
  cases op with
  | concatenation => exact .record rfl (.cons ⟨hl⟩ (.cons ⟨hr⟩ .nil))
  | multiply | divide | modulo | add | subtract =>
    exact .record rfl (.cons ⟨hl⟩ (.cons ⟨.string _⟩ (.cons ⟨hr⟩ .nil)))
  | comparison sign =>
    exact .record rfl (.cons ⟨.tag sign⟩ (.cons ⟨hl⟩ (.cons ⟨hr⟩ .nil)))
  | quantified sign word =>
    exact .record rfl (.cons ⟨.tag sign⟩ (.cons ⟨hl⟩
      (.cons ⟨.tagOption word⟩ (.cons ⟨hr⟩ .nil))))

mutual

/-- What is written for a tree is one of its forms. -/
theorem Node.specimen : (node : Node) → node.form.Specimen node.toJson
  | ⟨kind, span⟩ => .record rfl (.cons ⟨kind.specimen⟩ (.cons ⟨span.specimen⟩ .nil))

/-- What is written for an alternative is one of its forms. -/
theorem Kind.specimen : (kind : Kind) → kind.form.Specimen kind.toJson
  | .atom leaf => leaf.specimen
  | .unary op operand => .tagged _ (op.specimen operand.specimen)
  | .binary op left right => .tagged _ (op.specimen left.specimen right.specimen)
  | .connective _ left right =>
    .tagged _ (.record rfl (.cons ⟨left.specimen⟩ (.cons ⟨right.specimen⟩ .nil)))
  | .negation operand | .typeOf operand => .tagged _ operand.specimen
  | .between negated operand low high =>
    .tagged _ (.record rfl (.cons ⟨.boolean negated⟩ (.cons ⟨operand.specimen⟩
      (.cons ⟨low.specimen⟩ (.cons ⟨high.specimen⟩ .nil)))))
  | .like negated operand pattern escape =>
    .tagged _ (.record rfl (.cons ⟨.boolean negated⟩ (.cons ⟨operand.specimen⟩
      (.cons ⟨pattern.specimen⟩ (.cons ⟨option_specimen escape⟩ .nil)))))
  | .inList negated operand items parenthesized =>
    .tagged _ (.record rfl (.cons ⟨.boolean negated⟩ (.cons ⟨operand.specimen⟩
      (.cons ⟨.items (nodes_specimen items)⟩ (.cons ⟨.boolean parenthesized⟩ .nil)))))
  | .simpleCase operand branches otherwise =>
    .tagged _ (.record rfl (.cons ⟨operand.specimen⟩ (.cons ⟨.items (branches_specimen branches)⟩
      (.cons ⟨option_specimen otherwise⟩ .nil))))
  | .searchedCase branches otherwise =>
    .tagged _ (.record rfl (.cons ⟨.items (branches_specimen branches)⟩
      (.cons ⟨option_specimen otherwise⟩ .nil)))
  | .trim side character operand =>
    .tagged _ (.record rfl (.cons ⟨.tagOption side⟩ (.cons ⟨option_specimen character⟩
      (.cons ⟨operand.specimen⟩ .nil))))
  | .count distinct argument filter window =>
    .tagged _ (.record rfl (.cons ⟨.boolean distinct⟩ (.cons ⟨option_specimen argument⟩
      (.cons ⟨option_specimen filter⟩ (.cons ⟨over_specimen window⟩ .nil)))))
  | .call call => .tagged _ call.specimen
  | .path (.treat entityName) path =>
    .tagged _ (.record rfl (.cons ⟨path.specimen⟩ (.cons ⟨.string entityName⟩ .nil)))
  | .path .plain path | .path .value path | .path .key path | .path .entry path =>
    .tagged _ path.specimen
  | .memberOf negated element collection =>
    .tagged _ (.record rfl (.cons ⟨.boolean negated⟩ (.cons ⟨element.specimen⟩
      (.cons ⟨collection.specimen⟩ .nil))))
  | .applied (.constructor className) arguments =>
    .tagged _ (.record rfl (.cons ⟨.strings className⟩
      (.cons ⟨.items (nodes_specimen arguments)⟩ .nil)))
  | .applied (.expansion name) arguments =>
    .tagged _ (.record rfl (.cons ⟨.string name⟩ (.cons ⟨.items (nodes_specimen arguments)⟩ .nil)))

/-- What is written for several nodes has their forms one by one. -/
theorem nodes_specimen : (nodes : List Node) →
    List.Forall₂ Form.Specimen (nodeForms nodes) (nodesToJson nodes)
  | [] => .nil
  | node :: rest => .cons node.specimen (nodes_specimen rest)

/-- What is written for a node that may be missing is null without it. -/
theorem option_specimen : (node : Option Node) →
    (Form.option (optionForm node)).Specimen (optionToJson node)
  | none => .exactly trivial
  | some node => node.specimen

/-- What is written for the branches of a case expression has their forms one by one. -/
theorem branches_specimen : (branches : List Branch) →
    List.Forall₂ Form.Specimen (branchForms branches) (branchesToJson branches)
  | [] => .nil
  | ⟨condition, result⟩ :: rest =>
    .cons (.record rfl (.cons ⟨condition.specimen⟩ (.cons ⟨result.specimen⟩ .nil)))
      (branches_specimen rest)

/-- What is written for a path is one of its forms. -/
theorem Path.specimen : (path : Path) → path.form.Specimen path.toJson
  | ⟨qualifier, links⟩ =>
    .record rfl (.cons ⟨option_specimen qualifier⟩ (.cons ⟨links_specimen links⟩ .nil))

/-- What is written for the links of a path nests each link in the one before. -/
theorem links_specimen : (links : List Link) →
    (Form.option (linksForm links)).Specimen (linksToJson links)
  | [] => .exactly trivial
  | ⟨segments, index⟩ :: rest =>
    .record rfl (.cons ⟨.strings segments⟩ (.cons ⟨option_specimen index⟩
      (.cons ⟨links_specimen rest⟩ .nil)))

/-- What is written for a call is one of its forms. -/
theorem Call.specimen : (call : Call) → call.form.Specimen call.toJson
  | ⟨name, distinct, arguments, withinGroup, filter, window⟩ =>
    .record rfl (.cons ⟨.string name⟩ (.cons ⟨.boolean distinct⟩
      (.cons ⟨.items (nodes_specimen arguments)⟩ (.cons ⟨group_specimen withinGroup⟩
      (.cons ⟨option_specimen filter⟩ (.cons ⟨over_specimen window⟩ .nil))))))

/-- What is written for a within group clause is one of its forms. -/
theorem group_specimen : (group : Option (List OrderItem)) →
    (Form.option (groupForm group)).Specimen (groupToJson group)
  | none => .exactly trivial
  | some items => .items (items_specimen items)

/-- What is written for the items of an ordering has their forms one by one. -/
theorem items_specimen : (items : List OrderItem) →
    List.Forall₂ Form.Specimen (itemForms items) (itemsToJson items)
  | [] => .nil
  | ⟨expression, descending, nulls, collation, span⟩ :: rest =>
    .cons (.record rfl (.cons ⟨expression.specimen⟩ (.cons ⟨.boolean descending⟩
      (.cons ⟨.tagOption nulls⟩ (.cons ⟨.stringOption collation⟩
      (.cons ⟨span.specimen⟩ .nil)))))) (items_specimen rest)

/-- What is written for a window is one of its forms. -/
theorem over_specimen : (window : Option Over) →
    (Form.option (overForm window)).Specimen (overToJson window)
  | none => .exactly trivial
  | some (.named name) => .tagged _ (.string name)
  | some (.inline name partitionBy orderBy frame) =>
    .tagged _ (.record rfl (.cons ⟨.stringOption name⟩ (.cons ⟨.items (nodes_specimen partitionBy)⟩
      (.cons ⟨.items (items_specimen orderBy)⟩ (.cons ⟨frame_specimen frame⟩ .nil)))))

/-- What is written for a frame is one of its forms. -/
theorem frame_specimen : (frame : Option (Frame Node)) →
    (Form.option (frameForm frame)).Specimen (frameToJson frame)
  | none => .exactly trivial
  | some ⟨mode, start, stop, exclusion⟩ =>
    .record rfl (.cons ⟨.tag mode⟩ (.cons ⟨bound_specimen start⟩ (.cons ⟨stop_specimen stop⟩
      (.cons ⟨.tagOption exclusion⟩ .nil))))

/-- What is written for the end of a frame is null where the frame has none. -/
theorem stop_specimen : (stop : Option (Bound Node)) →
    (Form.option (stopForm stop)).Specimen (stopToJson stop)
  | none => .exactly trivial
  | some bound => bound_specimen bound

/-- What is written for a bound is one of its forms. -/
theorem bound_specimen : (bound : Bound Node) → (boundForm bound).Specimen (boundToJson bound)
  | .unboundedPreceding | .currentRow | .unboundedFollowing => .string _
  | .preceding offset | .following offset => .tagged _ offset.specimen

end

end Syntax

end QueryExpr
