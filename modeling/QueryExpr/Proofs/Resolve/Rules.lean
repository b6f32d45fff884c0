import QueryExpr.Proofs.Expression.Parts
import QueryExpr.Proofs.Predicate.Join
import QueryExpr.Proofs.Text.Case
import QueryExpr.Proofs.Traced
import QueryExpr.Resolve.Call
import QueryExpr.Resolve.Name

/-!
# What resolution is made of

Which properties of parts the steps of a build pass on from the operands to what they make.
`Part.Composes` has the steps that only put parts together, `Context.Forms` adds those that depend
on the context: names that are looked up, clauses that are checked, and predicates that are joined
or negated. Of the macros only those that are expanded are asked to preserve the property. Here this
is lifted to names and calls.

A rule for single parts is passed on if the few parts that are looked up, checked or rearranged
satisfy it: `Context.Keeps` lists them, and by `Context.Keeps.forms` every part at any depth then
does.
-/

namespace QueryExpr

open Traced (Gives)

/-- Macros that keep a rule make something that obeys it of arguments that do. -/
def Expansion.Keeps (expansion : Expansion) (rule : Part → Prop) : Prop :=
  ∀ arguments e, Obeys rule arguments → expansion arguments = .ok e → Obeys rule e

/-- The macro with a name keeps a rule, if there is one. -/
def Context.Trusts (context : Context) (rule : Part → Prop) (name : String) : Prop :=
  ∀ expansion, context.registries.macros.get? name = some expansion → expansion.Keeps rule

/-- Macros that preserve a property make a part with it of parts with it. -/
def Expansion.Preserves (expansion : Expansion) (good : Part → Prop) : Prop :=
  ∀ arguments e, MadeOf good arguments → expansion arguments = .ok e → MadeOf good e

/-- The macro with a name preserves a property, if there is one. -/
def Context.Preserves (context : Context) (good : Part → Prop) (name : String) : Prop :=
  ∀ expansion, context.registries.macros.get? name = some expansion → expansion.Preserves good

/-- Parts for which nothing is looked up, checked or rearranged. -/
def Part.isPlain : Part → Bool
  | expression (.literal (.enum _ _)) | expression (.literal (.entityType _)) => false
  | expression (.parameter p) => p.value.isNone && !p.collectionValued
  | expression (.searchedCase _ _) => false
  | predicate ⟨.comparison _ _ _ _, _⟩ | predicate ⟨.like _ _ _, _⟩ => false
  | predicate ⟨.compound _ _, _⟩ => false
  | element (.indexed (.entity _) _) => false
  | frame _ => false
  | _ => true

/-- Parts that set a flag of a path that stands in them, and paths with a flag. -/
def Part.setsFlag : Part → Bool
  | expression (.function name _ _ _) => Case.lower name == "size"
  | expression (.collection _ _) | element (.collection _ _) => true
  | predicate ⟨.isEmpty _, _⟩ | predicate ⟨.memberOf _ _, _⟩ => true
  | path steps => steps.collectionQualified || steps.usedInCollectionFunction
  | _ => false

/-- Membership tests, which can mark a parameter that stands in them. -/
def Part.isMembership : Part → Bool
  | predicate ⟨.inList _ _, _⟩ => true
  | _ => false

/-- A parameter that does not stand for a collection, or anything else. -/
def Part.IsUnmarked : Part → Prop
  | expression (.parameter parameter) => parameter.collectionValued = false
  | _ => True

/-- A property of parts that is passed on when parts are put together and taken apart. -/
structure Part.Composes (good : Part → Prop) : Prop where
  plain : ∀ part : Part, part.isPlain → part.setsFlag = false → MadeOf good part.inner → good part
  inner : ∀ part : Part, part.setsFlag = false → part.isMembership = false → good part →
    MadeOf good part.inner
  append : ∀ path elements, good (.path path) → MadeOf good elements →
    good (.path (path.append elements))
  element : ∀ e element, PathElement.ofExpression? e = some element → good (.expression e) →
    good (.element element)
  isEmpty : ∀ path negated, good (.path path) →
    good (.predicate ⟨.isEmpty { path with usedInCollectionFunction := true }, negated⟩)
  memberOf : ∀ e path negated, good (.expression e) → good (.path path) →
    good (.predicate ⟨.memberOf e { path with usedInCollectionFunction := true }, negated⟩)
  size : ∀ name path rest, Case.lower name = "size" → good (.path path) → MadeOf good rest →
    good (.expression (.call name (.path { path with usedInCollectionFunction := true } :: rest)))
  nullary : ∀ name, good (.expression (.call name []))
  access : ∀ access path, good (.path path) →
    good (.expression (.collection access { path with collectionQualified := true }))
  content : ∀ access path, access = .mapValue ∨ access = .mapEntry → good (.path path) →
    good (.expression (.collection access path))

/-- A property of parts that is passed on by all steps of a build in a context. The names of enum
constants are those that the tree is written with, and a parameter stands for a collection beside
the operands for which the tree asks that. -/
structure Context.Forms (context : Context) (written : List String → Prop)
    (asked : Expression → Parameter → Prop) (good : Part → Prop) : Prop
    extends Part.Composes good where
  temporal : ∀ kind body literal, context.temporal kind body = .ok literal →
    good (.expression (.literal literal))
  constant : ∀ segments e, written segments →
    context.enumConstant? (Dotted.join segments) = .ok (some e) → good (.expression e)
  entity : ∀ text entity, context.entity? text = some entity →
    good (.expression (.literal (.entityType entity)))
  indexed : ∀ text entity index, context.entity? text = some entity → good (.expression index) →
    good (.element (.indexed (.entity entity) index))
  marked : ∀ operand parameter negated, asked operand parameter → good (.expression operand) →
    good (.expression (.parameter parameter)) →
    good (.predicate
      ⟨.inList operand [.parameter { parameter with collectionValued := true }], negated⟩)
  comparison : ∀ sign left right quantifier,
    (quantifier = .one ∨ context.options.allowQuantifiers) → good (.expression left) →
    good (.expression right) → good (.predicate (.ofSign sign left right quantifier))
  like : ∀ operand pattern escape negated,
    (∀ e : Expression, escape = some e → e.isLiteralOrParameter) → good (.expression operand) →
    good (.expression pattern) → MadeOf good escape →
    good (.predicate ⟨.like operand pattern escape, negated⟩)
  join : ∀ op left right, good (.predicate left) → good (.predicate right) →
    good (.predicate (.join op left right))
  negate : ∀ p : Predicate, good (.predicate p) → good (.predicate p.negate)
  searched : ∀ branches otherwise,
    (∀ branch ∈ branches, ∃ p, Branch.condition branch = .predicate p) → MadeOf good branches →
    MadeOf good otherwise → good (.expression (.searchedCase branches otherwise))
  frame : ∀ frame : Frame Expression, frame.check = .ok frame → MadeOf good frame.start →
    MadeOf good frame.stop → good (.frame frame)

/-- Less is asked of a property where fewer names are written and fewer parameters are marked. -/
lemma Context.Forms.mono {context : Context} {written tried : List String → Prop}
    {asked marks : Expression → Parameter → Prop} {good : Part → Prop}
    (forms : context.Forms written asked good)
    (names : ∀ segments, tried segments → written segments)
    (parameters : ∀ operand parameter, marks operand parameter → asked operand parameter) :
    context.Forms tried marks good :=
  { forms with
    constant := fun segments e named => forms.constant segments e (names segments named)
    marked := fun operand parameter negated asks =>
      forms.marked operand parameter negated (parameters operand parameter asks) }

/-- The parts of a window are those of its partition, of its ordering and of its frame. -/
instance : HasParts WindowClause where
  parts
    | .named _ => []
    | .inline _ partitionBy orderBy frame =>
      HasParts.parts partitionBy ++ HasParts.parts orderBy ++ HasParts.parts frame

variable {context : Context} {written : List String → Prop} {asked : Expression → Parameter → Prop}
  {good : Part → Prop}

namespace Expression

/-- Concatenation is never a call that sets a flag. -/
lemma lower_ne_size_of_concat {name : String} (h : isConcatName name) :
    Case.lower name ≠ "size" := by
  have same := beq_iff_eq.1 h
  cases chars : name.toList with
  | nil =>
    rw [chars] at same
    cases same
  | cons c rest =>
    rw [chars] at same
    have first := congrArg List.head? chars
    obtain rfl | rfl := Case.eq_of_toUpper (List.cons.inj same).1
    · exact Case.lower_ne_of_first first (by decide) (by decide)
    · exact Case.lower_ne_of_first first (by decide) (by decide)

end Expression

/-- The function that sets a flag goes by one name. -/
lemma Builtin.ofName?_eq_size {name : String} : ofName? name = some .size ↔ name = "size" := by
  constructor
  · intro h
    unfold ofName? at h
    split at h <;> simp_all
  · rintro rfl
    rfl

/-- Only one function of the language has the name that sets a flag. -/
lemma Builtin.ne_size {name : String} (h : ofName? name ≠ some .size) : name ≠ "size" :=
  fun same => h (ofName?_eq_size.2 same)

namespace Part.Composes

/-- A plain expression that sets no flag has a property that what is in it has. -/
lemma expression (composes : Part.Composes good) {e : Expression}
    (plain : (Part.expression e).isPlain) (flag : (Part.expression e).setsFlag = false)
    (h : MadeOf good e.inner) : MadeOf good e :=
  madeOf_expression.2 (composes.plain _ plain flag h)

/-- A predicate as an expression has a property that the predicate has. -/
lemma wrap (composes : Part.Composes good) {p : Predicate} (h : MadeOf good p) :
    MadeOf good (Expression.predicate p) :=
  composes.expression rfl rfl (madeOf_parts.2 h)

/-- A plain predicate that sets no flag has a property that what is in it has. -/
lemma predicate (composes : Part.Composes good) {p : Predicate} (plain : (Part.predicate p).isPlain)
    (flag : (Part.predicate p).setsFlag = false) (h : MadeOf good p.kind.inner) :
    MadeOf good (Expression.predicate p) :=
  composes.wrap (madeOf_predicate.2 (composes.plain _ plain flag h))

/-- A predicate has a property that it has as an expression. -/
lemma ofPredicate (composes : Part.Composes good) {p : Predicate}
    (h : MadeOf good (Expression.predicate p)) : MadeOf good p :=
  madeOf_parts.1 (composes.inner (.expression (.predicate p)) rfl rfl (madeOf_expression.1 h))

/-- A path as an expression has a property that the path has. -/
lemma steps (composes : Part.Composes good) {path : Path} (h : MadeOf good path) :
    MadeOf good (Expression.path path) :=
  composes.expression rfl rfl (madeOf_parts.2 h)

/-- A path has a property that it has as an expression. -/
lemma ofSteps (composes : Part.Composes good) {path : Path}
    (h : MadeOf good (Expression.path path)) : MadeOf good path :=
  madeOf_parts.1 (composes.inner (.expression (.path path)) rfl rfl (madeOf_expression.1 h))

/-- A path that is made of elements has no flag. -/
lemma path (composes : Part.Composes good) {first : PathElement} {rest : List PathElement}
    (h : MadeOf good (first :: rest)) : MadeOf good (Path.mk first rest false false) :=
  madeOf_path.2 (composes.plain _ rfl rfl (madeOf_parts.2 h))

/-- A path has a property that its elements have. -/
lemma ofElements (composes : Part.Composes good) {elements : List PathElement} {path}
    (same : Path.ofElements? elements = some path) (h : MadeOf good elements) :
    MadeOf good path := by
  cases elements with
  | nil => cases same
  | cons first rest =>
    cases same
    exact composes.path h

/-- A function call that sets no flag has a property that its arguments and clauses have. -/
lemma function (composes : Part.Composes good) {name arguments orderBy window}
    (other : Case.lower name ≠ "size") (ha : MadeOf good arguments) (ho : MadeOf good orderBy)
    (hw : MadeOf good window) : MadeOf good (Expression.function name arguments orderBy window) :=
  composes.expression rfl (beq_false_of_ne other) ((madeOf_function_inner name).2 ⟨ha, ho, hw⟩)

/-- The arguments and clauses of a function call that sets no flag have its property. -/
lemma ofFunction (composes : Part.Composes good) {name arguments orderBy window}
    (other : Case.lower name ≠ "size")
    (h : MadeOf good (Expression.function name arguments orderBy window)) :
    MadeOf good arguments ∧ MadeOf good orderBy ∧ MadeOf good window := by
  have flag : (Part.expression (.function name arguments orderBy window)).setsFlag = false :=
    beq_false_of_ne other
  have inside := composes.inner _ flag rfl (madeOf_expression.1 h)
  exact (madeOf_function_inner name).1 inside

/-- A plain call that sets no flag has a property that its arguments have. -/
lemma call (composes : Part.Composes good) {name arguments} (other : Case.lower name ≠ "size")
    (h : MadeOf good arguments) : MadeOf good (Expression.call name arguments) :=
  composes.function other h madeOf_nil madeOf_none

/-- Properties are no parts that a property depends on. -/
lemma properties (composes : Part.Composes good) (segments : List String) :
    MadeOf good (segments.map PathElement.property) := by
  induction segments with
  | nil => exact madeOf_nil
  | cons segment rest ih =>
    exact madeOf_cons.2 ⟨madeOf_element.2 (composes.plain _ rfl rfl madeOf_nil), ih⟩

/-- A property as a path of its own has every property that parts compose to. -/
lemma property (composes : Part.Composes good) (name : String) :
    MadeOf good (Expression.property name) :=
  composes.steps (composes.path (composes.properties [name]))

/-- A predicate is joined of the parts of both sides. -/
lemma join_inner (composes : Part.Composes good) {op left right} (hl : good (.predicate left))
    (hr : good (.predicate right)) : MadeOf good (Predicate.join op left right).kind.inner := by
  have second : MadeOf good [right] := madeOf_cons.2 ⟨madeOf_predicate.2 hr, madeOf_nil⟩
  have pair : MadeOf good [left, right] := madeOf_cons.2 ⟨madeOf_predicate.2 hl, second⟩
  obtain ⟨children, rfl, joined⟩ | ⟨-, joined⟩ := Predicate.join_cases op left right
  · -- the left side is gone, but its children have the property by themselves
    have flattened := madeOf_parts.1 (composes.inner _ rfl rfl hl)
    rw [joined]
    exact madeOf_parts.2 (madeOf_append.2 ⟨flattened, second⟩)
  · rw [joined]
    exact madeOf_parts.2 pair

end Part.Composes

namespace Context

/-- The constant that a text names is found under the part before its last dot. -/
lemma enumConstant?_ok {text e} (h : context.enumConstant? text = .ok (some e)) :
    ∃ owner name type value, Dotted.owner? text = some (owner, name) ∧
      context.registries.enums.get? owner = some type ∧ type.value? name = some value ∧
      e = context.enumExpression type value text := by
  unfold enumConstant? at h
  split at h
  · cases h
  · next owner name dotted =>
    split at h
    · cases h
    · next type registered =>
      split at h
      · next value known =>
        cases h
        exact ⟨owner, name, type, value, dotted, registered, known, rfl⟩
      · cases h

/-- An enum constant is a literal or a parameter. -/
lemma enumConstant?_eq {text e} (h : context.enumConstant? text = .ok (some e)) :
    (∃ literal, e = .literal literal) ∨ ∃ parameter, e = .parameter parameter := by
  obtain ⟨_, _, type, value, -, -, -, rfl⟩ := enumConstant?_ok h
  unfold enumExpression
  split
  · exact .inl ⟨_, rfl⟩
  · exact .inr ⟨_, rfl⟩

/-- The start of a path is a constant that its name resolves to and is long enough for. -/
lemma leadingConstant?_ok {segments e} (h : context.leadingConstant? segments = .ok (some e)) :
    context.options.minEnumSegments ≤ segments.length ∧
      context.enumConstant? (Dotted.join segments) = .ok (some e) := by
  unfold leadingConstant? at h
  split at h
  · cases h
  · next enough => exact ⟨Nat.le_of_not_lt enough, h⟩

/-- The constant at the start of a path has a property of the constants that are written. -/
lemma leadingConstant?_madeOf (forms : context.Forms written asked good) {segments}
    (named : context.options.minEnumSegments ≤ segments.length → written segments) {e}
    (h : context.leadingConstant? segments = .ok (some e)) : MadeOf good e := by
  obtain ⟨enough, found⟩ := leadingConstant?_ok h
  exact madeOf_expression.2 (forms.constant segments e (named enough) found)

/-- What a name stands for has a property of the constants that are written, or of entities. -/
lemma constant_madeOf (forms : context.Forms written asked good) {segments}
    (named : written segments) {e} (h : context.constant segments = .ok e) : MadeOf good e := by
  simp only [constant] at h
  split at h
  · cases h
  · next found =>
    cases h
    exact madeOf_expression.2 (forms.constant segments _ named found)
  · split at h
    · next found =>
      cases h
      exact madeOf_expression.2 (forms.entity _ _ found)
    · cases h

/-- A name alone has a property that the entities and the properties of paths have. -/
lemma identifier_madeOf (forms : context.Forms written asked good) (name : String) :
    MadeOf good (context.identifier name) := by
  unfold identifier
  split
  · next found => exact madeOf_expression.2 (forms.entity _ _ found)
  · exact forms.property name

/-- The other side of a comparison with a type is the same or an entity. -/
lemma typeComparand_madeOf (forms : context.Forms written asked good) {e : Expression}
    (h : MadeOf good e) : MadeOf good (context.typeComparand e) := by
  unfold typeComparand
  split
  · split
    · next found =>
      obtain ⟨text, -, found⟩ := Option.bind_eq_some_iff.1 found
      exact madeOf_expression.2 (forms.entity _ _ found)
    · exact h
  · exact h

/-- An expansion has a property of its arguments that the macro preserves. -/
lemma expand_madeOf (name : String) {arguments : List Expression} (h : MadeOf good arguments) :
    Gives (context.Preserves good) (MadeOf good) (context.expand name arguments) := by
  unfold expand
  split
  · next expansion found =>
    intro trust e made
    have preserves : expansion.Preserves good := trust _ (.head _) _ found
    exact preserves arguments e h (except_mapError_ok.1 made)
  · exact .fail _

end Context

/-- A window has a property if its partition, its ordering and its frame have. -/
lemma madeOf_inline {name : Option String} {partitionBy : List Expression}
    {orderBy : List OrderItem} {frame : Option (Frame Expression)} :
    MadeOf good (WindowClause.inline name partitionBy orderBy frame) ↔
      MadeOf good partitionBy ∧ MadeOf good orderBy ∧ MadeOf good frame := by
  rw [madeOf_iff_parts]
  change MadeOf good (HasParts.parts partitionBy ++ HasParts.parts orderBy ++
    HasParts.parts frame) ↔ _
  simp only [madeOf_append, madeOf_parts, and_assoc]

/-- The window of a call is made of its clause and its filter. -/
lemma Window.ofClause_madeOf {clause : Option WindowClause} {filter : Option Predicate} {kind}
    (hc : MadeOf good clause) (hf : MadeOf good filter) :
    MadeOf good (Window.ofClause clause filter kind) := by
  unfold ofClause
  split
  · obtain ⟨hp, ho, hr⟩ := madeOf_inline.1 (madeOf_some.1 hc)
    exact madeOf_some.2 (madeOf_window.2 ⟨hp, ho, hf, hr⟩)
  · exact madeOf_some.2 (madeOf_window.2 ⟨madeOf_nil, madeOf_nil, hf, madeOf_none⟩)
  · split
    · exact madeOf_some.2 (madeOf_window.2 ⟨madeOf_nil, madeOf_nil, hf, madeOf_none⟩)
    · exact madeOf_none

namespace Invocation

/-- The parts of a call are those of its arguments and of its clauses. -/
instance : HasParts Invocation where
  parts call := HasParts.parts call.arguments ++ HasParts.parts call.withinGroup ++
    HasParts.parts call.filter ++ HasParts.parts call.window

/-- A call has a property if its arguments and its clauses have. -/
lemma madeOf_invocation {call : Invocation} :
    MadeOf good call ↔ MadeOf good call.arguments ∧ MadeOf good call.withinGroup ∧
      MadeOf good call.filter ∧ MadeOf good call.window := by
  rw [madeOf_iff_parts]
  change MadeOf good (HasParts.parts call.arguments ++ HasParts.parts call.withinGroup ++
    HasParts.parts call.filter ++ HasParts.parts call.window) ↔ _
  simp only [madeOf_append, madeOf_parts, and_assoc]

variable {call : Invocation}

/-- A call over a window has a property that the call has. -/
lemma windowed_madeOf (composes : Part.Composes good) (h : MadeOf good call) {name : String}
    (other : Case.lower name ≠ "size") (kind : FunctionKind) :
    MadeOf good (call.windowed name kind) := by
  obtain ⟨ha, hg, hf, hw⟩ := madeOf_invocation.1 h
  refine composes.function other ?arguments (madeOf_getD hg) (Window.ofClause_madeOf hw hf)
  unfold windowedArguments
  split
  · exact madeOf_cons.2 ⟨composes.expression rfl rfl madeOf_nil, ha⟩
  · exact ha

/-- An aggregate has a property that its arguments, its ordering and its filter have. -/
lemma aggregate_madeOf (composes : Part.Composes good) {distinct name arguments orderBy filter}
    (ha : MadeOf good arguments) (ho : MadeOf good orderBy) (hf : MadeOf good filter) :
    MadeOf good (Expression.aggregate distinct name arguments orderBy filter) :=
  composes.expression rfl rfl (by simp [Expression.inner, ha, ho, hf])

/-- What a registered function makes of a call has a property that the call has. -/
lemma ofKind_madeOf (composes : Part.Composes good) (h : MadeOf good call)
    (other : Case.lower call.name ≠ "size") {kind e} (made : call.ofKind kind = .ok e) :
    MadeOf good e := by
  obtain ⟨ha, hg, hf, -⟩ := madeOf_invocation.1 h
  cases kind with
  | aggregate =>
    obtain ⟨_, -, made⟩ := except_bind_ok.1 made
    split at made
    · cases made
      exact aggregate_madeOf composes ha madeOf_nil madeOf_none
    · cases made
      have first : (windowPrefix ++ Case.lower call.name).toList.head? = some 'w' := by
        simp [windowPrefix]
      exact windowed_madeOf composes h (Case.lower_ne_of_first first (by decide) (by decide)) _
  | orderedSetAggregate =>
    simp only [ofKind] at made
    split at made
    · cases made
      exact aggregate_madeOf composes ha (madeOf_getD hg) hf
    · cases made
      exact windowed_madeOf composes h other _
  | window =>
    obtain ⟨_, -, made⟩ := except_bind_ok.1 made
    cases made
    exact windowed_madeOf composes h other _
  | scalar | deterministic =>
    obtain ⟨_, -, made⟩ := except_bind_ok.1 made
    cases made
    exact composes.call other ha

/-- The first argument of a call has a property that all arguments have. -/
lemma firstArgument_madeOf (h : MadeOf good call.arguments) {e}
    (found : call.firstArgument = .ok e) : MadeOf good e := by
  unfold firstArgument at found
  split at found
  · cases found
  · next rest same =>
    cases found
    rw [same] at h
    exact (madeOf_cons.1 h).1

/-- The path that a call starts with has a property that all arguments have. -/
lemma firstPath_madeOf (composes : Part.Composes good) (h : MadeOf good call.arguments) {path}
    (found : call.firstPath = .ok path) : MadeOf good path := by
  obtain ⟨e, first, found⟩ := except_bind_ok.1 found
  have inside : MadeOf good e := firstArgument_madeOf h first
  split at found
  · cases found
    exact composes.ofSteps inside
  · cases found

/-- What a function of the language makes of a call has a property that the call has. -/
lemma ofBuiltin_madeOf (composes : Part.Composes good) (h : MadeOf good call) {builtin e}
    (named : Builtin.ofName? (Case.lower call.name) = some builtin)
    (made : call.ofBuiltin context builtin = .ok e) : MadeOf good e := by
  obtain ⟨ha, -⟩ := madeOf_invocation.1 h
  have other (differs : builtin ≠ .size) : Case.lower call.name ≠ "size" :=
    Builtin.ne_size fun same => differs (Option.some.inj (named.symm.trans same))
  cases builtin with
  | moment =>
    obtain ⟨_, -, made⟩ := except_bind_ok.1 made
    cases made
    exact madeOf_expression.2 (composes.nullary _)
  | outer =>
    simp only [ofBuiltin] at made
    split at made
    · obtain ⟨_, -, made⟩ := except_bind_ok.1 made
      cases made
      exact composes.call (other (by decide)) ha
    · cases made
  | scalar =>
    obtain ⟨_, -, made⟩ := except_bind_ok.1 made
    cases made
    exact composes.call (other (by decide)) ha
  | trim =>
    obtain ⟨_, -, made⟩ := except_bind_ok.1 made
    obtain ⟨operand, first, made⟩ := except_bind_ok.1 made
    cases made
    have ho := firstArgument_madeOf ha first
    exact composes.expression rfl rfl (by simp [Expression.inner, ho])
  | size =>
    obtain ⟨_, -, made⟩ := except_bind_ok.1 made
    obtain ⟨path, first, made⟩ := except_bind_ok.1 made
    cases made
    have hp := madeOf_path.1 (firstPath_madeOf composes ha first)
    have size := Builtin.ofName?_eq_size.1 named
    exact madeOf_expression.2 (composes.size _ path _ size hp (madeOf_tail ha))
  | access access =>
    obtain ⟨_, -, made⟩ := except_bind_ok.1 made
    obtain ⟨path, first, made⟩ := except_bind_ok.1 made
    cases made
    have hp := madeOf_path.1 (firstPath_madeOf composes ha first)
    exact madeOf_expression.2 (composes.access access path hp)
  | typeOf =>
    obtain ⟨_, -, made⟩ := except_bind_ok.1 made
    obtain ⟨operand, first, made⟩ := except_bind_ok.1 made
    cases made
    have ho := firstArgument_madeOf ha first
    exact composes.expression rfl rfl (by simp [Expression.inner, ho])
  | passthrough =>
    obtain ⟨_, -, made⟩ := except_bind_ok.1 made
    obtain ⟨kind, -, made⟩ := except_bind_ok.1 made
    exact ofKind_madeOf composes h (other (by decide)) made

/-- What a call is resolved to has a property that the call has, if its macro preserves it. -/
lemma resolve_madeOf (composes : Part.Composes good) (h : MadeOf good call) :
    Gives (context.Preserves good) (MadeOf good) (call.resolve context) := by
  unfold resolve
  split
  · next named => exact .lift fun e made => ofBuiltin_madeOf composes h named made
  · next unnamed =>
    have other : Case.lower call.name ≠ "size" := Builtin.ne_size (unnamed ▸ nofun)
    split
    · exact .lift fun e made => ofKind_madeOf composes h other made
    · exact .bind (.lift fun _ _ => trivial) fun _ _ =>
        Context.expand_madeOf call.name (madeOf_invocation.1 h).1

end Invocation

namespace StockMacro

/-- The macro for the root of a view preserves every property that parts compose to. -/
lemma viewRoot_madeOf (composes : Part.Composes good) {arguments : List Expression}
    (h : MadeOf good arguments) {e} (made : viewRoot.expand arguments = .ok e) :
    MadeOf good e := by
  have root : MadeOf good [PathElement.property "root"] := composes.properties ["root"]
  cases arguments with
  | nil =>
    cases made
    exact composes.steps (composes.path root)
  | cons argument rest =>
    obtain ⟨first, -⟩ := madeOf_cons.1 h
    cases argument with
    | path steps =>
      cases rest with
      | nil =>
        cases made
        have hp := madeOf_path.1 (composes.ofSteps first)
        exact composes.steps (madeOf_path.2 (composes.append steps _ hp root))
      | cons second more => cases made
    | _ => cases made

/-- The macros that a configuration can name preserve every property that is passed on when parts
are put together. -/
theorem expand_preserves (composes : Part.Composes good) (stock : StockMacro) :
    Expansion.Preserves stock.expand good := by
  intro arguments e h made
  cases stock with
  | viewRoot => exact viewRoot_madeOf composes h made
  | parameter name =>
    cases made
    exact composes.expression rfl rfl madeOf_nil
  | fail message => cases made
  | first =>
    cases arguments with
    | nil => cases made
    | cons argument rest =>
      cases made
      exact (madeOf_cons.1 h).1
  | concat =>
    cases made
    exact composes.call (Expression.lower_ne_size_of_concat rfl) h
  | typeOf name =>
    cases made
    exact composes.expression rfl rfl (madeOf_parts.2 (composes.property name))
  | path name =>
    cases made
    refine composes.steps ?_
    unfold Path.dotted
    cases dotted : Path.ofProperties? (Dotted.segments name) with
    | none => exact composes.path (composes.properties [name])
    | some steps => exact composes.ofElements dotted (composes.properties _)
  | string text =>
    cases made
    exact composes.expression rfl rfl madeOf_nil
  | truth =>
    cases made
    exact composes.expression rfl rfl madeOf_nil
  | notExists name =>
    cases made
    exact composes.predicate rfl rfl (madeOf_parts.2 (composes.property name))

end StockMacro

/-- A plain part is no marked parameter. -/
lemma Part.isUnmarked_of_isPlain {part : Part} (plain : part.isPlain) : part.IsUnmarked := by
  cases part with
  | expression e =>
    cases e with
    | parameter parameter =>
      have unmarked := (Bool.and_eq_true_iff.1 plain).2
      simpa [IsUnmarked] using unmarked
    | _ => trivial
  | _ => trivial

/-- A property that is passed on when parts are put together is passed on by all steps if every part
has it that sets no flag, is no marked parameter and is made of parts with it. -/
lemma Context.Forms.of_inner (composes : Part.Composes good)
    (made : ∀ part : Part, part.setsFlag = false → part.IsUnmarked → MadeOf good part.inner →
      good part)
    (negated : ∀ kind, good (.predicate ⟨kind, false⟩) → good (.predicate ⟨kind, true⟩))
    (marked : ∀ operand parameter negated, asked operand parameter → good (.expression operand) →
      good (.expression (.parameter parameter)) →
      good (.predicate
        ⟨.inList operand [.parameter { parameter with collectionValued := true }], negated⟩)) :
    context.Forms written asked good := by
  constructor
  case toComposes => exact composes
  case marked => exact marked
  case temporal => exact fun _ _ _ _ => made _ rfl trivial madeOf_nil
  case constant =>
    intro segments e _ found
    obtain ⟨_, _, type, value, -, -, -, rfl⟩ := enumConstant?_ok found
    unfold enumExpression
    split
    · exact made _ rfl trivial madeOf_nil
    · exact made _ rfl rfl madeOf_nil
  case entity => exact fun _ _ _ => made _ rfl trivial madeOf_nil
  case indexed =>
    intro text entity index _ h
    exact made _ rfl trivial (madeOf_parts.2 (madeOf_expression.2 h))
  case comparison =>
    intro sign left right quantifier _ hl hr
    have flag : (Part.predicate (.ofSign sign left right quantifier)).setsFlag = false := by
      cases sign <;> rfl
    have both := And.intro (madeOf_expression.2 hl) (madeOf_expression.2 hr)
    exact made _ flag trivial (madeOf_ofSign_inner.2 both)
  case like =>
    intro operand pattern escape negated _ ho hp he
    have inside := madeOf_like_inner.2 ⟨madeOf_expression.2 ho, madeOf_expression.2 hp, he⟩
    exact made _ rfl trivial inside
  case join =>
    intro op left right hl hr
    have flag : (Part.predicate (.join op left right)).setsFlag = false := by
      unfold Predicate.join
      split
      · split <;> rfl
      · rfl
    exact made _ flag trivial (composes.join_inner hl hr)
  case negate =>
    intro p h
    obtain ⟨kind, turned⟩ := p
    cases turned with
    | true =>
      -- the negated predicate becomes the only child of a new one
      exact made _ rfl trivial (madeOf_parts.2 (madeOf_cons.2 ⟨madeOf_predicate.2 h, madeOf_nil⟩))
    | false => exact negated kind h
  case searched =>
    intro branches otherwise _ hb ho
    exact made _ rfl trivial (madeOf_append.2 ⟨madeOf_parts.2 hb, madeOf_parts.2 ho⟩)
  case frame =>
    intro frame _ hs he
    exact made _ rfl trivial (madeOf_append.2 ⟨madeOf_parts.2 hs, madeOf_parts.2 he⟩)

/-- A rule that the steps of a build in a context keep. The names of enum constants are those that
the tree is written with. -/
structure Context.Keeps (context : Context) (written : List String → Prop) (rule : Part → Prop) :
    Prop where
  plain : ∀ part : Part, part.isPlain → rule part
  temporal : ∀ kind body literal, context.temporal kind body = .ok literal →
    rule (.expression (.literal literal))
  constant : ∀ segments e, written segments →
    context.enumConstant? (Dotted.join segments) = .ok (some e) → rule (.expression e)
  entity : ∀ text entity, context.entity? text = some entity →
    rule (.expression (.literal (.entityType entity)))
  indexed : ∀ text entity index, context.entity? text = some entity →
    rule (.element (.indexed (.entity entity) index))
  collectionValued : ∀ parameter : Parameter, rule (.expression (.parameter parameter)) →
    rule (.expression (.parameter { parameter with collectionValued := true }))
  comparison : ∀ sign left right quantifier,
    (quantifier = .one ∨ context.options.allowQuantifiers) →
    rule (.predicate (.ofSign sign left right quantifier))
  like : ∀ operand pattern escape negated,
    (∀ e : Expression, escape = some e → e.isLiteralOrParameter) →
    rule (.predicate ⟨.like operand pattern escape, negated⟩)
  join : ∀ op left right, rule (.predicate left) → rule (.predicate right) →
    rule (.predicate (.join op left right))
  negate : ∀ p : Predicate, rule (.predicate p) → rule (.predicate p.negate)
  searched : ∀ branches otherwise,
    (∀ branch ∈ branches, ∃ p, Branch.condition branch = .predicate p) →
    rule (.expression (.searchedCase branches otherwise))
  frame : ∀ frame : Frame Expression, frame.check = .ok frame → rule (.frame frame)

section Keeps

variable {rule : Part → Prop}

/-- A property that every plain part has if what stands in it does, and that holds of what stands in
any part but a membership test, is passed on. The flags of a path then do not matter. -/
lemma Part.Composes.of_inner
    (made : ∀ part : Part, part.isPlain → MadeOf good part.inner → good part)
    (opened : ∀ part : Part, part.isMembership = false → good part → MadeOf good part.inner) :
    Part.Composes good := by
  -- the elements of a path have the property, and so does a path of them with any flags
  have elements {path : Path} (h : good (.path path)) : MadeOf good path.elements :=
    madeOf_parts.1 (opened (.path path) rfl h)
  have flagged {path : Path} (h : good (.path path)) (qualified used : Bool) :
      MadeOf good (Path.mk path.first path.rest qualified used) :=
    have same : MadeOf good (path.first :: path.rest) := elements h
    madeOf_path.2 (made _ rfl (madeOf_parts.2 same))
  constructor
  case plain => exact fun part own _ => made part own
  case inner => exact fun part _ => opened part
  case append =>
    intro path added hp ha
    refine made _ rfl (madeOf_parts.2 ?_)
    rw [Path.elements_append]
    exact madeOf_append.2 ⟨elements hp, ha⟩
  case element =>
    intro e element same h
    unfold PathElement.ofExpression? at same
    have inside := opened (.expression e) rfl h
    split at same <;> cases same
    · exact made _ rfl inside
    · exact made _ rfl inside
  case isEmpty =>
    intro path negated h
    exact made _ rfl (madeOf_parts.2 (flagged h _ true))
  case memberOf =>
    intro e path negated he h
    refine made _ rfl (madeOf_append.2 ⟨madeOf_parts.2 (madeOf_expression.2 he), ?_⟩)
    exact madeOf_parts.2 (flagged h _ true)
  case size =>
    intro name path rest _ h hr
    have first : MadeOf good (Expression.path _) :=
      madeOf_expression.2 (made _ rfl (madeOf_parts.2 (flagged h path.collectionQualified true)))
    have arguments := madeOf_cons.2 ⟨first, hr⟩
    exact made _ rfl ((madeOf_function_inner name).2 ⟨arguments, madeOf_nil, madeOf_none⟩)
  case nullary =>
    intro name
    exact made _ rfl ((madeOf_function_inner name).2 ⟨madeOf_nil, madeOf_nil, madeOf_none⟩)
  case access =>
    intro access path h
    exact made _ rfl (madeOf_parts.2 (flagged h true _))
  case content =>
    intro access path _ h
    exact made _ rfl (madeOf_parts.2 (madeOf_path.2 h))

/-- What satisfies a rule at every depth is put together and taken apart if the rule does not depend
on plain parts. -/
lemma Part.Composes.deeply (plain : ∀ part : Part, part.isPlain → rule part) :
    Part.Composes (Part.Deeply rule) :=
  .of_inner (fun part own inside => Part.deeply_iff.2 ⟨plain part own, inside⟩)
    fun _ _ h => (Part.deeply_iff.1 h).2

/-- Rules that the steps of a build keep are satisfied at every depth. -/
theorem Context.Keeps.forms (kept : context.Keeps written rule) :
    context.Forms written asked (Part.Deeply rule) := by
  have made {part : Part} (own : rule part) (inside : MadeOf (Part.Deeply rule) part.inner) :
      part.Deeply rule := Part.deeply_iff.2 ⟨own, inside⟩
  constructor
  -- each step keeps the rule of the part that it makes, and what is in that part is what was given
  case toComposes => exact .deeply kept.plain
  case temporal => exact fun kind body literal read => made (kept.temporal _ _ _ read) madeOf_nil
  case constant =>
    intro segments e named found
    refine made (kept.constant segments e named found) ?_
    obtain ⟨literal, rfl⟩ | ⟨parameter, rfl⟩ := enumConstant?_eq found
    · exact madeOf_nil
    · exact madeOf_nil
  case entity => exact fun text entity found => made (kept.entity text entity found) madeOf_nil
  case indexed =>
    intro text entity index found h
    exact made (kept.indexed text entity index found) (madeOf_parts.2 (madeOf_expression.2 h))
  case marked =>
    intro operand parameter negated _ ho h
    have marked := kept.collectionValued parameter (Part.deeply_iff.1 h).1
    have item := madeOf_expression.2 (made marked madeOf_nil)
    refine made (kept.plain _ rfl) (madeOf_append.2 ⟨?_, ?_⟩)
    · exact madeOf_parts.2 (madeOf_expression.2 ho)
    · exact madeOf_parts.2 (madeOf_cons.2 ⟨item, madeOf_nil⟩)
  case comparison =>
    intro sign left right quantifier allowed hl hr
    refine made (kept.comparison sign left right quantifier allowed) ?_
    exact madeOf_ofSign_inner.2 ⟨madeOf_expression.2 hl, madeOf_expression.2 hr⟩
  case like =>
    intro operand pattern escape negated literal ho hp he
    refine made (kept.like operand pattern escape negated literal) ?_
    exact madeOf_like_inner.2 ⟨madeOf_expression.2 ho, madeOf_expression.2 hp, he⟩
  case join =>
    intro op left right hl hr
    refine made ?_ ((Part.Composes.deeply kept.plain).join_inner hl hr)
    exact kept.join op left right (Part.deeply_iff.1 hl).1 (Part.deeply_iff.1 hr).1
  case negate =>
    intro p h
    obtain ⟨own, inside⟩ := Part.deeply_iff.1 h
    refine made (kept.negate p own) ?_
    show MadeOf _ p.negate.kind.inner
    unfold Predicate.negate
    split
    · exact madeOf_parts.2 (madeOf_cons.2 ⟨madeOf_predicate.2 h, madeOf_nil⟩)
    · exact inside
  case searched =>
    intro branches otherwise conditions hb ho
    refine made (kept.searched branches otherwise conditions) ?_
    exact madeOf_append.2 ⟨madeOf_parts.2 hb, madeOf_parts.2 ho⟩
  case frame =>
    intro frame checked hs he
    exact made (kept.frame frame checked)
      (madeOf_append.2 ⟨madeOf_parts.2 hs, madeOf_parts.2 he⟩)

end Keeps

end QueryExpr
