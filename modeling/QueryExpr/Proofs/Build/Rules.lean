import QueryExpr.Proofs.Build.Inversion
import QueryExpr.Proofs.Resolve.Rules
import QueryExpr.Proofs.Session.Request
import QueryExpr.Proofs.Syntax.Names

/-!
# What a build is made of

The single steps of a build pass on a property of parts from the operands to what they make, and so
does the whole build: the theorem `Request.build_madeOf` has one lemma for each function of the
builder behind it. A rule that the steps keep is therefore obeyed by every part of an answer
(`Session.answer_obeys`).
-/

namespace QueryExpr

open Traced (Gives)

variable {context : Context} {written : List String → Prop} {asked : Expression → Parameter → Prop}
  {good : Part → Prop} {trusted : String → Prop}

namespace Expression

/-- Putting an operand before the arguments of a concatenation passes a property on. -/
lemma prepend_madeOf (composes : Part.Composes good) {left right : Expression}
    (hl : MadeOf good left) (hr : MadeOf good right) : MadeOf good (prepend left right) := by
  have new : MadeOf good (call concatName [left, right]) :=
    composes.call (lower_ne_size_of_concat rfl) (by simp [hl, hr])
  unfold prepend
  split
  · split
    · next concat =>
      have other := lower_ne_size_of_concat concat
      obtain ⟨ha, ho, hw⟩ := composes.ofFunction other hr
      exact composes.function other (madeOf_cons.2 ⟨hl, ha⟩) ho hw
    · exact new
  · exact new

/-- Concatenating two operands passes a property on, whichever side is one already. -/
lemma concatenate_madeOf (composes : Part.Composes good) {left right : Expression}
    (hl : MadeOf good left) (hr : MadeOf good right) : MadeOf good (concatenate left right) := by
  unfold concatenate
  split
  · split
    · next concat =>
      have other := lower_ne_size_of_concat concat
      obtain ⟨ha, ho, hw⟩ := composes.ofFunction other hl
      exact composes.function other (madeOf_append.2 ⟨ha, by simp [hr]⟩) ho hw
    · exact prepend_madeOf composes hl hr
  · exact prepend_madeOf composes hl hr

end Expression

namespace Syntax

variable {span : Span}

/-- Giving an error its span does not touch what is made. -/
lemma place_madeOf {α : Type} [HasParts α] {t : Traced ResolveError α}
    (h : Gives trusted (MadeOf good) t) : Gives trusted (MadeOf good) (place span t) :=
  h.mapError

/-- What is taken as a predicate has a property that the expression has. -/
lemma asPredicate_madeOf (composes : Part.Composes good) (node : Node) {built : Expression}
    (h : MadeOf good built) :
    Gives trusted (MadeOf good) (liftM (asPredicate node built) : Traced Fault Predicate) := by
  refine .lift fun p same => ?_
  obtain rfl | ⟨value, -, rfl⟩ := asPredicate_ok.1 same
  · exact composes.ofPredicate h
  · exact madeOf_predicate.2 (composes.plain _ rfl rfl madeOf_nil)

/-- What is taken as a path has a property that the expression has. -/
lemma asPath_madeOf (composes : Part.Composes good) {name : String} {built : Expression}
    (h : MadeOf good built) {path} (same : asPath span name built = .ok path) :
    MadeOf good path := by
  unfold asPath at same
  split at same
  · cases same
    exact composes.ofSteps h
  · cases same

/-- A node without operands builds parts that the context can form, with a constant only for a name
that is tried as one. -/
lemma Atom.build_madeOf (forms : context.Forms written asked good) {leaf : Atom}
    (named : ∀ segments, (Kind.atom leaf).Tries context.options.minEnumSegments segments →
      written segments) {e}
    (made : leaf.build context = .ok e) : MadeOf good e := by
  cases leaf with
  | null | boolean | numeric | namedParameter | positionalParameter =>
    cases made
    exact forms.expression rfl rfl madeOf_nil
  | string raw =>
    simp only [Atom.build] at made
    split at made
    · cases made
      exact forms.expression rfl rfl madeOf_nil
    · cases made
  | temporal kind body =>
    obtain ⟨literal, read, rfl⟩ := except_map_ok.1 (except_mapError_ok.1 made)
    exact madeOf_expression.2 (forms.temporal kind body literal read)
  | constant segments =>
    have found := except_mapError_ok.1 made
    exact Context.constant_madeOf forms (named segments ⟨.head _, .inl rfl⟩) found
  | temporalFunction name =>
    cases made
    exact madeOf_expression.2 (forms.nullary name)
  | subpath segments =>
    simp only [Atom.build] at made
    split at made
    · cases made
    · next found =>
      cases made
      have tried := fun enough => named segments ⟨.head _, .inr enough⟩
      exact Context.leadingConstant?_madeOf forms tried found
    · split at made
      · next path same =>
        cases made
        exact forms.steps (forms.ofElements same (forms.properties segments))
      · cases made
  | object name | identifier name =>
    cases made
    exact Context.identifier_madeOf forms name
  | unmatched text => cases made

/-- A step with one operand passes a property of the operand on. -/
lemma UnaryOp.build_madeOf (composes : Part.Composes good) {op : UnaryOp} {operand : Expression}
    (h : MadeOf good operand) {e} (made : op.build span operand = .ok e) : MadeOf good e := by
  cases op with
  | grouped | plus => cases made; exact h
  | minus =>
    cases made
    exact composes.expression rfl rfl (madeOf_parts.2 h)
  | outer =>
    cases made
    have other : Case.lower "OUTER" ≠ "size" := Builtin.ne_size nofun
    exact composes.call other (madeOf_cons.2 ⟨h, madeOf_nil⟩)
  | existence negated | isNull negated =>
    cases made
    exact composes.predicate rfl rfl (madeOf_parts.2 h)
  | isEmpty negated =>
    obtain ⟨path, same, made⟩ := except_bind_ok.1 made
    cases made
    have hp := madeOf_path.1 (asPath_madeOf composes h same)
    exact composes.wrap (madeOf_predicate.2 (composes.isEmpty path negated hp))

/-- A comparison of operands with a property has it if its quantifier is allowed. -/
lemma ofSign_madeOf (forms : context.Forms written asked good) (sign : ComparisonSign)
    {left right : Expression} {quantifier}
    (allowed : quantifier = .one ∨ context.options.allowQuantifiers)
    (hl : MadeOf good left) (hr : MadeOf good right) :
    MadeOf good (Expression.predicate (.ofSign sign left right quantifier)) := by
  have hl := madeOf_expression.1 hl
  have hr := madeOf_expression.1 hr
  exact forms.wrap (madeOf_predicate.2 (forms.comparison sign left right quantifier allowed hl hr))

/-- Comparing operands passes a property on, also when one of them becomes an entity. -/
lemma compare_madeOf (forms : context.Forms written asked good) (sign : ComparisonSign)
    {left right : Expression} (hl : MadeOf good left) (hr : MadeOf good right) :
    MadeOf good (compare context sign left right) := by
  -- either side can become an entity, on a condition that does not matter here
  have either (condition : Prop) [Decidable condition] {e : Expression} (h : MadeOf good e) :
      MadeOf good (if condition then context.typeComparand e else e) := by
    split
    · exact Context.typeComparand_madeOf forms h
    · exact h
  exact ofSign_madeOf forms sign (.inl rfl) (either _ hl) (either _ hr)

/-- A step with two operands passes a property of both on, once the options permit it. -/
lemma BinaryOp.build_madeOf (forms : context.Forms written asked good) {op : BinaryOp}
    {left right : Expression} (permitted : op.permit context.options span = .ok ())
    (hl : MadeOf good left) (hr : MadeOf good right) :
    MadeOf good (op.build context left right) := by
  cases op with
  | concatenation => exact Expression.concatenate_madeOf forms.toComposes hl hr
  | multiply | divide | add | subtract =>
    exact forms.expression rfl rfl (madeOf_append.2 ⟨madeOf_parts.2 hl, madeOf_parts.2 hr⟩)
  | modulo =>
    have other : Case.lower "MOD" ≠ "size" := Builtin.ne_size nofun
    exact forms.call other (by simp [hl, hr])
  | comparison sign => exact compare_madeOf forms sign hl hr
  | quantified sign word =>
    refine ofSign_madeOf forms sign ?_ hl hr
    cases word with
    | none => exact .inl rfl
    | some word =>
      -- a quantifier got here only if the options allow it
      simp only [BinaryOp.permit] at permitted
      split at permitted
      · next allowed => exact .inr allowed
      · cases permitted

/-- Items that are taken as entities beside a type keep a property. -/
lemma typeComparands_madeOf (forms : context.Forms written asked good) {items : List Expression}
    (h : MadeOf good items) : MadeOf good (items.map context.typeComparand) := by
  induction items with
  | nil => exact madeOf_nil
  | cons item rest ih =>
    obtain ⟨first, others⟩ := madeOf_cons.1 h
    exact madeOf_cons.2 ⟨Context.typeComparand_madeOf forms first, ih others⟩

/-- Only a single parameter is changed when it may stand for a collection. -/
lemma markCollection_cases (items : List Expression) :
    (∃ parameter, items = [.parameter parameter] ∧
      markCollection items = [.parameter { parameter with collectionValued := true }]) ∨
      markCollection items = items := by
  unfold markCollection
  split
  · exact .inl ⟨_, rfl, rfl⟩
  · exact .inr rfl

/-- A membership test has a property that its operand and items have, where the parameter it marks
is one that is asked for. -/
lemma membership_madeOf (forms : context.Forms written asked good) (negated bare : Bool)
    {operand : Expression} {items : List Expression}
    (asks : bare → ∀ parameter, items = [.parameter parameter] → asked operand parameter)
    (ho : MadeOf good operand) (hi : MadeOf good items) :
    MadeOf good (membership context negated bare operand items) := by
  have unmarked : MadeOf good (Expression.predicate
      ⟨.inList operand (if operand.isTypeOf then items.map context.typeComparand else items),
        negated⟩) := by
    refine forms.predicate rfl rfl (madeOf_append.2 ⟨madeOf_parts.2 ho, madeOf_parts.2 ?_⟩)
    split
    · exact typeComparands_madeOf forms hi
    · exact hi
  unfold membership
  cases bare with
  | false => exact unmarked
  | true =>
    -- marking changes a single parameter or nothing, and then the test is the unmarked one
    obtain ⟨parameter, rfl, same⟩ | same := markCollection_cases items
    · -- beside a type a parameter stays what it is
      have own := madeOf_expression.1 (madeOf_cons.1 hi).1
      have marked := forms.marked operand parameter negated (asks rfl parameter rfl)
        (madeOf_expression.1 ho) own
      refine forms.wrap (madeOf_predicate.2 ?_)
      simpa [markCollection, Context.typeComparand] using marked
    · simpa only [if_true, same] using unmarked

/-- A downcast or a collection access can start a path. -/
lemma ofExpression?_madeOf (composes : Part.Composes good) {built : Expression}
    (h : MadeOf good built) {element} (same : PathElement.ofExpression? built = some element) :
    MadeOf good (QueryExpr.Path.mk element [] false false) := by
  have own := composes.element built element same (madeOf_expression.1 h)
  exact composes.path (madeOf_cons.2 ⟨madeOf_element.2 own, madeOf_nil⟩)

/-- What is made of a path for the place where it stands has a property that the path has. -/
lemma PathRole.build_madeOf (composes : Part.Composes good) {role : PathRole} {options}
    {built : Expression} (h : MadeOf good built) {e}
    (made : role.build options span built = .ok e) : MadeOf good e := by
  cases role with
  | plain =>
    simp only [PathRole.build] at made
    split at made
    · cases made
    · cases made
      exact h
  | treat entityName =>
    simp only [PathRole.build] at made
    split at made
    · next same =>
      cases made
      have whole := composes.steps (ofExpression?_madeOf composes h same)
      exact composes.expression rfl rfl (madeOf_parts.2 whole)
    · cases made
      exact composes.expression rfl rfl (madeOf_parts.2 h)
  | value =>
    obtain ⟨path, same, made⟩ := except_bind_ok.1 made
    cases made
    have hp := madeOf_path.1 (asPath_madeOf composes h same)
    exact madeOf_expression.2 (composes.content _ path (.inl rfl) hp)
  | key =>
    obtain ⟨path, same, made⟩ := except_bind_ok.1 made
    cases made
    have hp := madeOf_path.1 (asPath_madeOf composes h same)
    exact madeOf_expression.2 (composes.access .mapKey path hp)
  | entry =>
    obtain ⟨path, same, made⟩ := except_bind_ok.1 made
    cases made
    have hp := madeOf_path.1 (asPath_madeOf composes h same)
    exact madeOf_expression.2 (composes.content _ path (.inr rfl) hp)

/-- The path that a qualifier starts has a property that the qualifier has. -/
lemma startPath_madeOf (composes : Part.Composes good) {qualifier : Node} {built : Expression}
    (h : MadeOf good built) {path} (made : startPath qualifier built = .ok path) :
    MadeOf good path := by
  unfold startPath at made
  split at made
  · next same =>
    cases made
    exact ofExpression?_madeOf composes h same
  · split at made
    · cases made
      exact composes.ofSteps h
    · cases made

/-- The elements of a link have a property that its index has. -/
lemma linkElements_madeOf (composes : Part.Composes good) (segments : List String)
    {index : Option Expression} (h : MadeOf good index) :
    MadeOf good (linkElements segments index) := by
  unfold linkElements
  split
  · next index last _ =>
    refine madeOf_append.2 ⟨composes.properties _, madeOf_cons.2 ⟨?_, madeOf_nil⟩⟩
    exact madeOf_element.2 (composes.plain _ rfl rfl (madeOf_parts.2 (madeOf_some.1 h)))
  · exact composes.properties segments

/-- The elements of the first link have a property that its index has, also when it names an
entity. -/
lemma leadingElements_madeOf (forms : context.Forms written asked good) (segments : List String)
    {index : Option Expression} (h : MadeOf good index) :
    MadeOf good (leadingElements context segments index) := by
  unfold leadingElements
  split
  · next index entity found =>
    refine madeOf_cons.2 ⟨madeOf_element.2 ?_, madeOf_nil⟩
    have hi := madeOf_expression.1 (madeOf_some.1 h)
    unfold Context.indexedEntity? at found
    split at found
    · cases found
    · exact forms.indexed _ entity index found hi
  · exact linkElements_madeOf forms.toComposes segments h

/-- A path has a property that its elements have. -/
lemma ofElements_madeOf (composes : Part.Composes good) {elements : List PathElement}
    (h : MadeOf good elements) {e} (made : ofElements span elements = .ok e) : MadeOf good e := by
  unfold ofElements at made
  split at made
  · next path same =>
    cases made
    exact composes.steps (composes.ofElements same h)
  · cases made

/-- A leading constant of a path is one that its name resolves to. -/
lemma leadingConstant?_ok {segments : List String} {index : Option Node} {e}
    (h : leadingConstant? context span segments index = .ok (some e)) :
    context.leadingConstant? segments = .ok (some e) := by
  unfold leadingConstant? at h
  split at h
  · cases h
  · exact except_mapError_ok.1 h

/-- A leading constant has a property of all constants whose names are written. -/
lemma leadingConstant?_madeOf (forms : context.Forms written asked good) {segments : List String}
    (named : context.options.minEnumSegments ≤ segments.length → written segments)
    {index : Option Node} {e}
    (found : leadingConstant? context span segments index = .ok (some e)) : MadeOf good e :=
  Context.leadingConstant?_madeOf forms named (leadingConstant?_ok found)

/-- A pattern match has a property that its operands have, once the escape is checked. -/
lemma like_madeOf (forms : context.Forms written asked good) {operand pattern : Expression}
    {escape : Option Expression} {negated : Bool}
    (literal : ¬ escape.any (!·.isLiteralOrParameter)) (ho : MadeOf good operand)
    (hp : MadeOf good pattern) (he : MadeOf good escape) :
    MadeOf good (Expression.predicate ⟨.like operand pattern escape, negated⟩) := by
  refine forms.wrap (madeOf_predicate.2 ?_)
  refine forms.like operand pattern escape negated ?_ (madeOf_expression.1 ho)
    (madeOf_expression.1 hp) he
  rintro e rfl
  simpa using literal

/-- The item of an ordering has a property that what it sorts by has. -/
lemma ofWritten_madeOf {e : Expression} (h : MadeOf good e) {descending nulls collation item}
    (made : QueryExpr.OrderItem.ofWritten e descending nulls collation = .ok item) :
    MadeOf good item := by
  unfold QueryExpr.OrderItem.ofWritten at made
  split at made
  · cases made
  · cases made
    exact h

/-- A frame has a property that its bounds have, once they are checked. -/
lemma check_madeOf (forms : context.Forms written asked good) {mode exclusion}
    {start : Bound Expression} {stop : Option (Bound Expression)} (hs : MadeOf good start)
    (he : MadeOf good stop) {frame}
    (made : Frame.check ⟨mode, start, stop, exclusion⟩ = .ok frame) : MadeOf good frame := by
  have same : frame = ⟨mode, start, stop, exclusion⟩ := by
    unfold Frame.check at made
    split at made
    · cases made
    · split at made
      · cases made
      · exact (Except.ok.inj made).symm
  subst same
  exact madeOf_frame.2 (forms.frame _ made hs he)

/-- A membership test of an expression has a single item that is built to a parameter and may stand
for a collection. -/
def Kind.Asks (context : Context) (kind : Kind) (e : Expression) (parameter : Parameter) : Prop :=
  ∃ negated operand item, kind = .inList negated operand [item] false ∧
    (∀ c, item.kind ≠ .call c) ∧ operand.Builds context e ∧
      item.Builds context (.parameter parameter)

/-- A membership test in a tree asks for a parameter that stands for a collection. -/
def Node.Asks (context : Context) (tree : Node) (e : Expression) (parameter : Parameter) : Prop :=
  ∃ node : Node, node.Within tree ∧ node.kind.Asks context e parameter

/-- A bare item that built to a parameter makes the test ask for it. -/
lemma Kind.Asks.of_buildAll {negated : Bool} {operand : Node} {items : List Node}
    {parenthesized : Bool} (bare : isBareItem items parenthesized) {depth : Nat} {e parameter}
    (first : (operand.build context depth).result = .ok e)
    (made : (buildAll context depth items).result = .ok [.parameter parameter]) :
    (Kind.inList negated operand items parenthesized).Asks context e parameter := by
  obtain ⟨item, rfl, rfl, other⟩ := isBareItem_iff.1 bare
  refine ⟨negated, operand, item, rfl, other, Node.builds_of_build first, ?_⟩
  simp only [buildAll, Traced.bind_ok, Traced.pure_ok] at made
  obtain ⟨built, made, _, rfl, same⟩ := made
  cases same
  exact Node.builds_of_build made

/-- The names of an alternative that are tried as constants are among those written, and what it
asks for is among that asked. -/
structure Kind.Offers (context : Context) (written : List String → Prop)
    (asked : Expression → Parameter → Prop) (kind : Kind) : Prop where
  names : ∀ segments, kind.Tries context.options.minEnumSegments segments → written segments
  marks : ∀ e parameter, kind.Asks context e parameter → asked e parameter

/-- The names of the path of an alternative are written where they are long enough to be
constants. -/
lemma Kind.Offers.paths {kind : Kind} {path : Path}
    (offers : kind.Offers context written asked) (same : kind.names = path.names) :
    ∀ segments ∈ path.names, context.options.minEnumSegments ≤ segments.length →
      written segments :=
  fun segments member enough => offers.names segments ⟨same ▸ member, .inr enough⟩

/-- The same for all alternatives of a tree. -/
def Node.Offers (context : Context) (written : List String → Prop)
    (asked : Expression → Parameter → Prop) (tree : Node) : Prop :=
  ∀ node : Node, node.Within tree → node.kind.Offers context written asked

/-- A tree offers what is tried and asked in it. -/
lemma Node.Offers.refl (tree : Node) :
    tree.Offers context (tree.Tries context.options.minEnumSegments) (tree.Asks context) :=
  fun node within => ⟨fun _ tries => ⟨node, within, tries⟩, fun _ _ asks => ⟨node, within, asks⟩⟩

namespace Node.Offers

variable {kind : Kind} {span : Span}

/-- What a tree offers, its root does. -/
lemma own (offers : Node.Offers context written asked ⟨kind, span⟩) :
    kind.Offers context written asked :=
  offers _ .refl

/-- What a tree offers, the nodes in it do. -/
lemma inner (offers : Node.Offers context written asked ⟨kind, span⟩) :
    ∀ node ∈ kind.inner, node.Offers context written asked :=
  fun _ member inside within => offers inside (.head member within)

end Node.Offers

/-! The induction follows the builder. What is built for a list, a clause or a window is made of
parts with the property as a whole, so that every step finds its operands in one piece. The dotted
names that are resolved, and the parameters that are marked, are those of the nodes on the way. -/

mutual

/-- A node builds parts with a property that the steps and the expanded macros pass on. -/
theorem Node.build_madeOf (forms : context.Forms written asked good) (depth : Nat) : ∀ node : Node,
    node.Offers context written asked →
    Gives (context.Preserves good) (MadeOf good) (node.build context depth)
  | ⟨kind, span⟩, only => by
    rw [Node.build]
    split
    · exact .fail _
    · exact Kind.build_madeOf forms (depth + 1) span kind only.own only.inner

/-- An alternative passes the property on from the nodes in it. -/
theorem Kind.build_madeOf (forms : context.Forms written asked good) (depth : Nat) (span : Span) :
    ∀ kind : Kind, kind.Offers context written asked →
    (∀ node ∈ kind.inner, node.Offers context written asked) →
    Gives (context.Preserves good) (MadeOf good) (kind.build context depth span)
  | .atom leaf, offers, _ => by
    rw [Kind.build]
    exact .lift fun e made => Atom.build_madeOf forms offers.names (except_mapError_ok.1 made)
  | .unary op operand, _, only => by
    rw [Kind.build]
    have first := List.forall_mem_singleton.1 only
    refine .bind (Node.build_madeOf forms depth operand first) fun built h => ?_
    exact .lift fun e made => UnaryOp.build_madeOf forms.toComposes h made
  | .binary op left right, _, only => by
    rw [Kind.build]
    obtain ⟨first, others⟩ := List.forall_mem_cons.1 only
    have second := List.forall_mem_singleton.1 others
    refine .bind (.lift fun _ permitted => permitted) fun _ permitted => ?_
    refine .bind (Node.build_madeOf forms depth left first) fun builtLeft hl => ?_
    refine .bind (Node.build_madeOf forms depth right second) fun builtRight hr => ?_
    exact .pure (BinaryOp.build_madeOf forms permitted hl hr)
  | .connective op left right, _, only => by
    rw [Kind.build]
    obtain ⟨first, others⟩ := List.forall_mem_cons.1 only
    have second := List.forall_mem_singleton.1 others
    refine .bind (Node.build_madeOf forms depth left first) fun builtLeft hl => ?_
    refine .bind (asPredicate_madeOf forms.toComposes left hl) fun p hp => ?_
    refine .bind (Node.build_madeOf forms depth right second) fun builtRight hr => ?_
    refine .bind (asPredicate_madeOf forms.toComposes right hr) fun q hq => ?_
    have joined := forms.join op p q (madeOf_predicate.1 hp) (madeOf_predicate.1 hq)
    exact .pure (forms.wrap (madeOf_predicate.2 joined))
  | .negation operand, _, only => by
    rw [Kind.build]
    have first := List.forall_mem_singleton.1 only
    refine .bind (Node.build_madeOf forms depth operand first) fun built h => ?_
    refine .bind (asPredicate_madeOf forms.toComposes operand h) fun p hp => ?_
    have negated := forms.negate p (madeOf_predicate.1 hp)
    exact .pure (forms.wrap (madeOf_predicate.2 negated))
  | .typeOf ⟨kind, operandSpan⟩, _, only => by
    -- the operand of a type is built only if it is a path or a parameter
    have first : Node.Offers context written asked ⟨kind, operandSpan⟩ := only _ (.head _)
    cases kind with
    | path role path =>
      cases role with
      | plain =>
        rw [Kind.build]
        have named := first.own.paths rfl
        refine .bind (Path.build_madeOf forms depth operandSpan path named first.inner) ?_
        exact fun built h => .pure (forms.expression rfl rfl (madeOf_parts.2 h))
      | _ => exact .fail _
    | atom leaf =>
      cases leaf with
      | namedParameter | positionalParameter =>
        refine .bind (Node.build_madeOf forms depth _ first) fun built h => ?_
        exact .pure (forms.expression rfl rfl (madeOf_parts.2 h))
      | _ => exact .fail _
    | _ => exact .fail _
  | .between negated operand low high, _, only => by
    rw [Kind.build]
    obtain ⟨first, others⟩ := List.forall_mem_cons.1 only
    obtain ⟨second, last⟩ := List.forall_mem_cons.1 others
    have third := List.forall_mem_singleton.1 last
    refine .bind (Node.build_madeOf forms depth operand first) fun _ ho => ?_
    refine .bind (Node.build_madeOf forms depth low second) fun _ hl => ?_
    refine .bind (Node.build_madeOf forms depth high third) fun _ hh => ?_
    exact .pure (forms.predicate rfl rfl (by simp [PredicateKind.inner, ho, hl, hh]))
  | .like negated operand pattern escape, _, only => by
    rw [Kind.build]
    obtain ⟨first, others⟩ := List.forall_mem_cons.1 only
    obtain ⟨second, third⟩ := List.forall_mem_cons.1 others
    refine .bind (buildOption_madeOf forms depth escape third) fun built he => ?_
    split
    · exact .fail _
    · next literal =>
      refine .bind (Node.build_madeOf forms depth operand first) fun _ ho => ?_
      refine .bind (Node.build_madeOf forms depth pattern second) fun _ hp => ?_
      exact .pure (like_madeOf forms literal ho hp he)
  | .inList negated operand items parenthesized, offers, only => by
    rw [Kind.build]
    obtain ⟨first, others⟩ := List.forall_mem_cons.1 only
    refine .bind (Node.build_madeOf forms depth operand first).result fun e ⟨ho, left⟩ => ?_
    refine .bind (buildAll_madeOf forms depth items others).result fun built ⟨hi, made⟩ => ?_
    refine .pure (membership_madeOf forms negated _ ?_ ho hi)
    -- what may be marked is known from what both sides built to, so the results are kept above
    rintro bare parameter rfl
    exact offers.marks e parameter (Kind.Asks.of_buildAll bare left made)
  | .simpleCase operand branches otherwise, _, only => by
    rw [Kind.build]
    obtain ⟨first, others⟩ := List.forall_mem_cons.1 only
    obtain ⟨second, third⟩ := List.forall_mem_append.1 others
    refine .bind (Node.build_madeOf forms depth operand first) fun _ ho => ?_
    refine .bind (buildBranches_madeOf forms depth branches second) fun _ hb => ?_
    refine .bind (buildOption_madeOf forms depth otherwise third) fun _ he => ?_
    exact .pure (forms.expression rfl rfl (by simp [Expression.inner, ho, hb, he]))
  | .searchedCase branches otherwise, _, only => by
    rw [Kind.build]
    obtain ⟨first, second⟩ := List.forall_mem_append.1 only
    refine .bind (buildSearched_madeOf forms depth branches first) fun built ⟨conditions, hb⟩ => ?_
    refine .bind (buildOption_madeOf forms depth otherwise second) fun _ he => ?_
    exact .pure (madeOf_expression.2 (forms.searched built _ conditions hb he))
  | .trim side character operand, _, only => by
    rw [Kind.build]
    obtain ⟨first, second⟩ := List.forall_mem_append.1 only
    have second := List.forall_mem_singleton.1 second
    refine .bind (buildOption_madeOf forms depth character first) fun _ hc => ?_
    refine .bind (Node.build_madeOf forms depth operand second) fun _ ho => ?_
    exact .pure (forms.expression rfl rfl (by simp [Expression.inner, hc, ho]))
  | .count distinct argument filter window, _, only => by
    rw [Kind.build]
    obtain ⟨others, third⟩ := List.forall_mem_append.1 only
    obtain ⟨first, second⟩ := List.forall_mem_append.1 others
    refine .bind (buildOption_madeOf forms depth argument first) fun argument ha => ?_
    refine .bind (buildFilter_madeOf forms depth filter second) fun filter hf => ?_
    refine .bind (buildOver_madeOf forms depth span window third) fun window hw => ?_
    refine place_madeOf (Invocation.resolve_madeOf forms.toComposes ?_)
    exact Invocation.madeOf_invocation.2 ⟨madeOf_toList ha, madeOf_none, hf, hw⟩
  | .call c, _, only => by
    rw [Kind.build]
    exact Call.build_madeOf forms depth span c only
  | .path role path, offers, only => by
    rw [Kind.build]
    have named := offers.paths rfl
    refine .bind (Path.build_madeOf forms depth span path named only) fun built h => ?_
    exact .lift fun e made => PathRole.build_madeOf forms.toComposes h made
  | .memberOf negated element collection, offers, only => by
    rw [Kind.build]
    have named := offers.paths rfl
    obtain ⟨first, others⟩ := List.forall_mem_cons.1 only
    refine .bind (Node.build_madeOf forms depth element first) fun e he => ?_
    refine .bind (Path.build_madeOf forms depth span collection named others) fun built h => ?_
    refine .bind (.lift fun path same => asPath_madeOf forms.toComposes h same) fun path hp => ?_
    have tested := forms.memberOf e path negated (madeOf_expression.1 he) (madeOf_path.1 hp)
    exact .pure (forms.wrap (madeOf_predicate.2 tested))
  | .applied (.constructor className) arguments, _, only => by
    rw [Kind.build]
    refine .bind (buildAll_madeOf forms depth arguments only) fun _ ha => ?_
    have first : ("NEW " ++ Dotted.join className).toList.head? = some 'N' := by simp
    exact .pure (forms.call (Case.lower_ne_of_first first (by decide) (by decide)) ha)
  | .applied (.expansion name) arguments, _, only => by
    rw [Kind.build]
    refine .bind (buildAll_madeOf forms depth arguments only) fun _ ha => ?_
    exact place_madeOf (Context.expand_madeOf name ha)

/-- Nodes built one after another pass it on together. -/
theorem buildAll_madeOf (forms : context.Forms written asked good) (depth : Nat) :
    ∀ nodes : List Node, (∀ node ∈ nodes, node.Offers context written asked) →
    Gives (context.Preserves good) (MadeOf good) (buildAll context depth nodes)
  | [], _ => by
    rw [buildAll]
    exact .pure madeOf_nil
  | node :: rest, only => by
    rw [buildAll]
    obtain ⟨first, others⟩ := List.forall_mem_cons.1 only
    refine .bind (Node.build_madeOf forms depth node first) fun _ h => ?_
    refine .bind (buildAll_madeOf forms depth rest others) fun _ hr => ?_
    exact .pure (madeOf_cons.2 ⟨h, hr⟩)

/-- A node that may be missing passes it on. -/
theorem buildOption_madeOf (forms : context.Forms written asked good) (depth : Nat) :
    ∀ node : Option Node, (∀ inner ∈ node.toList, inner.Offers context written asked) →
    Gives (context.Preserves good) (MadeOf good) (buildOption context depth node)
  | none, _ => by
    rw [buildOption]
    exact .pure madeOf_none
  | some node, only => by
    rw [buildOption]
    have first := only node (.head _)
    exact .bind (Node.build_madeOf forms depth node first) fun _ h => .pure (madeOf_some.2 h)

/-- A filter clause passes it on to the predicate that it makes. -/
theorem buildFilter_madeOf (forms : context.Forms written asked good) (depth : Nat) :
    ∀ node : Option Node, (∀ inner ∈ node.toList, inner.Offers context written asked) →
    Gives (context.Preserves good) (MadeOf good) (buildFilter context depth node)
  | none, _ => by
    rw [buildFilter]
    exact .pure madeOf_none
  | some node, only => by
    rw [buildFilter]
    refine .bind (Node.build_madeOf forms depth node (only node (.head _))) fun _ h => ?_
    refine .bind (asPredicate_madeOf forms.toComposes node h) fun _ hp => ?_
    exact .pure (madeOf_some.2 hp)

/-- The branches of a simple case expression pass it on. -/
theorem buildBranches_madeOf (forms : context.Forms written asked good) (depth : Nat) :
    ∀ branches : List Branch,
    (∀ inner ∈ branches.flatMap Branch.inner, inner.Offers context written asked) →
    Gives (context.Preserves good) (MadeOf good) (buildBranches context depth branches)
  | [], _ => by
    rw [buildBranches]
    exact .pure madeOf_nil
  | ⟨condition, result⟩ :: rest, only => by
    rw [buildBranches]
    obtain ⟨both, others⟩ := List.forall_mem_append.1 only
    obtain ⟨first, last⟩ := List.forall_mem_cons.1 both
    have second := List.forall_mem_singleton.1 last
    refine .bind (Node.build_madeOf forms depth condition first) fun _ hc => ?_
    refine .bind (Node.build_madeOf forms depth result second) fun _ hr => ?_
    refine .bind (buildBranches_madeOf forms depth rest others) fun _ hb => ?_
    exact .pure (madeOf_cons.2 ⟨madeOf_branch.2 ⟨hc, hr⟩, hb⟩)

/-- The branches of a searched case expression pass it on, and their conditions are predicates. -/
theorem buildSearched_madeOf (forms : context.Forms written asked good) (depth : Nat) :
    ∀ branches : List Branch,
    (∀ inner ∈ branches.flatMap Branch.inner, inner.Offers context written asked) →
    Gives (context.Preserves good)
      (fun built => (∀ branch ∈ built, ∃ p, branch.condition = .predicate p) ∧ MadeOf good built)
      (buildSearched context depth branches)
  | [], _ => by
    rw [buildSearched]
    exact .pure ⟨nofun, madeOf_nil⟩
  | ⟨condition, result⟩ :: rest, only => by
    rw [buildSearched]
    obtain ⟨both, others⟩ := List.forall_mem_append.1 only
    obtain ⟨first, last⟩ := List.forall_mem_cons.1 both
    have second := List.forall_mem_singleton.1 last
    refine .bind (Node.build_madeOf forms depth condition first) fun _ hc => ?_
    refine .bind (asPredicate_madeOf forms.toComposes condition hc) fun p hp => ?_
    refine .bind (Node.build_madeOf forms depth result second) fun _ hr => ?_
    refine .bind (buildSearched_madeOf forms depth rest others) fun _ ⟨conditions, hb⟩ => ?_
    refine .pure ⟨?_, madeOf_cons.2 ⟨madeOf_branch.2 ⟨forms.wrap hp, hr⟩, hb⟩⟩
    exact List.forall_mem_cons.2 ⟨⟨p, rfl⟩, conditions⟩

/-- A path passes it on from its qualifier, its indices and its leading constant. -/
theorem Path.build_madeOf (forms : context.Forms written asked good) (depth : Nat) (span : Span) :
    ∀ path : Path,
    (∀ segments ∈ path.names, context.options.minEnumSegments ≤ segments.length →
      written segments) →
    (∀ inner ∈ path.inner, inner.Offers context written asked) →
    Gives (context.Preserves good) (MadeOf good) (path.build context depth span)
  | ⟨none, []⟩, _, _ => by
    rw [Path.build]
    exact .fail _
  | ⟨none, ⟨segments, index⟩ :: links⟩, named, only => by
    rw [Path.build]
    simp only [Path.inner, Option.toList_none, List.nil_append, List.flatMap_cons,
      List.forall_mem_append] at only
    obtain ⟨first, others⟩ := only
    refine .bind (.lift fun _ _ => trivial) fun _ _ => ?_
    refine .bind (.lift fun _ found => found) fun constant found => ?_
    split
    · next e => exact .pure (leadingConstant?_madeOf forms (named segments (.head _)) found)
    · refine .bind (buildOption_madeOf forms depth index first) fun _ hi => ?_
      refine .bind (buildLinks_madeOf forms depth span links others) fun _ hl => ?_
      refine .lift fun e made => ofElements_madeOf forms.toComposes ?_ made
      exact madeOf_append.2 ⟨leadingElements_madeOf forms segments hi, hl⟩
  | ⟨some qualifier, []⟩, _, only => by
    rw [Path.build]
    exact Node.build_madeOf forms depth qualifier (only _ (.head _))
  | ⟨some qualifier, ⟨segments, index⟩ :: links⟩, _, only => by
    rw [Path.build]
    simp only [Path.inner, Option.toList_some, List.singleton_append, List.forall_mem_cons,
      List.flatMap_cons, List.forall_mem_append] at only
    obtain ⟨first, second, others⟩ := only
    refine .bind (Node.build_madeOf forms depth qualifier first) fun _ hq => ?_
    refine .bind (.lift fun _ made => startPath_madeOf forms.toComposes hq made) fun path hp => ?_
    refine .bind (.lift fun _ _ => trivial) fun _ _ => ?_
    refine .bind (buildOption_madeOf forms depth index second) fun _ hi => ?_
    refine .bind (buildLinks_madeOf forms depth span links others) fun _ hl => ?_
    have added := madeOf_append.2 ⟨linkElements_madeOf forms.toComposes segments hi, hl⟩
    have whole := forms.append path _ (madeOf_path.1 hp) added
    exact .pure (forms.steps (madeOf_path.2 whole))

/-- The later links of a path pass it on to their elements. -/
theorem buildLinks_madeOf (forms : context.Forms written asked good) (depth : Nat) (span : Span) :
    ∀ links : List Link,
    (∀ inner ∈ links.flatMap fun link => link.index.toList, inner.Offers context written asked) →
    Gives (context.Preserves good) (MadeOf good) (buildLinks context depth span links)
  | [], _ => by
    rw [buildLinks]
    exact .pure madeOf_nil
  | ⟨segments, index⟩ :: rest, only => by
    rw [buildLinks]
    obtain ⟨first, others⟩ := List.forall_mem_append.1 only
    refine .bind (.lift fun _ _ => trivial) fun _ _ => ?_
    refine .bind (buildOption_madeOf forms depth index first) fun _ hi => ?_
    refine .bind (buildLinks_madeOf forms depth span rest others) fun _ hr => ?_
    exact .pure (madeOf_append.2 ⟨linkElements_madeOf forms.toComposes segments hi, hr⟩)

/-- A call passes it on from its arguments and clauses to what it is resolved to. -/
theorem Call.build_madeOf (forms : context.Forms written asked good) (depth : Nat) (span : Span) :
    ∀ c : Call, (∀ inner ∈ c.inner, inner.Offers context written asked) →
    Gives (context.Preserves good) (MadeOf good) (c.build context depth span)
  | ⟨name, distinct, arguments, withinGroup, filter, window⟩, only => by
    rw [Call.build]
    simp only [Call.inner, List.forall_mem_append] at only
    obtain ⟨⟨⟨first, second⟩, third⟩, fourth⟩ := only
    refine .bind (buildAll_madeOf forms depth arguments first) fun _ ha => ?_
    refine .bind (buildGroup_madeOf forms depth withinGroup second) fun _ hg => ?_
    refine .bind (buildFilter_madeOf forms depth filter third) fun _ hf => ?_
    refine .bind (buildOver_madeOf forms depth span window fourth) fun _ hw => ?_
    refine place_madeOf (Invocation.resolve_madeOf forms.toComposes ?_)
    exact Invocation.madeOf_invocation.2 ⟨ha, hg, hf, hw⟩

/-- A within group clause passes it on. -/
theorem buildGroup_madeOf (forms : context.Forms written asked good) (depth : Nat) :
    ∀ items : Option (List OrderItem),
    (∀ inner ∈ (items.getD []).map OrderItem.expression, inner.Offers context written asked) →
    Gives (context.Preserves good) (MadeOf good) (buildGroup context depth items)
  | none, _ => by
    rw [buildGroup]
    exact .pure madeOf_none
  | some items, only => by
    rw [buildGroup]
    exact .bind (buildItems_madeOf forms depth items only) fun _ h => .pure (madeOf_some.2 h)

/-- The items of an ordering pass it on. -/
theorem buildItems_madeOf (forms : context.Forms written asked good) (depth : Nat) :
    ∀ items : List OrderItem,
    (∀ inner ∈ items.map OrderItem.expression, inner.Offers context written asked) →
    Gives (context.Preserves good) (MadeOf good) (buildItems context depth items)
  | [], _ => by
    rw [buildItems]
    exact .pure madeOf_nil
  | ⟨expression, descending, nulls, collation, span⟩ :: rest, only => by
    rw [buildItems]
    obtain ⟨first, others⟩ := List.forall_mem_cons.1 only
    refine .bind (Node.build_madeOf forms depth expression first) fun _ he => ?_
    refine .bind (place_madeOf (.lift fun _ made => ofWritten_madeOf he made)) fun _ h => ?_
    refine .bind (buildItems_madeOf forms depth rest others) fun _ hr => ?_
    exact .pure (madeOf_cons.2 ⟨h, hr⟩)

/-- A window passes it on, and a window that is only named has no parts. -/
theorem buildOver_madeOf (forms : context.Forms written asked good) (depth : Nat) (span : Span) :
    ∀ clause : Option Over,
    (∀ inner ∈ clause.toList.flatMap Over.inner, inner.Offers context written asked) →
    Gives (context.Preserves good) (MadeOf good) (buildOver context depth span clause)
  | none, _ => by
    rw [buildOver]
    exact .pure madeOf_none
  | some (.named name), _ => by
    rw [buildOver]
    exact .pure (madeOf_some.2 (madeOf_iff_parts.2 madeOf_nil))
  | some (.inline name partitionBy orderBy frame), only => by
    rw [buildOver]
    simp only [Option.toList_some, List.flatMap_singleton, Over.inner,
      List.forall_mem_append] at only
    obtain ⟨⟨first, second⟩, third⟩ := only
    refine .bind (buildAll_madeOf forms depth partitionBy first) fun _ hp => ?_
    refine .bind (buildItems_madeOf forms depth orderBy second) fun _ ho => ?_
    refine .bind (buildFrame_madeOf forms depth span frame third) fun _ hf => ?_
    exact .pure (madeOf_some.2 (madeOf_inline.2 ⟨hp, ho, hf⟩))

/-- A frame passes it on from its bounds. -/
theorem buildFrame_madeOf (forms : context.Forms written asked good) (depth : Nat) (span : Span) :
    ∀ frame : Option (Frame Node),
    (∀ inner ∈ frame.toList.flatMap Frame.offsets, inner.Offers context written asked) →
    Gives (context.Preserves good) (MadeOf good) (buildFrame context depth span frame)
  | none, _ => by
    rw [buildFrame]
    exact .pure madeOf_none
  | some ⟨mode, start, stop, exclusion⟩, only => by
    rw [buildFrame]
    simp only [Option.toList_some, List.flatMap_singleton, Frame.offsets,
      List.forall_mem_append] at only
    refine .bind (buildBound_madeOf forms depth start only.1) fun _ hs => ?_
    refine .bind (buildStop_madeOf forms depth stop only.2) fun _ he => ?_
    refine .bind (place_madeOf (.lift fun _ made => check_madeOf forms hs he made)) fun _ h => ?_
    exact .pure (madeOf_some.2 h)

/-- The end of a frame passes it on. -/
theorem buildStop_madeOf (forms : context.Forms written asked good) (depth : Nat) :
    ∀ bound : Option (Bound Node),
    (∀ inner ∈ bound.toList.flatMap Bound.offsets, inner.Offers context written asked) →
    Gives (context.Preserves good) (MadeOf good) (buildStop context depth bound)
  | none, _ => by
    rw [buildStop]
    exact .pure madeOf_none
  | some bound, only => by
    rw [buildStop]
    simp only [Option.toList_some, List.flatMap_singleton] at only
    exact .bind (buildBound_madeOf forms depth bound only) fun _ h => .pure (madeOf_some.2 h)

/-- A bound passes it on from what it counts from. -/
theorem buildBound_madeOf (forms : context.Forms written asked good) (depth : Nat) :
    ∀ bound : Bound Node, (∀ inner ∈ bound.offsets, inner.Offers context written asked) →
    Gives (context.Preserves good) (MadeOf good) (buildBound context depth bound)
  | .unboundedPreceding, _ | .currentRow, _ | .unboundedFollowing, _ => by
    rw [buildBound]
    exact .pure (madeOf_bound.2 madeOf_nil)
  | .preceding offset, only | .following offset, only => by
    rw [buildBound]
    refine .bind (Node.build_madeOf forms depth offset (only _ (.head _))) fun _ h => ?_
    exact .pure (madeOf_bound.2 (madeOf_cons.2 ⟨h, madeOf_nil⟩))

end

end Syntax

open Syntax in
/-- What is built for a request is made of parts with every property that the steps of a build and
the macros it expands pass on. -/
theorem Request.build_offered {request : Request}
    (forms : context.Forms (request.tree.Tries context.options.minEnumSegments)
      (request.tree.Asks context) good) (depth : Nat) :
    Gives (context.Preserves good) (MadeOf good) (request.build context depth) := by
  have built := Node.build_madeOf forms depth request.tree (.refl request.tree)
  cases request with
  | expression tree => exact built
  | predicate tree =>
    refine .bind ?_ fun p (hp : MadeOf good p) => .pure (forms.wrap hp)
    exact .bind built fun _ h => asPredicate_madeOf forms.toComposes tree h

open Syntax in
/-- The same for properties that do not depend on how a constant is written. -/
theorem Request.build_madeOf {request : Request}
    (forms : context.Forms request.tree.Writes (request.tree.Asks context) good) (depth : Nat) :
    Gives (context.Preserves good) (MadeOf good) (request.build context depth) :=
  build_offered (forms.mono (fun _ => Node.Tries.writes) fun _ _ asks => asks) depth

/-- An answer is made of parts with every property that the steps of a build and all macros pass
on. -/
theorem Session.answer_madeOf {session : Session} {request : Request}
    (forms : session.context.Forms request.tree.Writes (request.tree.Asks session.context) good)
    (macros : ∀ name, session.context.Preserves good name) {e}
    (h : (session.answer request).1 = .ok e) : MadeOf good e := by
  rw [answer_eq_report] at h
  exact Request.build_madeOf forms 0 (fun name _ => macros name) e (report_ok.1 h)

/-- An answer obeys every rule that the steps of a build and all macros keep. -/
theorem Session.answer_obeys {rule : Part → Prop} {session : Session} {request : Request}
    (kept : session.context.Keeps request.tree.Writes rule)
    (macros : ∀ name, session.context.Trusts rule name) {e}
    (h : (session.answer request).1 = .ok e) : Obeys rule e :=
  answer_madeOf kept.forms macros h

/-- A registry of a single macro expands every name that it knows with that macro. -/
lemma MacroRegistry.get?_single {name other : String} {expansion found : Expansion}
    (h : (register .empty name expansion).get? other = some found) : found = expansion := by
  have known : (if other = Case.upper name then some expansion else none) = some found :=
    (Table.get?_insert .empty _ _ _).symm.trans h
  split at known
  · exact (Option.some.inj known).symm
  · cases known

/-- Where the first argument is all that a macro stands for, every macro preserves a property that
is passed on when parts are put together. -/
lemma Context.preserves_first (composes : Part.Composes good)
    (only : context.registries.macros = Context.withFirst.registries.macros) (name : String) :
    context.Preserves good name := by
  intro expansion found
  rw [only] at found
  obtain rfl : expansion = StockMacro.first.expand := MacroRegistry.get?_single found
  exact StockMacro.first.expand_preserves composes

/-- The same for a rule that the steps of a build keep. -/
lemma Context.trusts_first {rule : Part → Prop} (kept : context.Keeps (fun _ => True) rule)
    (only : context.registries.macros = Context.withFirst.registries.macros) (name : String) :
    context.Trusts rule name :=
  preserves_first (.deeply kept.plain) only name

end QueryExpr
