import QueryExpr.Proofs.Build.Room
import QueryExpr.Proofs.Build.Rules
import QueryExpr.Syntax.Construct

/-!
# Comparisons with types

Beside a type expression a path of properties can name an entity. `Context.Names` says when a path
does, from the elements of the path and the registered entities, and `Context.Retypes` what becomes
of an operand beside another one. Equalities, inequalities and membership tests treat each operand
by itself, as `Node.type_comparison` says. A comparison that could take a quantifier but has none is
built without that treatment: by `Node.unquantified_eq_comparison_iff` it is a plain comparison
unless an operand names an entity beside a type.
-/

namespace QueryExpr

namespace Path

/-- All elements of a list are properties if they have names. -/
lemma mapM_propertyName?_eq_some_iff {elements : List PathElement} {names : List String} :
    elements.mapM PathElement.propertyName? = some names ↔ elements = names.map .property := by
  induction elements generalizing names with
  | nil => cases names <;> simp
  | cons element rest ih =>
    rw [List.mapM_cons, Option.bind_eq_bind, Option.bind_eq_some_iff]
    constructor
    · rintro ⟨name, own, h⟩
      obtain ⟨others, later, same⟩ := Option.bind_eq_some_iff.1 h
      cases same
      rw [ih.1 later]
      cases element <;> cases own
      rfl
    · intro same
      cases names with
      | nil => cases same
      | cons name names =>
        obtain ⟨rfl, later⟩ := List.cons.inj same
        exact ⟨name, rfl, Option.bind_eq_some_iff.2 ⟨names, ih.2 later, rfl⟩⟩

/-- Only paths of properties have a dotted text. -/
lemma dotted?_eq_some_iff {path : Path} {text : String} :
    path.dotted? = some text ↔
      ∃ names, path.elements = names.map .property ∧ text = Dotted.join names := by
  rw [dotted?, Option.map_eq_some_iff]
  constructor
  · rintro ⟨names, read, rfl⟩
    exact ⟨names, mapM_propertyName?_eq_some_iff.1 read, rfl⟩
  · rintro ⟨names, only, rfl⟩
    exact ⟨names, mapM_propertyName?_eq_some_iff.2 only, rfl⟩

end Path

namespace Context

variable {context other : Context} {opposite x x' : Expression} {literal : EntityLiteral}

/-- An expression is a path of properties only whose dotted text a registered entity is found
under. -/
def Names (context : Context) (x : Expression) (literal : EntityLiteral) : Prop :=
  ∃ path names entity, x = .path path ∧ path.elements = names.map .property ∧
    context.registries.entities.get? (Dotted.join names) = some entity ∧
    literal = ⟨entity.name, entity.typeName, Dotted.join names⟩

/-- What becomes of an expression beside an opposite one: the literal of the entity that it names,
if the opposite one is a type, and otherwise itself. -/
inductive Retypes (context : Context) (opposite : Expression) : Expression → Expression → Prop where
  | entity {x : Expression} {literal : EntityLiteral} :
      opposite.isTypeOf → context.Names x literal →
        Retypes context opposite x (.literal (.entityType literal))
  | same {x : Expression} : ¬ (opposite.isTypeOf ∧ ∃ literal, context.Names x literal) →
      Retypes context opposite x x

/-- The builder reads the dotted text of a path and looks it up. -/
lemma names_iff :
    context.Names x literal ↔
      ∃ path, x = .path path ∧ path.dotted?.bind context.entity? = some literal := by
  constructor
  · rintro ⟨path, names, entity, rfl, only, found, rfl⟩
    refine ⟨path, rfl, ?_⟩
    rw [Path.dotted?_eq_some_iff.2 ⟨names, only, rfl⟩, Option.bind_some, entity?, found]
    rfl
  · rintro ⟨path, rfl, h⟩
    obtain ⟨text, read, h⟩ := Option.bind_eq_some_iff.1 h
    obtain ⟨names, only, rfl⟩ := Path.dotted?_eq_some_iff.1 read
    obtain ⟨entity, found, rfl⟩ := Option.map_eq_some_iff.1 h
    exact ⟨path, names, entity, rfl, only, found, rfl⟩

/-- The other side of a comparison with a type is replaced if it names an entity. -/
lemma typeComparand_cases (context : Context) (x : Expression) :
    (∃ literal, context.Names x literal ∧
        context.typeComparand x = .literal (.entityType literal)) ∨
      (¬ ∃ literal, context.Names x literal) ∧ context.typeComparand x = x := by
  cases x with
  | path path =>
    cases found : path.dotted?.bind context.entity? with
    | some literal =>
      refine .inl ⟨literal, names_iff.2 ⟨path, rfl, found⟩, ?_⟩
      simp only [typeComparand, found]
    | none =>
      refine .inr ⟨?_, by simp only [typeComparand, found]⟩
      rintro ⟨literal, named⟩
      obtain ⟨_, same, found'⟩ := names_iff.1 named
      cases same
      cases found.symm.trans found'
  | _ =>
    refine .inr ⟨?_, rfl⟩
    rintro ⟨_, path, _, _, same, -⟩
    cases same

/-- An expression beside an opposite one. -/
def beside (context : Context) (opposite x : Expression) : Expression :=
  if opposite.isTypeOf then context.typeComparand x else x

/-- What an operand becomes beside another one is what retyping allows. -/
lemma retypes_beside (context : Context) (opposite x : Expression) :
    context.Retypes opposite x (context.beside opposite x) := by
  unfold beside
  split
  · next type =>
    obtain ⟨literal, named, replaced⟩ | ⟨unnamed, kept⟩ := context.typeComparand_cases x
    · rw [replaced]
      exact .entity type named
    · rw [kept]
      exact .same fun h => unnamed h.2
  · next plain => exact .same fun h => plain h.1

/-- An operand is a type beside another one if it is by itself. -/
lemma Retypes.isTypeOf_eq (h : context.Retypes opposite x x') : x'.isTypeOf = x.isTypeOf := by
  cases h with
  | entity _ named =>
    obtain ⟨path, rfl, -⟩ := names_iff.1 named
    rfl
  | same => rfl

/-- An expression stays as it is unless it names an entity beside a type. -/
lemma Retypes.eq_iff (h : context.Retypes opposite x x') :
    x' = x ↔ ¬ (opposite.isTypeOf ∧ ∃ literal, context.Names x literal) := by
  cases h with
  | entity type named =>
    obtain ⟨path, rfl, -⟩ := names_iff.1 named
    exact iff_of_false nofun fun plain => plain ⟨type, _, named⟩
  | same plain => exact iff_of_true rfl plain

/-- An expression names one entity at most. -/
lemma Names.unique {literal' : EntityLiteral} (h : context.Names x literal)
    (h' : context.Names x literal') : literal = literal' := by
  obtain ⟨path, rfl, found⟩ := names_iff.1 h
  obtain ⟨_, same, found'⟩ := names_iff.1 h'
  cases same
  exact Option.some.inj (found.symm.trans found')

/-- An expression becomes one thing beside another. -/
lemma Retypes.unique {x'' : Expression} (h : context.Retypes opposite x x')
    (h' : context.Retypes opposite x x'') : x' = x'' := by
  cases h with
  | entity type named =>
    cases h' with
    | entity _ named' => rw [named.unique named']
    | same plain => exact absurd ⟨type, _, named⟩ plain
  | same plain => exact (h'.eq_iff.2 plain).symm

/-- Of a context only the entities matter, and no option does. -/
lemma beside_congr (same : other.registries.entities = context.registries.entities) :
    other.beside = context.beside := by
  funext opposite x
  have entities : other.entity? = context.entity? := by
    funext text
    rw [entity?, same, entity?]
  simp only [beside, typeComparand, entities]

end Context

namespace Syntax

variable {context : Context}

/-- The side of a comparison as it is built beside the other one. -/
def comparand (context : Context) (sign : ComparisonSign) (opposite x : Expression) : Expression :=
  if isEquality sign then context.beside opposite x else x

/-- Either side is built beside the other one as it is by itself, also the left one that comes
last. -/
lemma compare_eq (context : Context) (sign : ComparisonSign) (l r : Expression) :
    compare context sign l r =
      .predicate (.ofSign sign (comparand context sign r l) (comparand context sign l r) .one) := by
  cases equality : isEquality sign with
  | false => simp [compare, comparand, equality]
  | true =>
    have unchanged := (context.retypes_beside l r).isTypeOf_eq
    simp only [Context.beside] at unchanged
    simp only [compare, comparand, equality, Context.beside, true_and, if_true, unchanged]

/-- Apart from the mark of a single parameter the items of a membership test are built beside its
left side, each in its place. -/
lemma exists_marked (bare : Bool) (items : List Expression) :
    ∃ marked, (marked = items ∨ bare ∧ ∃ parameter, items = [.parameter parameter] ∧
        marked = [.parameter { parameter with collectionValued := true }]) ∧
      ∀ (context : Context) (negated : Bool) (operand : Expression),
        membership context negated bare operand items =
          .predicate ⟨.inList operand (marked.map (context.beside operand)), negated⟩ := by
  refine ⟨if bare then markCollection items else items, ?_, ?_⟩
  · cases bare with
    | false => exact .inl rfl
    | true =>
      obtain ⟨parameter, single, mark⟩ | same := markCollection_cases items
      · exact .inr ⟨rfl, parameter, single, mark⟩
      · exact .inl same
  · intro context negated operand
    unfold membership Context.beside
    cases operand.isTypeOf with
    | true => rfl
    | false => simp

/-- Comparisons by one sign and one quantifier are the same if both their operands are. -/
lemma ofSign_inj {sign : ComparisonSign} {l r l' r' : Expression} {quantifier : Quantifier} :
    Predicate.ofSign sign l r quantifier = .ofSign sign l' r' quantifier ↔ l = l' ∧ r = r' := by
  cases sign <;> simp [Predicate.ofSign]

/-- A plain comparison keeps both sides unless one of them names an entity beside a type. -/
lemma compare_eq_ofSign_iff {sign : ComparisonSign} {l r : Expression} :
    .predicate (.ofSign sign l r .one) = compare context sign l r ↔
      ¬ (isEquality sign ∧ (l.isTypeOf ∧ (∃ literal, context.Names r literal) ∨
        r.isTypeOf ∧ ∃ literal, context.Names l literal)) := by
  rw [compare_eq, Expression.predicate.injEq, ofSign_inj]
  cases equality : isEquality sign with
  | false =>
    simp only [comparand, equality]
    exact iff_of_true ⟨rfl, rfl⟩ nofun
  | true =>
    have first := (context.retypes_beside r l).eq_iff
    have second := (context.retypes_beside l r).eq_iff
    simp only [comparand, equality, if_true, true_and, not_or]
    rw [← first, ← second]
    exact ⟨fun ⟨h, h'⟩ => ⟨h'.symm, h.symm⟩, fun ⟨h, h'⟩ => ⟨h'.symm, h.symm⟩⟩

/-- Both sides of an operator are built first, whatever the operator is. -/
lemma Node.exists_sides (context : Context) (depth : Nat) (left right : Node) (span : Span) :
    ∃ sides : Traced Fault (Expression × Expression),
      (∀ l r, sides.result = .ok (l, r) → left.Builds context l ∧ right.Builds context r) ∧
      ∀ op : BinaryOp, op.permit context.options span = .ok () →
        Node.build context depth ⟨.binary op left right, span⟩ =
          sides >>= fun (l, r) => pure (op.build context l r) := by
  by_cases full : context.options.maxDepth ≤ depth
  · refine ⟨.fail ⟨.nesting context.options.maxDepth, span⟩, nofun, ?_⟩
    intro op _
    rw [Node.build, if_pos full]
    rfl
  · refine ⟨do
      let l ← left.build context (depth + 1)
      let r ← right.build context (depth + 1)
      return (l, r), ?_, ?_⟩
    · intro l r h
      simp only [Traced.bind_ok, Traced.pure_ok] at h
      obtain ⟨_, hl, _, hr, same⟩ := h
      cases same
      exact ⟨Node.builds_of_build hl, Node.builds_of_build hr⟩
    · intro op permitted
      rw [Node.build, if_neg full, Kind.build, permitted]
      simp only [Traced.bind_assoc, Traced.pure_bind]
      rfl

/-- The operands of a comparison for equality are treated each by itself: one that names an entity
becomes the literal of that entity if the opposite one is a type, and every other one stays as it
is. Exchanged operands are built to exchanged operands. The operands of all other comparisons stay
as they are. In a membership test each item is treated beside the left side, in its place, and apart
from that a single parameter may only be marked. What becomes of the operands depends on the
registered entities alone, and on no option of the context. -/
theorem Node.type_comparison (context : Context) :
    (∀ sign l r, ∃ l' r',
      (if isEquality sign then context.Retypes r l l' ∧ context.Retypes l r r'
        else l' = l ∧ r' = r) ∧
      ∀ other : Context, other.registries.entities = context.registries.entities →
        ∀ left right : Node, left.Builds other l → right.Builds other r →
          ∀ (request : Request) (span : Span),
            (request.tree = ⟨.binary (.comparison sign) left right, span⟩ →
              request.BuildsWithRoom other (other.options.maxDepth + 1)
                (.predicate (.ofSign sign l' r' .one))) ∧
            (request.tree = ⟨.binary (.comparison sign) right left, span⟩ →
              request.BuildsWithRoom other (other.options.maxDepth + 1)
                (.predicate (.ofSign sign r' l' .one)))) ∧
    ∀ l rs (bare : Bool), ∃ marked rs',
      (marked = rs ∨ bare ∧ ∃ parameter, rs = [.parameter parameter] ∧
        marked = [.parameter { parameter with collectionValued := true }]) ∧
      List.Forall₂ (context.Retypes l) marked rs' ∧
      ∀ other : Context, other.registries.entities = context.registries.entities →
        ∀ (operand : Node) (items : List Node) (parenthesized : Bool),
          isBareItem items parenthesized = bare →
          operand.Builds other l → List.Forall₂ (Node.Builds other) items rs →
          ∀ (request : Request) (negated : Bool) (span : Span),
            request.tree = ⟨.inList negated operand items parenthesized, span⟩ →
              request.BuildsWithRoom other (other.options.maxDepth + 1)
                (.predicate ⟨.inList l rs', negated⟩) := by
  constructor
  · intro sign l r
    refine ⟨comparand context sign r l, comparand context sign l r, ?_, ?_⟩
    · unfold comparand
      split
      · exact ⟨context.retypes_beside r l, context.retypes_beside l r⟩
      · exact ⟨rfl, rfl⟩
    · intro other same left right hl hr request span
      -- another context retypes alike, since only its entities take part
      have alike : comparand other sign = comparand context sign := by
        funext opposite x
        rw [comparand, Context.beside_congr same, comparand]
      rw [← alike]
      constructor
      · intro tree
        apply Request.buildsWithRoom_of_builds
        rw [tree, ← compare_eq]
        exact hl.of_binary hr rfl
      · intro tree
        apply Request.buildsWithRoom_of_builds
        rw [tree, ← compare_eq]
        exact hr.of_binary hl rfl
  · intro l rs bare
    obtain ⟨marked, kept, joined⟩ := exists_marked bare rs
    refine ⟨marked, marked.map (context.beside l), kept, ?_, ?_⟩
    · have each : ∀ x ∈ marked, context.Retypes l x (context.beside l x) :=
        fun x _ => context.retypes_beside l x
      exact List.forall₂_map_right_iff.2 (List.forall₂_same.2 each)
    · rintro other same operand items parenthesized rfl hl hrs request negated span tree
      apply Request.buildsWithRoom_of_builds
      rw [tree, ← Context.beside_congr same, ← joined]
      exact hl.of_inList hrs negated parenthesized

/-- A type that is compared with the name of an entity, under other thresholds in exchanged order as
well, and tested for membership in two names of which one is an entity. -/
theorem Node.type_comparison_cat :
    let entities := EntityRegistry.register .empty ⟨"Cat", "app.Cat"⟩
    let context : Context := ⟨{ Registries.empty with entities }, .standard, Temporal.iso⟩
    let thresholds := { Options.standard with minEnumSegments := 1, minEntitySegments := 9 }
    let other := { context with options := thresholds }
    let left := Node.typeOf (.dottedPath "c")
    let right := Node.dottedPath "Cat"
    let type := Expression.typeOf (.path (.property "c"))
    let cat := Expression.literal (.entityType ⟨"Cat", "app.Cat", "Cat"⟩)
    let items := [Expression.path (.property "d"), cat]
    (Request.expression (.binary (.comparison .ne) left right)).BuildsWithRoom context 513
        (.predicate (.ofSign .ne type cat .one)) ∧
      (Request.expression (.binary (.comparison .ne) right left)).BuildsWithRoom other 513
        (.predicate (.ofSign .ne cat type .one)) ∧
      (Request.expression (.inItems left [.dottedPath "d", right])).BuildsWithRoom context 513
        (.predicate ⟨.inList type items, false⟩) := by
  intro entities context thresholds other left right type cat items
  let name := Expression.path (.property "Cat")
  have named : context.Names name ⟨"Cat", "app.Cat", "Cat"⟩ :=
    ⟨.property "Cat", ["Cat"], ⟨"Cat", "app.Cat"⟩, rfl, rfl, rfl, rfl⟩
  have unnamed : ¬ ∃ literal, context.Names (.path (.property "d")) literal := by
    rintro ⟨literal, found⟩
    obtain ⟨_, same, found⟩ := Context.names_iff.1 found
    cases same
    cases found
  obtain ⟨comparisons, memberships⟩ := Node.type_comparison context
  obtain ⟨l, r, ⟨becomes, becomes'⟩, built⟩ := comparisons .ne type name
  obtain rfl : l = type := becomes.unique (.same fun h => nomatch h.1)
  obtain rfl : r = cat := becomes'.unique (.entity rfl named)
  obtain ⟨_, _, rfl | ⟨bare, -⟩, each, tested⟩ :=
    memberships type [.path (.property "d"), name] false
  · obtain _ | ⟨first, _ | ⟨second, ⟨⟩⟩⟩ := each
    obtain rfl := first.unique (.same fun h => unnamed h.2)
    obtain rfl := second.unique (.entity rfl named)
    refine ⟨(built context rfl left right rfl rfl _ _).1 rfl,
      (built other rfl left right rfl rfl _ _).2 rfl, ?_⟩
    have own : List.Forall₂ (Node.Builds context) [.dottedPath "d", right] _ :=
      .cons rfl (.cons rfl .nil)
    exact tested context rfl left _ true rfl rfl own _ false _ rfl
  · cases bare

/-- Without a quantifier a comparison expands the same macros as a plain one and fails where that
one does. It gives the same result unless the plain one is for equality and an operand of it names
an entity beside a type: that operand is left as it is. -/
theorem Node.unquantified_eq_comparison_iff (context : Context) (depth : Nat)
    (sign : ComparisonSign) (left right : Node) (span : Span) :
    let plain := Node.build context depth ⟨.binary (.comparison sign) left right, span⟩
    let bare := Node.build context depth ⟨.binary (.quantified sign none) left right, span⟩
    bare.macros = plain.macros ∧
      (∀ fault, bare.result = .error fault ↔ plain.result = .error fault) ∧
      (bare.result = plain.result ↔
        ¬ ∃ l r e, left.Builds context l ∧ right.Builds context r ∧ plain.result = .ok e ∧
          isEquality sign ∧ (l.isTypeOf ∧ (∃ literal, context.Names r literal) ∨
            r.isTypeOf ∧ ∃ literal, context.Names l literal)) := by
  intro plain bare
  -- both comparisons build their sides in the same way, and differ in the step after that
  obtain ⟨⟨result, names⟩, own, both⟩ := Node.exists_sides context depth left right span
  have plainly : plain = _ := both (.comparison sign) rfl
  have barely : bare = _ := both (.quantified sign none) rfl
  rw [plainly, barely]
  cases result with
  | error fault =>
    refine ⟨rfl, fun _ => .rfl, iff_of_true rfl ?_⟩
    rintro ⟨l, r, e, -, -, built, -⟩
    cases built
  | ok sides =>
    obtain ⟨l, r⟩ := sides
    obtain ⟨hl, hr⟩ := own l r rfl
    refine ⟨rfl, fun _ => ⟨nofun, nofun⟩, ?_⟩
    show Except.ok _ = Except.ok _ ↔ _
    rw [Except.ok.injEq]
    refine compare_eq_ofSign_iff.trans (not_congr ?_)
    constructor
    · intro h
      exact ⟨l, r, _, hl, hr, rfl, h⟩
    · rintro ⟨l', r', _, hl', hr', -, h⟩
      rw [hl.unique hl', hr.unique hr']
      exact h

/-- A comparison without a quantifier leaves the name of an entity beside a type. -/
theorem Node.unquantified_type_kept :
    let entities := EntityRegistry.register .empty ⟨"Cat", "com.example.Cat"⟩
    let context : Context := ⟨{ Registries.empty with entities }, .standard, Temporal.iso⟩
    let left := Node.typeOf (.dottedPath "c")
    let right := Node.dottedPath "Cat"
    let type := Expression.typeOf (.path (.property "c"))
    let name := Expression.path (.property "Cat")
    let cat := Expression.literal (.entityType ⟨"Cat", "com.example.Cat", "Cat"⟩)
    (Node.binary (.quantified .eq none) left right).Builds context
        (.predicate (.ofSign .eq type name .one)) ∧
      (Node.binary (.comparison .eq) left right).Builds context
        (.predicate (.ofSign .eq type cat .one)) ∧
      ((Node.binary (.quantified .eq none) left right).build context 0).result ≠
        ((Node.binary (.comparison .eq) left right).build context 0).result := by
  intro entities context left right type name cat
  have bare : (Node.binary (.quantified .eq none) left right).Builds context
      (.predicate (.ofSign .eq type name .one)) := rfl
  have plain : (Node.binary (.comparison .eq) left right).Builds context
      (.predicate (.ofSign .eq type cat .one)) := rfl
  have differ : name ≠ cat := nofun
  refine ⟨bare, plain, fun same => differ ?_⟩
  have equal := Except.ok.inj (bare.symm.trans (same.trans plain))
  exact (ofSign_inj.1 (Expression.predicate.inj equal)).2

end Syntax

end QueryExpr
