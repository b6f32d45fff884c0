import QueryExpr.Proofs.Build.Resolved
import QueryExpr.Proofs.Registry.Lookup

/-!
# Where constants come from

The enum constants of an answer are what dotted names of the tree stand for. By
`Session.answer_constants` a name that stands in a path has as many segments as the options ask for,
while a name that has to be a constant or an entity can have any number of them. A constant that is
bound to a parameter gives it a name in which the dots of the text are lost:
`Session.bound_agree_iff` says when two of these parameters carry the same constant.
-/

namespace QueryExpr

/-- A text stands for a constant that is bound to a parameter of some name. -/
def Context.Binds (context : Context) (text name : String) (value : EnumValue) : Prop :=
  context.enumConstant? text = .ok (some (.parameter (.bound name value)))

/-- The enum constants in a part are what written names stand for. -/
def Part.FromNames (context : Context) (written : List String → Prop) : Part → Prop
  | expression (.literal (.enum value text)) => ∃ segments, written segments ∧
    context.enumConstant? (Dotted.join segments) = .ok (some (.literal (.enum value text)))
  | expression (.parameter parameter) => ∀ value, parameter.value = some value →
    ∃ segments, written segments ∧ context.Binds (Dotted.join segments) parameter.name value
  | _ => True

namespace Context

variable {context : Context} {written : List String → Prop}

/-- The steps of a build make constants from the written names only. -/
lemma keeps_fromNames
    (reader : ∀ kind body literal, context.temporal kind body = .ok literal → ¬ literal.isName) :
    context.Keeps written (Part.FromNames context written) := by
  apply Keeps.of_names reader
  case other =>
    intro part other
    cases part with
    | expression e =>
      cases e with
      | literal literal =>
        cases literal with
        | enum => cases other
        | _ => trivial
      | parameter parameter =>
        intro value bound
        rw [Part.isName, bound] at other
        cases other
      | _ => trivial
    | _ => trivial
  case constant =>
    intro segments e named found
    obtain ⟨_, _, type, value, -, -, -, same⟩ := enumConstant?_ok found
    -- inline or bound, the constant stands for the segments that it was found by
    unfold enumExpression at same
    split at same
    · subst same
      exact ⟨segments, named, found⟩
    · subst same
      rintro _ ⟨⟩
      exact ⟨segments, named, found⟩
  case entity => exact fun _ _ _ => trivial
  case indexed => exact fun _ _ _ _ => trivial
  case collectionValued => exact fun _ named => named

/-- A bound constant has the name of its text with underscores, and its text names it. -/
lemma Binds.names {text name : String} {value : EnumValue} (binds : context.Binds text name value) :
    name = Dotted.underscored text ∧ context.registries.enums.Names text value := by
  obtain ⟨owner, constant, type, found, dotted, registered, known, same⟩ := enumConstant?_ok binds
  obtain ⟨typeName, rfl, -⟩ := EnumType.value?_eq_some known
  unfold enumExpression at same
  split at same
  · cases same
  · cases same
    exact ⟨rfl, owner, type, dotted, registered, typeName.symm⟩

/-- Of two constants that are bound under one name, the texts are the same if the constants are. -/
lemma Binds.eq_iff (coherent : context.registries.enums.Coherent) {text other name : String}
    {value value' : EnumValue} (first : context.Binds text name value)
    (second : context.Binds other name value') : value = value' ↔ text = other := by
  constructor
  · rintro rfl
    obtain ⟨named, owner, type, dotted, found, same⟩ := first.names
    obtain ⟨named', owner', type', dotted', found', same'⟩ := second.names
    have length : text.length = other.length := by
      rw [← Dotted.length_underscored text, ← named, named', Dotted.length_underscored]
    obtain ⟨rfl, -⟩ := Dotted.owner?_eq_some_iff.1 dotted
    obtain ⟨rfl, -⟩ := Dotted.owner?_eq_some_iff.1 dotted'
    -- the texts end in the same constant, so the names of the type are of one length as well
    have owners : owner.length = owner'.length := by
      simp only [String.length_append] at length
      omega
    rw [coherent.eq_of_length found found' (same.trans same'.symm) owners]
  · rintro rfl
    have same := Option.some.inj (Except.ok.inj (first.symm.trans second))
    cases same
    rfl

end Context

/-- An answer to a tree without macro calls obeys every rule that the steps of a build keep. -/
lemma Session.answer_deeply {rule : Part → Prop} {session : Session} {request : Request}
    (kept : session.context.Keeps
      (request.tree.Tries session.context.options.minEnumSegments) rule)
    (plain : request.tree.CallsNoMacro session.context) {e}
    (h : (session.answer request).1 = .ok e) : Part.Deeply rule (.expression e) := by
  rw [answer_eq_report] at h
  have built := request.build_offered kept.forms 0
  rw [Traced.Gives, Request.build_macros_eq_nil plain] at built
  exact madeOf_expression.1 (built (List.forall_mem_nil _) e (report_ok.1 h))

/-- The enum constants of an answer to a tree without macro calls are what names in the tree stand
for. Those in a path have the least number of segments that the options ask for. -/
theorem Session.answer_constants {session : Session}
    (reader : ∀ kind body literal, session.context.temporal kind body = .ok literal →
      ¬ literal.isName)
    {request : Request} (plain : request.tree.CallsNoMacro session.context) {e}
    (h : (session.answer request).1 = .ok e) {part : Part} (within : part.Within (.expression e)) :
    part.FromNames session.context
      (request.tree.Tries session.context.options.minEnumSegments) :=
  answer_deeply (Context.keeps_fromNames reader) plain h part within

open Syntax in
/-- A path of three segments and a name of two that has to be a constant, where a path needs three
to be one. -/
theorem Session.answer_constants_three :
    let enums := EnumRegistry.register .empty ⟨"app.Color", ["RED", "BLUE"]⟩
    let options := { Options.standard with minEnumSegments := 3 }
    let context : Context := ⟨{ Registries.empty with enums }, options, Temporal.iso⟩
    let session := Session.start context ""
    let tree := Node.binary (.comparison .eq) (.dottedPath "app.Color.BLUE") (.constant "Color.RED")
    let request := Request.predicate tree
    let blue := Expression.parameter (.bound "app_Color_BLUE" ⟨"app.Color", "BLUE", 1⟩)
    let red := Expression.parameter (.bound "Color_RED" ⟨"app.Color", "RED", 0⟩)
    let e := Expression.predicate (.ofSign .eq blue red .one)
    (∀ kind body literal, context.temporal kind body = .ok literal → ¬ literal.isName) ∧
      tree.CallsNoMacro context ∧ (session.answer request).1 = .ok e ∧
      ∀ part : Part, part.Within (.expression e) →
        part.FromNames context (tree.Tries options.minEnumSegments) := by
  intro enums options context session tree request blue red e
  have reader (kind body literal) (read : context.temporal kind body = .ok literal) :
      ¬ literal.isName := Temporal.iso_isName read
  have plain : request.tree.CallsNoMacro context :=
    Node.forall_within_leaves rfl rfl rfl rfl rfl
  have built : (session.answer request).1 = .ok e := rfl
  exact ⟨reader, plain, built, fun part within => answer_constants reader plain built within⟩

open Syntax in
/-- A name that has to be a constant or an entity is one even if it has fewer segments than the
options ask for. -/
theorem Session.short_constant_resolved :
    let enums := EnumRegistry.registerLiteral .empty ⟨"app.Color", ["RED"]⟩
    let options := { Options.standard with minEnumSegments := 4 }
    let context : Context := ⟨{ Registries.empty with enums }, options, Temporal.iso⟩
    let session := Session.start context ""
    let tree := Node.constant "Color.RED"
    let red := Expression.literal (.enum ⟨"app.Color", "RED", 0⟩ "Color.RED")
    tree.CallsNoMacro context ∧ (session.answer (.expression tree)).1 = .ok red ∧
      ¬ ∀ part : Part, part.Within (.expression red) → part.FromNames context fun segments =>
        tree.Writes segments ∧ options.minEnumSegments ≤ segments.length := by
  intro enums options context session tree red
  refine ⟨Node.forall_within rfl (List.forall_mem_nil _), rfl, fun named => ?_⟩
  obtain ⟨segments, ⟨⟨node, within, member⟩, enough⟩, -⟩ := named _ .refl
  have two : ∀ node : Node, node.Within tree → ∀ segments ∈ node.kind.names, segments.length = 2 :=
    Node.forall_within (List.forall_mem_singleton.2 rfl) (List.forall_mem_nil _)
  rw [two node within segments member] at enough
  exact absurd enough (by decide)

/-- A parameter of some name in an expression is bound to a constant. -/
def Expression.Binds (e : Expression) (name : String) (value : EnumValue) : Prop :=
  ∃ parameter : Parameter, (Part.expression (.parameter parameter)).Within (.expression e) ∧
    parameter.name = name ∧ parameter.value = some value

/-- Of two constants that are bound to parameters of one name, the texts that stand for them are the
same just if the constants are. Those in an answer to a tree without macro calls are bound by names
that the tree is written with, so they are the same if no name in the tree has an underscore. -/
theorem Session.bound_agree_iff {session : Session} {history : List EnumRegistration}
    (registered : session.context.registries.enums = .ofHistory history)
    (reader : ∀ kind body literal, session.context.temporal kind body = .ok literal →
      ¬ literal.isName) :
    (∀ text other name value value', session.context.Binds text name value →
      session.context.Binds other name value' → (value = value' ↔ text = other)) ∧
    ∀ (request : Request) e, request.tree.CallsNoMacro session.context →
      (session.answer request).1 = .ok e → ∀ name value value', e.Binds name value →
      e.Binds name value' →
        (∃ segments others, request.tree.Writes segments ∧ request.tree.Writes others ∧
          session.context.Binds (Dotted.join segments) name value ∧
          session.context.Binds (Dotted.join others) name value' ∧
          (value = value' ↔ Dotted.join segments = Dotted.join others)) ∧
        ((∀ segments, request.tree.Writes segments → '_' ∉ (Dotted.join segments).toList) →
          value = value') := by
  have coherent : session.context.registries.enums.Coherent :=
    registered ▸ EnumRegistry.Coherent.ofHistory history
  refine ⟨fun _ _ _ _ _ first second => first.eq_iff coherent second, ?_⟩
  intro request e plain h name value value' bound bound'
  -- each constant in the answer goes back to a name that stands in the tree
  have origin {value : EnumValue} (bound : e.Binds name value) :
      ∃ segments, request.tree.Writes segments ∧
        session.context.Binds (Dotted.join segments) name value := by
    obtain ⟨parameter, within, rfl, carried⟩ := bound
    have named := answer_deeply (Context.keeps_fromNames reader) plain h _ within
    obtain ⟨segments, tries, binds⟩ := named value carried
    exact ⟨segments, tries.writes, binds⟩
  obtain ⟨segments, writes, binds⟩ := origin bound
  obtain ⟨others, writes', binds'⟩ := origin bound'
  have agree := binds.eq_iff coherent binds'
  refine ⟨⟨segments, others, writes, writes', binds, binds', agree⟩, fun clean => agree.2 ?_⟩
  obtain ⟨named, -⟩ := binds.names
  obtain ⟨named', -⟩ := binds'.names
  -- without underscores of their own, names with the same underscores are the same
  exact Dotted.eq_of_underscored (clean segments writes) (clean others writes')
    (named.symm.trans named')

open Syntax in
/-- All parameters of one name carry the constant that one of them does. -/
theorem Session.bound_agree_iff_red :
    let history := [EnumRegistration.plain ⟨"app.Color", ["RED", "BLUE"]⟩]
    let context : Context :=
      ⟨{ Registries.empty with enums := .ofHistory history }, .standard, Temporal.iso⟩
    let session := Session.start context ""
    let tree := Node.binary (.comparison .eq) (.dottedPath "Color.RED") (.constant "Color.RED")
    let red : EnumValue := ⟨"app.Color", "RED", 0⟩
    let parameter := Expression.parameter (.bound "Color_RED" red)
    let e := Expression.predicate (.ofSign .eq parameter parameter .one)
    (∀ kind body literal, context.temporal kind body = .ok literal → ¬ literal.isName) ∧
      tree.CallsNoMacro context ∧ (session.answer (.predicate tree)).1 = .ok e ∧
      e.Binds "Color_RED" red ∧ ∀ value, e.Binds "Color_RED" value → red = value := by
  intro history context session tree red parameter e
  have reader (kind body literal) (read : context.temporal kind body = .ok literal) :
      ¬ literal.isName := Temporal.iso_isName read
  have plain : tree.CallsNoMacro context := Node.forall_within_leaves rfl rfl rfl rfl rfl
  have built : (session.answer (.predicate tree)).1 = .ok e := rfl
  have bound : e.Binds "Color_RED" red := by
    have condition : (Part.predicate (.ofSign .eq parameter parameter .one)).Within
        (.expression e) := .single (.head _)
    exact ⟨_, condition.tail (.head _), rfl, rfl⟩
  have clean : ∀ node : Node, node.Within tree →
      ∀ segments ∈ node.kind.names, '_' ∉ (Dotted.join segments).toList :=
    Node.forall_within_leaves rfl rfl (List.forall_mem_nil _) (by decide) (by decide)
  have registered : session.context.registries.enums = .ofHistory history := rfl
  obtain ⟨-, answers⟩ := bound_agree_iff registered reader
  have agree := fun value other => answers (.predicate tree) e plain built _ red value bound other
  refine ⟨reader, plain, built, bound, fun value other => (agree value other).2 ?_⟩
  rintro segments ⟨node, within, member⟩
  exact clean node within segments member

open Syntax in
/-- Two types of which one has an underscore where the other one has a dot before its constant. -/
theorem Session.bound_names_collide :
    let enums := EnumRegistry.register (.register .empty ⟨"size", ["BIG_S"]⟩) ⟨"size_BIG", ["S"]⟩
    let context : Context := ⟨{ Registries.empty with enums }, .standard, Temporal.iso⟩
    let session := Session.start context ""
    let tree := Node.binary (.comparison .eq) (.dottedPath "size.BIG_S") (.dottedPath "size_BIG.S")
    let first := Expression.parameter (.bound "size_BIG_S" ⟨"size", "BIG_S", 0⟩)
    let second := Expression.parameter (.bound "size_BIG_S" ⟨"size_BIG", "S", 0⟩)
    let e := Expression.predicate (.ofSign .eq first second .one)
    tree.CallsNoMacro context ∧ (session.answer (.predicate tree)).1 = .ok e ∧
      ¬ ∀ name value value', e.Binds name value → e.Binds name value' → value = value' := by
  intro enums context session tree first second e
  refine ⟨Node.forall_within_leaves rfl rfl rfl rfl rfl, rfl, fun agree => ?_⟩
  have condition : (Part.predicate (.ofSign .eq first second .one)).Within (.expression e) :=
    .single (.head _)
  have bound : e.Binds "size_BIG_S" ⟨"size", "BIG_S", 0⟩ :=
    ⟨_, condition.tail (.head _), rfl, rfl⟩
  have bound' : e.Binds "size_BIG_S" ⟨"size_BIG", "S", 0⟩ :=
    ⟨_, condition.tail (.tail _ (.head _)), rfl, rfl⟩
  have same := congrArg EnumValue.typeName (agree _ _ _ bound bound')
  exact absurd same (by decide)

end QueryExpr
