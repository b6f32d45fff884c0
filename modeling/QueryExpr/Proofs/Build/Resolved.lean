import QueryExpr.Proofs.Build.Blame
import QueryExpr.Proofs.Build.Rules
import QueryExpr.Proofs.Registry.Enum
import QueryExpr.Syntax.Construct

/-!
# Resolved names

The enum constants and entities of an answer are those of the registries, and are called by the
names that the tree is written with. By `Session.answer_resolved` this holds of every part of an
answer, whatever types were registered in whatever order.
-/

namespace QueryExpr

/-- Enum constants and entities. -/
def Literal.isName : Literal → Bool
  | enum _ _ | entityType _ => true
  | _ => false

/-- The reader of the ISO forms never reads a name. -/
lemma Temporal.iso_isName {kind body literal} (h : iso kind body = .ok literal) :
    ¬ literal.isName := by
  unfold iso at h
  split at h
  · next read =>
    cases h
    obtain ⟨text, -, read⟩ := Option.bind_eq_some_iff.1 read
    cases kind <;> obtain ⟨_, -, rfl⟩ := Option.map_eq_some_iff.1 read <;> exact Bool.false_ne_true
  · cases h

/-- Enum constants and entities, also where they are bound to a parameter or stand under an
index. -/
def Part.isName : Part → Bool
  | expression (.literal literal) => literal.isName
  | expression (.parameter parameter) => parameter.value.isSome
  | element (.indexed (.entity _) _) => true
  | _ => false

/-- A plain part is no name. -/
lemma Part.not_isName_of_isPlain {part : Part} (plain : part.isPlain) : part.isName = false := by
  cases part with
  | expression e =>
    cases e with
    | literal literal =>
      cases literal with
      | enum | entityType => cases plain
      | _ => rfl
    | parameter parameter =>
      obtain ⟨free, -⟩ := Bool.and_eq_true_iff.1 plain
      rw [isName, Option.isNone_iff_eq_none.1 free]
      rfl
    | _ => rfl
  | element element =>
    cases element with
    | indexed base index =>
      cases base with
      | entity => cases plain
      | property => rfl
    | _ => rfl
  | _ => rfl

/-- A dotted name is that of a constant after some name of its type. -/
def EnumRegistry.Names (registry : EnumRegistry) (text : String) (value : EnumValue) : Prop :=
  ∃ owner type, Dotted.owner? text = some (owner, value.constant) ∧
    registry.get? owner = some type ∧ type.name = value.typeName

/-- A constant of a type that is written inline is a literal, and one of another type is a parameter
that has its name from the written text. Both are written in the tree. An entity is the one found
under its text. -/
def Part.Resolved (registries : Registries) (written : List String → Prop) : Part → Prop
  | expression (.literal (.enum value text)) =>
    registries.enums.Holds true value ∧
      ∃ segments, written segments ∧ text = Dotted.join segments ∧ registries.enums.Names text value
  | expression (.parameter parameter) =>
    ∀ value, parameter.value = some value → registries.enums.Holds false value ∧
      ∃ segments, written segments ∧
        parameter.name = Dotted.underscored (Dotted.join segments) ∧
        registries.enums.Names (Dotted.join segments) value
  | expression (.literal (.entityType entity)) | element (.indexed (.entity entity) _) =>
    registries.entities.get? entity.writtenText = some ⟨entity.entityName, entity.typeName⟩
  | _ => True

namespace Context

variable {context : Context} {written : List String → Prop}

/-- A resolved entity is registered under the text that it is written with. -/
lemma entity?_eq_some {text entity} (h : context.entity? text = some entity) :
    context.registries.entities.get? entity.writtenText =
      some ⟨entity.entityName, entity.typeName⟩ := by
  obtain ⟨type, found, rfl⟩ := Option.map_eq_some_iff.1 h
  exact found

/-- A constant that a written name resolves to is resolved as its type is registered. -/
lemma enumConstant?_resolved (coherent : context.registries.enums.Coherent) {segments}
    (named : written segments) {e}
    (h : context.enumConstant? (Dotted.join segments) = .ok (some e)) :
    (Part.expression e).Resolved context.registries written := by
  obtain ⟨owner, name, type, value, dotted, found, known, rfl⟩ := enumConstant?_ok h
  have holds := coherent.holds found known
  obtain ⟨typeName, rfl, -⟩ := EnumType.value?_eq_some known
  have names : context.registries.enums.Names (Dotted.join segments) value :=
    ⟨owner, type, dotted, found, typeName.symm⟩
  unfold enumExpression
  split
  · next inline =>
    rw [inline] at holds
    exact ⟨holds, segments, named, rfl, names⟩
  · next bound =>
    rw [eq_false_of_ne_true bound] at holds
    rintro _ ⟨⟩
    exact ⟨holds, segments, named, rfl, names⟩

/-- A rule about names is kept by the steps of a build if all names that are looked up satisfy
it. -/
lemma Keeps.of_names {rule : Part → Prop}
    (reader : ∀ kind body literal, context.temporal kind body = .ok literal → ¬ literal.isName)
    (other : ∀ part : Part, part.isName = false → rule part)
    (constant : ∀ segments e, written segments →
      context.enumConstant? (Dotted.join segments) = .ok (some e) → rule (.expression e))
    (entity : ∀ text entity, context.entity? text = some entity →
      rule (.expression (.literal (.entityType entity))))
    (indexed : ∀ text entity index, context.entity? text = some entity →
      rule (.element (.indexed (.entity entity) index)))
    (collectionValued : ∀ parameter : Parameter, rule (.expression (.parameter parameter)) →
      rule (.expression (.parameter { parameter with collectionValued := true }))) :
    context.Keeps written rule where
  plain part plain := other part (Part.not_isName_of_isPlain plain)
  temporal kind body literal read :=
    other (.expression (.literal literal)) (Bool.eq_false_iff.2 (reader kind body literal read))
  constant := constant
  entity := entity
  indexed := indexed
  collectionValued := collectionValued
  comparison _ _ _ _ _ := other _ rfl
  like _ _ _ _ _ := other _ rfl
  join _ _ _ _ _ := other _ rfl
  negate _ _ := other _ rfl
  searched _ _ _ := other _ rfl
  frame _ _ := other _ rfl

/-- The steps of a build make resolved parts only, if no date or time is read as a name. -/
lemma keeps_resolved (coherent : context.registries.enums.Coherent)
    (reader : ∀ kind body literal, context.temporal kind body = .ok literal → ¬ literal.isName) :
    context.Keeps written (Part.Resolved context.registries written) := by
  apply Keeps.of_names reader
  case other =>
    intro part other
    -- the rule asks for something only of constants and entities, which are names
    cases part with
    | expression e =>
      cases e with
      | literal literal =>
        cases literal with
        | enum | entityType => cases other
        | _ => trivial
      | parameter parameter =>
        intro value bound
        rw [Part.isName, bound] at other
        cases other
      | _ => trivial
    | element element =>
      cases element with
      | indexed base index =>
        cases base with
        | entity => cases other
        | property => trivial
      | _ => trivial
    | _ => trivial
  case constant => exact fun _ _ named => enumConstant?_resolved coherent named
  case entity => exact fun _ _ => entity?_eq_some
  case indexed => exact fun _ _ _ => entity?_eq_some
  case collectionValued => exact fun _ resolved => resolved

end Context

/-- The enum constants and entities of an answer to a tree without macro calls are those of the
registries, called as they are written in the tree. The enum types may have been registered in any
order and any number of times. -/
theorem Session.answer_resolved {session : Session} {history : List EnumRegistration}
    (registered : session.context.registries.enums = .ofHistory history)
    (reader : ∀ kind body literal, session.context.temporal kind body = .ok literal →
      ¬ literal.isName)
    {request : Request} (plain : request.tree.CallsNoMacro session.context) {e}
    (h : (session.answer request).1 = .ok e) {part : Part} (within : part.Within (.expression e)) :
    part.Resolved session.context.registries request.tree.Writes := by
  have coherent : session.context.registries.enums.Coherent :=
    registered ▸ EnumRegistry.Coherent.ofHistory history
  rw [answer_eq_report] at h
  have built := request.build_madeOf (Context.keeps_resolved coherent reader).forms 0
  rw [Traced.Gives, Request.build_macros_eq_nil plain] at built
  have resolved := madeOf_expression.1 (built (List.forall_mem_nil _) e (report_ok.1 h))
  exact resolved part within

open Syntax in
/-- Constants of a type that was registered twice and of one that is written inline, and the type of
a path compared with an entity. -/
theorem Session.answer_resolved_both :
    let history : List EnumRegistration := [.plain ⟨"app.Color", ["RED", "BLUE"]⟩,
      .literal ⟨"app.Size", ["S", "L"]⟩, .plain ⟨"app.Color", ["BLUE"]⟩]
    let registries : Registries :=
      ⟨.empty, .ofHistory history, .register .empty ⟨"Cat", "app.Cat"⟩, .empty⟩
    let context : Context := ⟨registries, .standard, Temporal.iso⟩
    let session := Session.start context ""
    let constants := Node.binary (.comparison .eq) (.dottedPath "Color.BLUE") (.constant "Size.L")
    let types := Node.binary (.comparison .eq) (.typeOf (.dottedPath "c")) (.dottedPath "Cat")
    let request := Request.predicate (.connective .and constants types)
    let blue := Expression.parameter (.bound "Color_BLUE" ⟨"app.Color", "BLUE", 0⟩)
    let large := Expression.literal (.enum ⟨"app.Size", "L", 1⟩ "Size.L")
    let cat := Expression.literal (.entityType ⟨"Cat", "app.Cat", "Cat"⟩)
    let e := Expression.predicate (.positive (.compound .and [.ofSign .eq blue large .one,
      .ofSign .eq (.typeOf (.property "c")) cat .one]))
    (∀ kind body literal, context.temporal kind body = .ok literal → ¬ literal.isName) ∧
      request.tree.CallsNoMacro context ∧ (session.answer request).1 = .ok e ∧
      ∀ part : Part, part.Within (.expression e) →
        part.Resolved context.registries request.tree.Writes := by
  intro history registries context session constants types request blue large cat e
  have reader (kind body literal) (read : context.temporal kind body = .ok literal) :
      ¬ literal.isName := Temporal.iso_isName read
  have leaf {node : Node} (alone : node.kind.inner = [])
      (none : node.kind.macro? context = none) : node.CallsNoMacro context :=
    Node.forall_within none (alone ▸ List.forall_mem_nil _)
  have left : constants.CallsNoMacro context := Node.forall_within rfl
    (List.forall_mem_cons.2 ⟨leaf rfl rfl, List.forall_mem_singleton.2 (leaf rfl rfl)⟩)
  have type : (Node.typeOf (.dottedPath "c")).CallsNoMacro context :=
    Node.forall_within rfl (List.forall_mem_singleton.2 (leaf rfl rfl))
  have right : types.CallsNoMacro context := Node.forall_within rfl
    (List.forall_mem_cons.2 ⟨type, List.forall_mem_singleton.2 (leaf rfl rfl)⟩)
  have plain : request.tree.CallsNoMacro context := Node.forall_within rfl
    (List.forall_mem_cons.2 ⟨left, List.forall_mem_singleton.2 right⟩)
  have built : (session.answer request).1 = .ok e := rfl
  have registered : session.context.registries.enums = .ofHistory history := rfl
  exact ⟨reader, plain, built, fun part within =>
    answer_resolved registered reader plain built within⟩

end QueryExpr
