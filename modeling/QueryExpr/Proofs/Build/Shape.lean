import QueryExpr.Proofs.Build.Rules
import QueryExpr.Syntax.Construct

/-!
# The shape of what is built

Conditions that the types of expressions leave open and the checks of a build ensure: what a
searched case branches on, what a pattern is escaped with, where a frame starts and ends, and which
quantifiers a comparison has. By `Session.answer_wellShaped` they hold of every part of what is
built.
-/

namespace QueryExpr

/-- A path has an element, a searched case has predicates for conditions, an escape is a literal or
a parameter, a frame does not start at the end or end at the start of all rows, and a comparison has
a quantifier only where the options allow one. -/
def Part.WellShaped (options : Options) : Part → Prop
  | path whole => whole.elements ≠ []
  | expression (.searchedCase branches _) =>
    ∀ branch ∈ branches, ∃ p, Branch.condition branch = .predicate p
  | predicate ⟨.like _ _ escape, _⟩ =>
    ∀ e, escape = some e → (∃ literal, e = .literal literal) ∨ ∃ p, e = .parameter p
  | predicate ⟨.comparison _ _ _ quantifier, _⟩ =>
    options.allowQuantifiers = false → quantifier = .one
  | frame whole => whole.start ≠ .unboundedFollowing ∧ whole.stop ≠ some .unboundedPreceding
  | _ => True

namespace Part.WellShaped

variable {options : Options}

/-- A plain part is well shaped. -/
lemma of_plain {part : Part} (plain : part.isPlain) : part.WellShaped options := by
  cases part with
  | expression e =>
    cases e with
    | searchedCase => cases plain
    | _ => trivial
  | predicate p =>
    obtain ⟨kind, negated⟩ := p
    cases kind with
    | like | comparison => cases plain
    | _ => trivial
  | path whole => exact List.cons_ne_nil _ _
  | element => trivial
  | frame => cases plain

/-- A compound has no shape of its own to keep. -/
lemma compound (op : BooleanOp) (children : List Predicate) (negated : Bool) :
    (Part.predicate ⟨.compound op children, negated⟩).WellShaped options :=
  trivial

/-- A joined predicate is well shaped. -/
lemma join (op : BooleanOp) (left right : Predicate) :
    (Part.predicate (.join op left right)).WellShaped options := by
  obtain ⟨_, -, joined⟩ | ⟨-, joined⟩ := Predicate.join_cases op left right
  · rw [joined]
    exact compound _ _ _
  · rw [joined]
    exact compound _ _ _

/-- The negation of a well shaped predicate is well shaped. -/
lemma negate {p : Predicate} (h : (Part.predicate p).WellShaped options) :
    (Part.predicate p.negate).WellShaped options := by
  obtain ⟨kind, negated⟩ := p
  cases negated with
  | true => exact compound _ _ _
  | false => cases kind <;> exact h

/-- A pattern match whose escape is a literal or a parameter is well shaped. -/
lemma escape {operand pattern : Expression} {escape : Option Expression} {negated : Bool}
    (h : ∀ e : Expression, escape = some e → e.isLiteralOrParameter) :
    (Part.predicate ⟨.like operand pattern escape, negated⟩).WellShaped options := by
  intro e same
  have allowed := h e same
  cases e with
  | literal literal => exact .inl ⟨literal, rfl⟩
  | parameter parameter => exact .inr ⟨parameter, rfl⟩
  | _ => cases allowed

/-- A frame that passes its check is well shaped. -/
lemma frame {frame : Frame Expression} (h : frame.check = .ok frame) :
    (Part.frame frame).WellShaped options := by
  unfold Frame.check at h
  split at h
  · cases h
  · next start =>
    split at h
    · cases h
    · next stop =>
      constructor
      · intro same
        rw [same] at start
        exact start rfl
      · intro same
        rw [same] at stop
        exact stop rfl

end Part.WellShaped

/-- The steps of a build make well shaped parts only. -/
lemma Context.keeps_wellShaped (context : Context) {written : List String → Prop} :
    context.Keeps written (Part.WellShaped context.options) where
  plain _ := .of_plain
  temporal _ _ _ _ := trivial
  constant segments e _ found := by
    obtain ⟨literal, rfl⟩ | ⟨parameter, rfl⟩ := enumConstant?_eq found
    · trivial
    · trivial
  entity _ _ _ := trivial
  indexed _ _ _ _ := trivial
  collectionValued _ _ := trivial
  comparison sign left right quantifier allowed := by
    have one (off : context.options.allowQuantifiers = false) : quantifier = .one := by
      obtain plain | on := allowed
      · exact plain
      · cases off.symm.trans on
    cases sign <;> exact one
  like _ _ _ _ := .escape
  join op left right _ _ := .join op left right
  negate _ := .negate
  searched _ _ conditions := conditions
  frame _ := .frame

/-- Every part of an answer is well shaped, if the macros keep to it. -/
theorem Session.answer_wellShaped {session : Session}
    (macros : ∀ name, session.context.Trusts (Part.WellShaped session.context.options) name)
    {request : Request} {e} (h : (session.answer request).1 = .ok e) {part : Part}
    (within : part.Within (.expression e)) : part.WellShaped session.context.options := by
  have obeyed := session.answer_obeys session.context.keeps_wellShaped macros h
  exact obeyed _ (.head _) part within

open Syntax in
/-- A case of a match that a macro hands on and a call over a frame, where no quantifier is allowed.
-/
theorem Session.answer_wellShaped_case :
    let names : Registries :=
      { Context.withFirst.registries with functions := .register .empty "rank" .window }
    let context : Context :=
      ⟨names, { Options.standard with allowQuantifiers := false }, Temporal.iso⟩
    let session := Session.start context ""
    let matched := Node.call "First"
      [.like (.identifier "a") (.namedParameter "p") (some (.namedParameter "e"))]
    let ranked := Node.invoke ⟨"RANK", false, [], none, none,
      some (.inline none [] [] (some ⟨.rows, .unboundedPreceding, some .currentRow, none⟩))⟩
    let request := Request.expression (Kind.searchedCase [⟨matched, ranked⟩] none).node
    let window : Window :=
      ⟨none, [], [], none, some ⟨.rows, .unboundedPreceding, some .currentRow, none⟩⟩
    let condition : QueryExpr.Predicate :=
      .positive (.like (.property "a") (.parameter (.named "p")) (some (.parameter (.named "e"))))
    let e := Expression.searchedCase
      [⟨.predicate condition, .function "RANK" [] [] (some window)⟩] none
    (∀ name, context.Trusts (Part.WellShaped context.options) name) ∧
      (session.answer request).1 = .ok e ∧
      ∀ part : Part, part.Within (.expression e) → part.WellShaped context.options := by
  intro names context session matched ranked request window condition e
  have macros (name : String) : context.Trusts (Part.WellShaped context.options) name :=
    Context.trusts_first context.keeps_wellShaped rfl name
  have built : ((Session.start context "").answer request).1 = .ok e := by
    simp only [context, names, request, e, matched, ranked]
    rfl
  exact ⟨macros, built, fun part within => answer_wellShaped macros built within⟩

end QueryExpr
