import QueryExpr.Proofs.Build.Rules
import QueryExpr.Syntax.Construct

/-!
# The normal form of compound predicates

A compound that a build makes has at least two children and does not start with a compound that it
would have taken in, or else it is the second negation of a predicate. The connectives and the
negation keep this, and no other step makes a compound, so by `Session.compounds_normal` it holds of
every compound anywhere in what is built.
-/

namespace QueryExpr

namespace Predicate

/-- A compound has at least two children, of which the first is no positive compound of the same
connective, or it negates the conjunction of a single negated predicate. -/
def IsNormal (predicate : Predicate) : Prop :=
  ∀ op children, predicate.kind = .compound op children →
    2 ≤ children.length ∧ (∀ inner, children.head? ≠ some ⟨.compound op inner, false⟩) ∨
      predicate.negated ∧ op = .and ∧ ∃ child, children = [child] ∧ child.negated

namespace IsNormal

/-- A predicate that is no compound is in normal form. -/
lemma of_simple {predicate : Predicate} (h : predicate.connective? = none) :
    predicate.IsNormal := by
  intro op children same
  rw [connective?, same] at h
  cases h

/-- A compound that holds as written has at least two children. -/
lemma positive {op children} (h : IsNormal ⟨.compound op children, false⟩) :
    2 ≤ children.length ∧ ∀ inner, children.head? ≠ some ⟨.compound op inner, false⟩ := by
  obtain several | ⟨negated, -⟩ := h op children rfl
  · exact several
  · cases negated

/-- Joining to a predicate in normal form gives one in normal form, whatever the right side. -/
lemma join {op : BooleanOp} {left right : Predicate} (h : left.IsNormal) :
    (Predicate.join op left right).IsNormal := by
  obtain ⟨children, rfl, joined⟩ | ⟨new, joined⟩ := Predicate.join_cases op left right
  · -- the first child stays the first one, since there is one
    obtain ⟨several, first⟩ := h.positive
    rw [joined]
    intro op' children' same
    cases same
    left
    constructor
    · rw [List.length_append]
      omega
    · cases children with
      | nil => cases several
      | cons child rest => exact first
  · rw [joined]
    intro op' children same
    cases same
    exact .inl ⟨le_rfl, fun inner first => new inner (Option.some.inj first)⟩

/-- The negation of a predicate in normal form is in normal form. -/
lemma negate {predicate : Predicate} (h : predicate.IsNormal) : predicate.negate.IsNormal := by
  unfold Predicate.negate
  split
  · next negated =>
    intro op children same
    cases same
    exact .inr ⟨rfl, rfl, predicate, rfl, negated⟩
  · next positive =>
    intro op children same
    obtain several | ⟨negated, -⟩ := h op children same
    · exact .inl several
    · exact absurd negated positive

end IsNormal

end Predicate

/-- Predicates are in normal form. -/
def Part.IsNormal (part : Part) : Prop :=
  ∀ p, part = .predicate p → p.IsNormal

/-- The steps of a build make predicates in normal form only. -/
lemma Context.keeps_isNormal (context : Context) {written : List String → Prop} :
    context.Keeps written Part.IsNormal where
  plain part plain := by
    rintro ⟨kind, negated⟩ rfl
    cases kind with
    | compound op children => cases plain
    | _ => exact .of_simple rfl
  temporal _ _ _ _ := nofun
  constant _ _ _ _ := nofun
  entity _ _ _ := nofun
  indexed _ _ _ _ := nofun
  collectionValued _ _ := nofun
  comparison sign left right quantifier _ := by
    rintro _ ⟨⟩
    cases sign <;> exact .of_simple rfl
  like _ _ _ _ _ := by
    rintro _ ⟨⟩
    exact .of_simple rfl
  join op left right hl _ := by
    rintro _ ⟨⟩
    exact (hl left rfl).join
  negate p h := by
    rintro _ ⟨⟩
    exact (h p rfl).negate
  searched _ _ _ := nofun
  frame _ _ := nofun

/-- Every compound anywhere in an answer is in normal form, if the macros keep it. In particular it
has children, and if it has just one it negates a conjunction. -/
theorem Session.compounds_normal {session : Session}
    (macros : ∀ name, session.context.Trusts Part.IsNormal name) {request : Request} {e}
    (h : (session.answer request).1 = .ok e) {predicate : Predicate}
    (within : Part.Within (.predicate predicate) (.expression e)) :
    predicate.IsNormal ∧ ∀ op children, predicate.kind = .compound op children →
      children ≠ [] ∧ (children.length = 1 → predicate.negated ∧ op = .and) := by
  have obeyed := session.answer_obeys session.context.keeps_isNormal macros h
  have normal : predicate.IsNormal := obeyed _ (.head _) _ within _ rfl
  refine ⟨normal, fun op children same => ?_⟩
  obtain ⟨several, -⟩ | ⟨negated, conjunction, child, rfl, -⟩ := normal op children same
  · refine ⟨?_, fun single => by omega⟩
    rintro rfl
    cases several
  · exact ⟨nofun, fun _ => ⟨negated, conjunction⟩⟩

open Syntax in
/-- A conjunction of three that a macro hands on, negated twice. -/
theorem Session.compounds_normal_twice_negated :
    let session := Session.start .withFirst ""
    let leaf := Predicate.positive (.boolean true)
    let negated : Predicate := ⟨.compound .and [leaf, leaf, leaf], true⟩
    let tree := Node.call "First"
      [.connective .and (.connective .and (.boolean true) (.boolean true)) (.boolean true)]
    let request := Request.predicate (.negation (.negation tree))
    let e := Expression.predicate ⟨.compound .and [negated], true⟩
    (∀ name, session.context.Trusts Part.IsNormal name) ∧ (session.answer request).1 = .ok e ∧
      Part.Within (.predicate negated) (.expression e) ∧ negated.IsNormal := by
  intro session leaf negated tree request e
  have macros : ∀ name, Context.withFirst.Trusts Part.IsNormal name :=
    Context.trusts_first Context.withFirst.keeps_isNormal rfl
  have built : ((Session.start .withFirst "").answer request).1 = .ok e := rfl
  have within : Part.Within (.predicate negated) (.expression e) :=
    .head (.head _) (.head (.head _) .refl)
  exact ⟨macros, built, within, (compounds_normal macros built within).1⟩

end QueryExpr
