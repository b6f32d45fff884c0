import Mathlib.Tactic.Lemma
import QueryExpr.Expression.Basic

/-!
# Joined predicates

What a connective makes of its sides. Only a left side that is a compound of the same connective and
not negated is taken apart; `Predicate.join_cases` says so for one step, and
`Predicate.foldl_join_cases` for any number of sides that are joined one after another.
-/

namespace QueryExpr.Predicate

variable {op : BooleanOp}

/-- A compound of the same connective that is not negated takes the right side as its last child. -/
lemma join_compound (children : List Predicate) (right : Predicate) :
    join op (positive (.compound op children)) right =
      positive (.compound op (children ++ [right])) :=
  if_pos rfl

/-- A joined predicate extends its left side, if that is a compound of the same connective that is
not negated, and otherwise has both sides as its children. -/
lemma join_cases (op : BooleanOp) (left right : Predicate) :
    (∃ inner, left = positive (.compound op inner) ∧
        join op left right = positive (.compound op (inner ++ [right]))) ∨
      (∀ inner, left ≠ positive (.compound op inner)) ∧
        join op left right = positive (.compound op [left, right]) := by
  obtain ⟨kind, negated⟩ := left
  cases negated with
  | true => exact .inr ⟨nofun, by cases kind <;> rfl⟩
  | false =>
    cases kind with
    | compound other inner =>
      by_cases same : other = op
      · subst same
        exact .inl ⟨inner, rfl, join_compound inner right⟩
      · right
        constructor
        · rintro _ ⟨⟩
          exact same rfl
        · exact if_neg same
    | _ => exact .inr ⟨nofun, rfl⟩

/-- A compound takes in the sides that are joined to it one after another. -/
lemma foldl_join_compound (children rest : List Predicate) :
    rest.foldl (join op) (positive (.compound op children)) =
      positive (.compound op (children ++ rest)) := by
  induction rest generalizing children with
  | nil => rw [List.foldl_nil, List.append_nil]
  | cons right rest ih =>
    rw [List.foldl_cons, join_compound, ih, List.append_assoc, List.singleton_append]

/-- Sides that are joined to a first one are the last children of one compound. Before them stand
the children of the first side, if that is a compound of the same connective that is not negated,
and otherwise the first side itself. -/
lemma foldl_join_cases (op : BooleanOp) (first : Predicate) {rest : List Predicate}
    (several : rest ≠ []) :
    ∃ children, rest.foldl (join op) first = positive (.compound op children) ∧
      ((∃ inner, first = positive (.compound op inner) ∧ children = inner ++ rest) ∨
        (∀ inner, first ≠ positive (.compound op inner)) ∧ children = first :: rest) := by
  cases rest with
  | nil => exact absurd rfl several
  | cons right rest =>
    rw [List.foldl_cons]
    obtain ⟨inner, same, joined⟩ | ⟨other, joined⟩ := join_cases op first right
    · refine ⟨inner ++ right :: rest, ?_, .inl ⟨inner, same, rfl⟩⟩
      rw [joined, foldl_join_compound, List.append_assoc, List.singleton_append]
    · refine ⟨first :: right :: rest, ?_, .inr ⟨other, rfl⟩⟩
      rw [joined, foldl_join_compound]
      rfl

end QueryExpr.Predicate
