import QueryExpr.Proofs.Predicate.Join

/-!
# Truth of predicates

The truth value of a predicate under given values of its tests, that is of the kinds that are
neither compound nor constant. Truth values are those of a `Logic`: the two of classical logic, or
the three of Kleene's, in which a test can be unknown. The laws of a logic are the ones that make a
conjunction or disjunction of many operands independent of how they are grouped.

Main statements: `Predicate.truth_negate` and `Predicate.truth_join` say that the negation and the
flattened connective of predicates mean what the operations of the logic mean.
-/

namespace QueryExpr

/-- Truth values with negation, conjunction and disjunction. -/
structure Logic (α : Type) where
  ofBool : Bool → α
  neg : α → α
  conj : α → α → α
  disj : α → α → α
  neg_neg (a : α) : neg (neg a) = a
  conj_assoc (a b c : α) : conj (conj a b) c = conj a (conj b c)
  conj_true (a : α) : conj a (ofBool true) = a
  true_conj (a : α) : conj (ofBool true) a = a
  disj_assoc (a b c : α) : disj (disj a b) c = disj a (disj b c)
  disj_false (a : α) : disj a (ofBool false) = a
  false_disj (a : α) : disj (ofBool false) a = a

/-- The truth values of a test that can be unknown. -/
inductive Truth where
  | no
  | unknown
  | yes
  deriving DecidableEq

namespace Truth

/-- The opposite of a truth value. -/
def neg : Truth → Truth
  | no => yes
  | unknown => unknown
  | yes => no

/-- A conjunction is as false as one of its sides. -/
def conj : Truth → Truth → Truth
  | no, _ | _, no => no
  | yes, yes => yes
  | _, _ => unknown

/-- A disjunction is as true as one of its sides. -/
def disj : Truth → Truth → Truth
  | yes, _ | _, yes => yes
  | no, no => no
  | _, _ => unknown

end Truth

namespace Logic

variable {α : Type} (logic : Logic α)

/-- Classical logic. -/
def classical : Logic Bool where
  ofBool b := b
  neg := not
  conj := and
  disj := or
  neg_neg := Bool.not_not
  conj_assoc := Bool.and_assoc
  conj_true := Bool.and_true
  true_conj := Bool.true_and
  disj_assoc := Bool.or_assoc
  disj_false := Bool.or_false
  false_disj := Bool.false_or

/-- Kleene's logic of three truth values. -/
def kleene : Logic Truth where
  ofBool
    | true => .yes
    | false => .no
  neg := .neg
  conj := .conj
  disj := .disj
  neg_neg a := by cases a <;> rfl
  conj_assoc a b c := by cases a <;> cases b <;> cases c <;> rfl
  conj_true a := by cases a <;> rfl
  true_conj a := by cases a <;> rfl
  disj_assoc a b c := by cases a <;> cases b <;> cases c <;> rfl
  disj_false a := by cases a <;> rfl
  false_disj a := by cases a <;> rfl

/-- A truth value, or its negation. -/
def polarize (negated : Bool) (a : α) : α :=
  if negated then logic.neg a else a

/-- The conjunction or disjunction of two truth values. -/
def connect : BooleanOp → α → α → α
  | .and => logic.conj
  | .or => logic.disj

/-- The conjunction or disjunction of no truth values. -/
def unit : BooleanOp → α
  | .and => logic.ofBool true
  | .or => logic.ofBool false

/-- The conjunction or disjunction of any number of truth values. -/
def connectAll (op : BooleanOp) (values : List α) : α :=
  values.foldr (logic.connect op) (logic.unit op)

variable {logic}

/-- Connectives are associative. -/
lemma connect_assoc (op : BooleanOp) (a b c : α) :
    logic.connect op (logic.connect op a b) c = logic.connect op a (logic.connect op b c) := by
  cases op with
  | and => exact logic.conj_assoc a b c
  | or => exact logic.disj_assoc a b c

/-- A connective with nothing on the right. -/
lemma connect_unit (op : BooleanOp) (a : α) : logic.connect op a (logic.unit op) = a := by
  cases op with
  | and => exact logic.conj_true a
  | or => exact logic.disj_false a

/-- A connective with nothing on the left. -/
lemma unit_connect (op : BooleanOp) (a : α) : logic.connect op (logic.unit op) a = a := by
  cases op with
  | and => exact logic.true_conj a
  | or => exact logic.false_disj a

/-- A single operand is its own conjunction and disjunction. -/
lemma connectAll_singleton (op : BooleanOp) (a : α) : logic.connectAll op [a] = a :=
  connect_unit op a

/-- Two operands are connected as such. -/
lemma connectAll_pair (op : BooleanOp) (a b : α) :
    logic.connectAll op [a, b] = logic.connect op a b := by
  show logic.connect op a (logic.connectAll op [b]) = _
  rw [connectAll_singleton]

/-- A further operand is connected to those before it. -/
lemma connectAll_concat (op : BooleanOp) (values : List α) (b : α) :
    logic.connectAll op (values ++ [b]) = logic.connect op (logic.connectAll op values) b := by
  induction values with
  | nil =>
    show logic.connectAll op [b] = logic.connect op (logic.unit op) b
    rw [connectAll_singleton, unit_connect]
  | cons a values ih =>
    show logic.connect op a (logic.connectAll op (values ++ [b])) =
      logic.connect op (logic.connect op a (logic.connectAll op values)) b
    rw [ih, connect_assoc]

end Logic

variable {α : Type} (logic : Logic α) (tests : PredicateKind → α)

mutual

/-- The truth value of a predicate, given those of its tests. -/
def Predicate.truth : Predicate → α
  | ⟨kind, negated⟩ => logic.polarize negated kind.truth

/-- The truth value of what a predicate says before negation. -/
def PredicateKind.truth : PredicateKind → α
  | .compound op children => logic.connectAll op (truths children)
  | .boolean value => logic.ofBool value
  | test => tests test

/-- The truth values of some predicates. -/
def truths : List Predicate → List α
  | [] => []
  | child :: rest => child.truth :: truths rest

end

variable {logic tests}

/-- The truth values of some predicates are those of each. -/
lemma truths_eq_map (children : List Predicate) :
    truths logic tests children = children.map (Predicate.truth logic tests) := by
  induction children with
  | nil => rw [truths, List.map_nil]
  | cons child rest ih => rw [truths, ih, List.map_cons]

namespace Predicate

/-- A predicate that holds as written is as true as its kind. -/
lemma truth_positive (kind : PredicateKind) :
    (positive kind).truth logic tests = kind.truth logic tests := by
  rw [positive, truth, Logic.polarize, if_neg Bool.false_ne_true]

/-- A flattened compound is as true as its children are together. -/
lemma truth_compound (op : BooleanOp) (children : List Predicate) :
    (positive (.compound op children)).truth logic tests =
      logic.connectAll op (children.map (truth logic tests)) := by
  rw [truth_positive, PredicateKind.truth, truths_eq_map]

/-- The negation of a predicate has the opposite truth value, also where it wraps the predicate. -/
lemma truth_negate (p : Predicate) :
    p.negate.truth logic tests = logic.neg (p.truth logic tests) := by
  obtain ⟨kind, negated⟩ := p
  cases negated with
  | false => rfl
  | true =>
    show logic.neg (PredicateKind.truth logic tests (.compound .and [⟨kind, true⟩])) = _
    rw [PredicateKind.truth, truths_eq_map, List.map_singleton, Logic.connectAll_singleton]

/-- A joined predicate means the connective of its sides, whether or not it extends the left one. -/
lemma truth_join (op : BooleanOp) (left right : Predicate) :
    (join op left right).truth logic tests =
      logic.connect op (left.truth logic tests) (right.truth logic tests) := by
  obtain ⟨children, rfl, joined⟩ | ⟨-, joined⟩ := join_cases op left right
  · -- the children of the left side and the right side are one list of operands
    rw [joined, truth_compound, truth_compound, List.map_append, List.map_singleton,
      Logic.connectAll_concat]
  · rw [joined, truth_compound, List.map_cons, List.map_singleton, Logic.connectAll_pair]

end Predicate

end QueryExpr
