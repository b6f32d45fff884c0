import Mathlib.Data.List.Forall2
import QueryExpr.Proofs.Build.Inversion
import QueryExpr.Syntax.Construct

/-!
# Operands of concatenations

A tree of concatenations, with parentheses and plus signs between them, is built to one call that
takes in the calls its sides are built to. The operands of an expression are what remains after the
arguments of concatenation calls are put in their place. The theorem `Node.operands_eq_flatMap` says
that a build keeps the operands of the leaves and their order. It does not always flatten them: of
two calls the right one becomes the last argument of the left one. By `Node.concatenation_flat_iff`
the arguments are the built leaves just for the trees in which no concatenation has a concatenation
on both sides.
-/

namespace QueryExpr

namespace Expression

/-- Calls that concatenate. -/
def isConcat : Expression → Bool
  | function name .. => isConcatName name
  | _ => false

mutual

/-- What an expression concatenates: the operands of the arguments of a concatenation call, and any
other expression itself. -/
def operands : Expression → List Expression
  | function name arguments orderBy window =>
    if isConcatName name then operandsAll arguments
    else [function name arguments orderBy window]
  | expression => [expression]

/-- What some expressions concatenate together. -/
def operandsAll : List Expression → List Expression
  | [] => []
  | expression :: rest => expression.operands ++ operandsAll rest

end

/-- The operands of some expressions are those of each. -/
lemma operandsAll_eq_flatMap (expressions : List Expression) :
    operandsAll expressions = expressions.flatMap operands := by
  induction expressions with
  | nil => rw [operandsAll, List.flatMap_nil]
  | cons expression rest ih => rw [operandsAll, ih, List.flatMap_cons]

/-- The operands of a concatenation call are those of its arguments. -/
lemma operands_function {name orderBy window} (h : isConcatName name = true)
    (arguments : List Expression) :
    (function name arguments orderBy window).operands = arguments.flatMap operands := by
  rw [operands, if_pos h, operandsAll_eq_flatMap]

/-- The operands of a call that a concatenation builds are those of its arguments. -/
lemma operands_call (arguments : List Expression) :
    (call concatName arguments).operands = arguments.flatMap operands :=
  operands_function rfl arguments

/-- A concatenation call is a function of that name. -/
lemma eq_function_of_isConcat {e : Expression} (h : e.isConcat = true) :
    ∃ name arguments orderBy window,
      e = function name arguments orderBy window ∧ isConcatName name = true := by
  cases e with
  | function name arguments orderBy window => exact ⟨name, arguments, orderBy, window, rfl, h⟩
  | _ => cases h

/-- An expression that is no concatenation call is its only operand. -/
lemma operands_eq_singleton {e : Expression} (h : e.isConcat = false) : e.operands = [e] := by
  cases e with
  | function name arguments orderBy window =>
    have differs : ¬ isConcatName name = true := Bool.eq_false_iff.1 h
    rw [operands, if_neg differs]
  | _ => rfl

/-- Expressions of which none is a concatenation call are their operands. -/
lemma flatMap_operands {expressions : List Expression}
    (h : ∀ e ∈ expressions, e.isConcat = false) : expressions.flatMap operands = expressions := by
  induction expressions with
  | nil => rfl
  | cons e rest ih =>
    have tail : rest.flatMap operands = rest := ih fun e' member => h e' (.tail _ member)
    rw [List.flatMap_cons, operands_eq_singleton (h e (.head _)), tail, List.singleton_append]

/-- A concatenation call on the left takes the right side as its last argument. -/
lemma concatenate_function {name orderBy window} (named : isConcatName name = true)
    (arguments : List Expression) (right : Expression) :
    concatenate (function name arguments orderBy window) right =
      function name (arguments ++ [right]) orderBy window := by
  rw [concatenate, if_pos named]

/-- Without a concatenation call on the left, the right side decides. -/
lemma concatenate_eq_prepend {left : Expression} (h : left.isConcat = false) (right : Expression) :
    concatenate left right = prepend left right := by
  cases left with
  | function name arguments orderBy window =>
    have other : ¬ isConcatName name = true := Bool.eq_false_iff.1 h
    rw [concatenate, if_neg other]
  | _ => rfl

/-- A concatenation call on the right takes the left side as its first argument. -/
lemma prepend_function {name orderBy window} (named : isConcatName name = true) (left : Expression)
    (arguments : List Expression) :
    prepend left (function name arguments orderBy window) =
      function name (left :: arguments) orderBy window := by
  rw [prepend, if_pos named]

/-- Without a concatenation call on the right, there is a new one. -/
lemma prepend_eq_call {right : Expression} (h : right.isConcat = false) (left : Expression) :
    prepend left right = call concatName [left, right] := by
  cases right with
  | function name arguments orderBy window =>
    have other : ¬ isConcatName name = true := Bool.eq_false_iff.1 h
    rw [prepend, if_neg other]
  | _ => rfl

/-- The operands of a concatenation are those of its left side, then those of its right side. -/
lemma operands_concatenate (left right : Expression) :
    (concatenate left right).operands = left.operands ++ right.operands := by
  cases hl : left.isConcat with
  | true =>
    obtain ⟨name, arguments, orderBy, window, rfl, named⟩ := eq_function_of_isConcat hl
    rw [concatenate_function named, operands_function named, operands_function named,
      List.flatMap_append, List.flatMap_singleton]
  | false =>
    rw [concatenate_eq_prepend hl]
    cases hr : right.isConcat with
    | true =>
      obtain ⟨name, arguments, orderBy, window, rfl, named⟩ := eq_function_of_isConcat hr
      rw [prepend_function named, operands_function named, operands_function named,
        List.flatMap_cons]
    | false =>
      rw [prepend_eq_call hr, operands_call, List.flatMap_cons, List.flatMap_singleton]

/-- A concatenation is a concatenation call. -/
lemma isConcat_concatenate (left right : Expression) :
    (concatenate left right).isConcat = true := by
  cases hl : left.isConcat with
  | true =>
    obtain ⟨name, arguments, orderBy, window, rfl, named⟩ := eq_function_of_isConcat hl
    rw [concatenate_function named, isConcat, named]
  | false =>
    rw [concatenate_eq_prepend hl]
    cases hr : right.isConcat with
    | true =>
      obtain ⟨name, arguments, orderBy, window, rfl, named⟩ := eq_function_of_isConcat hr
      rw [prepend_function named, isConcat, named]
    | false =>
      rw [prepend_eq_call hr]
      rfl

end Expression

/-- A concatenation of leaves, grouped as it is written. -/
inductive Concatenation (α : Type) where
  | leaf (a : α)
  | join (left right : Concatenation α)

namespace Concatenation

variable {α β : Type} {R : α → β → Prop}

/-- The leaves from left to right. -/
def leaves : Concatenation α → List α
  | leaf a => [a]
  | join left right => left.leaves ++ right.leaves

/-- Concatenations of more than one leaf. -/
def isJoin : Concatenation α → Bool
  | leaf _ => false
  | join _ _ => true

/-- Concatenations that are nowhere grouped on both sides. -/
def oneSided : Concatenation α → Bool
  | leaf _ => true
  | join left right => !(left.isJoin && right.isJoin) && left.oneSided && right.oneSided

/-- Concatenations that are grouped alike and whose leaves are related. -/
inductive Matches (R : α → β → Prop) : Concatenation α → Concatenation β → Prop where
  | leaf {a b} : R a b → Matches R (.leaf a) (.leaf b)
  | join {l r l' r'} : Matches R l l' → Matches R r r' → Matches R (.join l r) (.join l' r')

/-- The leaves of concatenations that match are related one by one. -/
lemma Matches.leaves {s : Concatenation α} {t : Concatenation β} (h : s.Matches R t) :
    List.Forall₂ R s.leaves t.leaves := by
  induction h with
  | leaf related => exact .cons related .nil
  | join _ _ ihl ihr => exact List.rel_append ihl ihr

/-- Concatenations that match have more than one leaf at once. -/
lemma Matches.isJoin {s : Concatenation α} {t : Concatenation β} (h : s.Matches R t) :
    s.isJoin = t.isJoin := by
  cases h <;> rfl

/-- Concatenations that match are one-sided at once. -/
lemma Matches.oneSided {s : Concatenation α} {t : Concatenation β} (h : s.Matches R t) :
    s.oneSided = t.oneSided := by
  induction h with
  | leaf => rfl
  | join hl hr ihl ihr =>
    rw [Concatenation.oneSided, hl.isJoin, hr.isJoin, ihl, ihr, Concatenation.oneSided]

/-- Where leaves are related to nothing but what has a property, the related leaves have it. -/
lemma Matches.forall {s : Concatenation α} {t : Concatenation β} {P : β → Prop}
    (h : s.Matches R t) (all : ∀ a ∈ s.leaves, ∀ b, R a b → P b) : ∀ b ∈ t.leaves, P b := by
  induction h with
  | @leaf a b related =>
    intro b' member
    cases List.mem_singleton.1 member
    exact all a (.head _) b related
  | join _ _ ihl ihr =>
    rw [Concatenation.leaves, List.forall_mem_append]
    rw [Concatenation.leaves, List.forall_mem_append] at all
    exact ⟨ihl all.1, ihr all.2⟩

/-- A single leaf is one-sided. -/
lemma oneSided_of_isJoin {t : Concatenation α} (h : t.isJoin = false) : t.oneSided = true := by
  cases t with
  | leaf => rfl
  | join => cases h

/-- Two leaves are more than one. -/
lemma isJoin_of_length {t : Concatenation α} (h : 2 ≤ t.leaves.length) : t.isJoin = true := by
  cases t with
  | leaf => exact absurd h (Nat.not_succ_le_self 1)
  | join => rfl

/-- The expression that concatenates the leaves as they are grouped. -/
def expression : Concatenation Expression → Expression
  | leaf e => e
  | join left right => .concatenate left.expression right.expression

/-- A concatenation has the operands of its leaves, in their order. -/
lemma operands_expression (t : Concatenation Expression) :
    t.expression.operands = t.leaves.flatMap Expression.operands := by
  induction t with
  | leaf e => rw [leaves, List.flatMap_singleton, expression]
  | join left right ihl ihr =>
    rw [expression, Expression.operands_concatenate, ihl, ihr, leaves, List.flatMap_append]

/-- Where no leaf is a concatenation call, only more than one leaf make one. -/
lemma isConcat_expression {t : Concatenation Expression}
    (plain : ∀ e ∈ t.leaves, e.isConcat = false) : t.expression.isConcat = t.isJoin := by
  cases t with
  | leaf e => exact plain e (.head _)
  | join left right => exact Expression.isConcat_concatenate left.expression right.expression

/-- Where no leaf is a concatenation call, more than one leaf make a call, and another such call is
an argument of it unless the concatenation is one-sided. -/
lemma expression_eq_call {t : Concatenation Expression}
    (plain : ∀ e ∈ t.leaves, e.isConcat = false) (several : t.isJoin = true) :
    ∃ arguments, t.expression = .call Expression.concatName arguments ∧
      ((∀ e ∈ arguments, e.isConcat = false) ↔ t.oneSided = true) := by
  induction t with
  | leaf => cases several
  | join left right ihl ihr =>
    rw [leaves, List.forall_mem_append] at plain
    have leftCall := isConcat_expression plain.1
    have rightCall := isConcat_expression plain.2
    rw [expression, oneSided]
    cases cl : left.isJoin with
    | true =>
      -- the right side becomes the last argument as it is, also if it is a call
      obtain ⟨arguments, same, flat⟩ := ihl plain.1 cl
      refine ⟨arguments ++ [right.expression], ?_, ?_⟩
      · rw [same, Expression.call, Expression.concatenate_function rfl]
        rfl
      · rw [List.forall_mem_append, List.forall_mem_singleton, flat, rightCall]
        cases cr : right.isJoin with
        | true => simp
        | false => simp [oneSided_of_isJoin cr]
    | false =>
      rw [cl] at leftCall
      rw [Expression.concatenate_eq_prepend leftCall]
      cases cr : right.isJoin with
      | true =>
        -- the left side is no call, so the arguments on the right stay flat
        obtain ⟨arguments, same, flat⟩ := ihr plain.2 cr
        refine ⟨left.expression :: arguments, ?_, ?_⟩
        · rw [same, Expression.call, Expression.prepend_function rfl]
          rfl
        · rw [List.forall_mem_cons, flat]
          simp [leftCall, oneSided_of_isJoin cl]
      | false =>
        rw [cr] at rightCall
        refine ⟨[left.expression, right.expression], Expression.prepend_eq_call rightCall _, ?_⟩
        simp [leftCall, rightCall, oneSided_of_isJoin cl, oneSided_of_isJoin cr]

end Concatenation

namespace Syntax

open Expression (concatName operands)

/-- What a node concatenates. Parentheses and plus signs are seen through; any other node is a leaf.
-/
def Node.concatenation : Node → Concatenation Node
  | ⟨.binary .concatenation left right, _⟩ => .join left.concatenation right.concatenation
  | ⟨.unary .grouped operand, _⟩ | ⟨.unary .plus operand, _⟩ => operand.concatenation
  | node => .leaf node

variable {context : Context}

/-- A node is built to the concatenation of what its leaves are built to. -/
lemma Node.Builds.concatenation : ∀ {node : Node} {e}, node.Builds context e →
    ∃ built, node.concatenation.Matches (Node.Builds context) built ∧ e = built.expression
  | ⟨kind, span⟩, e, h => by
    cases kind with
    | binary op left right =>
      cases op with
      | concatenation =>
        obtain ⟨l, r, hl, hr, rfl⟩ := h.binary
        obtain ⟨builtLeft, matchLeft, rfl⟩ := Node.Builds.concatenation hl
        obtain ⟨builtRight, matchRight, rfl⟩ := Node.Builds.concatenation hr
        exact ⟨.join builtLeft builtRight, .join matchLeft matchRight, rfl⟩
      | _ => exact ⟨.leaf e, .leaf h, rfl⟩
    | unary op operand =>
      cases op with
      | grouped =>
        obtain ⟨built, alike, same⟩ := Node.Builds.concatenation (h.transparent (.inl rfl))
        exact ⟨built, alike, same⟩
      | plus =>
        obtain ⟨built, alike, same⟩ := Node.Builds.concatenation (h.transparent (.inr rfl))
        exact ⟨built, alike, same⟩
      | _ => exact ⟨.leaf e, .leaf h, rfl⟩
    | _ => exact ⟨.leaf e, .leaf h, rfl⟩

/-- A tree of concatenations is built to an expression with the operands of its built leaves, in
their order, whatever the leaves are built to. -/
theorem Node.operands_eq_flatMap {node : Node} {e} (h : node.Builds context e) :
    ∃ built, List.Forall₂ (Node.Builds context) node.concatenation.leaves built ∧
      e.operands = built.flatMap operands := by
  obtain ⟨built, alike, rfl⟩ := h.concatenation
  exact ⟨built.leaves, alike.leaves, built.operands_expression⟩

/-- A concatenation of calls on both sides of a name, one of them in lower case and one without
arguments. -/
theorem Node.operands_eq_flatMap_calls :
    let node := Node.binary .concatenation
      (.binary .concatenation (.call "concat" [.identifier "a", .identifier "b"]) (.identifier "c"))
      (.unary .grouped (.call "CONCAT" []))
    ∃ e built, node.Builds .plain e ∧
      List.Forall₂ (Node.Builds .plain) node.concatenation.leaves built ∧
      e.operands = built.flatMap operands := by
  intro node
  obtain ⟨built, leaves, same⟩ := Node.operands_eq_flatMap (rfl : node.Builds .plain _)
  exact ⟨_, built, rfl, leaves, same⟩

/-- A tree of concatenations whose leaves are built to no concatenation calls is built to one call.
It is flat, that is its arguments are the built leaves, none of them another such call, if and only
if no concatenation of the tree has a concatenation on both sides. -/
theorem Node.concatenation_flat_iff {node : Node} {e} (h : node.Builds context e)
    (several : 2 ≤ node.concatenation.leaves.length)
    (plain : ∀ leaf ∈ node.concatenation.leaves, ∀ e, leaf.Builds context e → e.isConcat = false) :
    ∃ arguments built, e = .call concatName arguments ∧
      List.Forall₂ (Node.Builds context) node.concatenation.leaves built ∧
      (arguments = built ↔ node.concatenation.oneSided = true) ∧
      ((∀ e ∈ arguments, e.isConcat = false) ↔ node.concatenation.oneSided = true) := by
  obtain ⟨built, alike, rfl⟩ := h.concatenation
  have builtPlain : ∀ e ∈ built.leaves, e.isConcat = false := alike.forall plain
  have join : built.isJoin = true := alike.isJoin ▸ Concatenation.isJoin_of_length several
  obtain ⟨arguments, call, flat⟩ := built.expression_eq_call builtPlain join
  -- flat arguments and plain leaves are both their own operands, so they are the same list
  have operands := built.operands_expression
  rw [call, Expression.operands_call, Expression.flatMap_operands builtPlain] at operands
  refine ⟨arguments, built.leaves, call, alike.leaves, ?_, ?_⟩
  · rw [alike.oneSided, ← flat]
    constructor
    · rintro rfl
      exact builtPlain
    · intro none
      rw [Expression.flatMap_operands none] at operands
      exact operands
  · rw [alike.oneSided, flat]

/-- A concatenation on the right only. -/
theorem Node.concatenation_flat_iff_right :
    let node := Node.binary .concatenation (.identifier "a")
      (.unary .grouped (.binary .concatenation (.identifier "b") (.identifier "c")))
    ∃ built, List.Forall₂ (Node.Builds .plain) node.concatenation.leaves built ∧
      node.Builds .plain (.call concatName built) := by
  intro node
  have plain : ∀ leaf ∈ node.concatenation.leaves, ∀ e, leaf.Builds .plain e →
      e.isConcat = false := by
    show ∀ leaf ∈ [Node.identifier "a", .identifier "b", .identifier "c"], _
    rintro leaf member e h
    simp only [List.mem_cons, List.not_mem_nil, or_false] at member
    obtain rfl | rfl | rfl := member <;> (cases h; rfl)
  obtain ⟨arguments, built, same, leaves, flat, _⟩ :=
    Node.concatenation_flat_iff (rfl : node.Builds .plain _) (by decide) plain
  obtain rfl : arguments = built := flat.2 rfl
  exact ⟨arguments, leaves, congrArg _ same⟩

/-- A concatenation with a concatenation on both sides is built to a call that has another one as an
argument. -/
theorem Node.concatenation_two_sided_nests :
    let node := Node.binary .concatenation (.binary .concatenation (.identifier "a") (.identifier "b"))
      (.binary .concatenation (.identifier "c") (.identifier "d"))
    ∃ a b c d : Expression, (∀ e ∈ [a, b, c, d], e.isConcat = false) ∧
      List.Forall₂ (Node.Builds .plain) node.concatenation.leaves [a, b, c, d] ∧
      node.Builds .plain (.call concatName [a, b, .call concatName [c, d]]) := by
  intro node
  refine ⟨_, _, _, _, ?_, .cons rfl (.cons rfl (.cons rfl (.cons rfl .nil))), rfl⟩
  decide

end Syntax

end QueryExpr
