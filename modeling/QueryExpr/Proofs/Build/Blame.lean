import QueryExpr.Proofs.Build.Inversion
import QueryExpr.Proofs.Build.Faults
import QueryExpr.Proofs.Session.Request
import QueryExpr.Proofs.Syntax.Grammar
import QueryExpr.Syntax.Construct

/-!
# What a build is refused for

Every fault of a build is raised by a node of the tree, for a reason that can be read off that node:
`Node.Raises` lists the reasons, and `Node.build_accounts` finds the node by following the builder.
In the same way every macro that is expanded is called by a node. An internal fault is only ever
raised by a node that does not keep to the grammar, so by `Session.answer_not_internal` a tree that
does is never answered with an internal error.
-/

namespace QueryExpr

open Traced

/-- The test for a bound at the end of the partition finds just that bound. -/
lemma Bound.isUnboundedFollowing_iff {α : Type} {bound : Bound α} :
    bound.isUnboundedFollowing ↔ bound = .unboundedFollowing := by
  cases bound <;> simp [isUnboundedFollowing]

/-- The test for a bound at the start of the partition finds just that bound. -/
lemma Bound.isUnboundedPreceding_iff {α : Type} {bound : Bound α} :
    bound.isUnboundedPreceding ↔ bound = .unboundedPreceding := by
  cases bound <;> simp [isUnboundedPreceding]

/-- Causes that are reported as internal errors. -/
def Cause.isInternal (cause : Cause) : Bool :=
  match cause.complaint with
  | .internal _ => true
  | _ => false

/-- An error of a name or a call is internal only if it is about a frame. -/
lemma Cause.not_isInternal_resolve {error : ResolveError} (h : ¬ error.isFrame) :
    ¬ (Cause.resolve error).isInternal := by
  cases error with
  | frameBound => exact absurd rfl h
  | _ => exact Bool.false_ne_true

namespace Syntax

variable {context : Context} {depth : Nat}

/-- The reasons that a node gives for a fault. A fault is at the span of the node itself, of an
operand or of an item of an ordering in it. -/
inductive Node.Raises (context : Context) : Node → Fault → Prop where
  /-- Something that is refused to a tree that may keep to the grammar. -/
  | refused {node : Node} {cause : Cause} : ¬ cause.isInternal →
    (∀ text, cause = .unmatched text → node.kind = .atom (.unmatched text)) →
    Raises context node ⟨cause, node.span⟩
  /-- A date or time of which the reader makes nothing. -/
  | temporal {kind body span error} : context.temporal kind body = .error error →
    Raises context ⟨.atom (.temporal kind body), span⟩ ⟨.resolve error, span⟩
  /-- A qualifier that no path can start with. -/
  | qualifier {node operand : Node} : node.Contains operand →
    Raises context node ⟨.qualifier, operand.span⟩
  | collation {node : Node} {item} : item ∈ node.kind.items →
    Raises context node ⟨.resolve .collation, item.span⟩
  /-- An operand that has to be a predicate and is none. -/
  | condition {node operand : Node} : operand ∈ node.kind.conditions → ¬ operand.IsCondition →
    Raises context node ⟨.notPredicate operand.kind.name, operand.span⟩
  /-- An operand that has no type. -/
  | type {operand : Node} {span} : ¬ operand.kind.hasType →
    Raises context ⟨.typeOf operand, span⟩ ⟨.typeOperand operand.kind.name, operand.span⟩
  | path {node : Node} : ⟨none, []⟩ ∈ node.kind.paths → Raises context node ⟨.emptyPath, node.span⟩
  | link {node : Node} {path : Path} {link} : path ∈ node.kind.paths → link ∈ path.links →
    link.segments = [] → Raises context node ⟨.emptyLink, node.span⟩
  | subpath {span} : Raises context ⟨.atom (.subpath []), span⟩ ⟨.emptyLink, span⟩
  | frame {node : Node} {frame bound} : frame ∈ node.kind.frames →
    (frame.start.isUnboundedFollowing ∨ frame.stop.any Bound.isUnboundedPreceding) →
    Raises context node ⟨.resolve (.frameBound bound), node.span⟩

/-- A fault is raised by a node or by one that stands in it. -/
def Node.Blames (context : Context) (node : Node) (fault : Fault) : Prop :=
  ∃ culprit : Node, culprit.Within node ∧ culprit.Raises context fault

/-- The macro that an alternative calls, if it calls one. -/
def Kind.macro? (context : Context) : Kind → Option String
  | .call c => context.macroName? c.name
  | .count .. => context.macroName? "COUNT"
  | .applied (.expansion name) _ => some (Case.upper name)
  | _ => none

/-- A registered macro is called by a node or by one that stands in it. -/
def Node.Calls (context : Context) (node : Node) (name : String) : Prop :=
  ∃ caller : Node, caller.Within node ∧ caller.kind.macro? context = some name ∧
    context.registries.macros.contains name

/-- No node of a tree calls a macro. -/
def Node.CallsNoMacro (context : Context) (tree : Node) : Prop :=
  ∀ node : Node, node.Within tree → node.kind.macro? context = none

/-- A run all of whose faults and macros are those of a node or of one that stands in it. -/
def Node.Accounts {α : Type} (context : Context) (node : Node) (t : Traced Fault α) : Prop :=
  Reports (node.Blames context) (node.Calls context) t

namespace Node

/-- What a node raises itself is blamed on it. -/
lemma Raises.blames {node : Node} {fault} (h : node.Raises context fault) :
    node.Blames context fault :=
  ⟨node, .refl, h⟩

/-- The faults and macros of an operand are found from the node that it stands in. -/
lemma accounts_outer {α : Type} {outer inner : Node} {t : Traced Fault α}
    (h : inner.Accounts context t) (inside : outer.Contains inner) : outer.Accounts context t :=
  h.mono (fun _ ⟨culprit, within, raises⟩ => ⟨culprit, .head inside within, raises⟩)
    fun _ ⟨caller, within, calls⟩ => ⟨caller, .head inside within, calls⟩

/-- What is refused for something that is not internal is refused at the node itself. -/
lemma blames_refused {node : Node} {cause : Cause} (language : ¬ cause.isInternal)
    (matched : ∀ text, cause ≠ .unmatched text) : node.Blames context ⟨cause, node.span⟩ :=
  (Raises.refused language fun text same => absurd same (matched text)).blames

/-- A condition that is built stands for a predicate. -/
lemma IsCondition.asPredicate {node : Node} (condition : node.IsCondition) {e}
    (built : (node.build context depth).result = .ok e) : ∃ p, asPredicate node e = .ok p := by
  have alone : node.Builds context e := Node.builds_of_build built
  clear built
  -- a bare condition is built to a predicate, and a wrapped one to what it is wrapped around
  induction condition with
  | @bare kind span isPredicate =>
    have ⟨_, made⟩ := Node.builds_iff.1 alone
    cases kind with
    | connective op left right =>
      obtain ⟨p, q, -, -, rfl⟩ := alone.connective
      exact ⟨_, rfl⟩
    | negation operand =>
      obtain ⟨p, -, rfl⟩ := alone.negation
      exact ⟨_, rfl⟩
    | between negated operand low high =>
      simp only [Kind.build, bind_ok, pure_ok] at made
      obtain ⟨_, _, _, _, _, _, rfl⟩ := made
      exact ⟨_, rfl⟩
    | like negated operand pattern escape =>
      simp only [Kind.build, bind_ok] at made
      obtain ⟨escape, _, made⟩ := made
      split at made
      · cases made
      · simp only [bind_ok, pure_ok] at made
        obtain ⟨_, _, _, _, rfl⟩ := made
        exact ⟨_, rfl⟩
    | inList negated operand items parenthesized =>
      simp only [Kind.build, bind_ok, pure_ok] at made
      obtain ⟨_, _, _, _, rfl⟩ := made
      exact ⟨_, rfl⟩
    | memberOf negated element collection =>
      simp only [Kind.build, bind_ok, pure_ok] at made
      obtain ⟨_, _, _, _, _, _, rfl⟩ := made
      exact ⟨_, rfl⟩
    | unary op operand =>
      obtain ⟨x, -, made⟩ := alone.unary
      cases op with
      | existence | isNull => cases made; exact ⟨_, rfl⟩
      | isEmpty =>
        obtain ⟨path, -, made⟩ := except_bind_ok.1 made
        cases made
        exact ⟨_, rfl⟩
      | _ => cases isPredicate
    | binary op left right =>
      obtain ⟨l, r, -, -, rfl⟩ := alone.binary
      cases op with
      | comparison | quantified => exact ⟨_, rfl⟩
      | _ => cases isPredicate
    | atom leaf =>
      cases leaf with
      | boolean value =>
        cases made
        exact ⟨_, rfl⟩
      | _ => cases isPredicate
    | _ => cases isPredicate
  | wrapped plain _ ih =>
    obtain ⟨p, stands⟩ := ih (alone.transparent plain)
    exact ⟨p, asPredicate_ok.2 (asPredicate_ok.1 stands)⟩

end Node

/-- What has to be a predicate and is built to none is no condition. -/
lemma asPredicate_accounts {owner operand : Node} (member : operand ∈ owner.kind.conditions) {e}
    (built : (operand.build context depth).result = .ok e) :
    owner.Accounts context (liftM (asPredicate operand e)) := by
  refine .lift fun fault failed => ?_
  have failed : asPredicate operand e = .error fault := failed
  cases asPredicate_error failed
  refine (Node.Raises.condition member fun condition => ?_).blames
  obtain ⟨p, stands⟩ := condition.asPredicate built
  cases stands.symm.trans failed

/-- Resolving blames the node that it is done for, and expands only what that node calls. -/
lemma place_accounts {α : Type} {owner : Node} {t : Traced ResolveError α}
    (h : ∀ error, t.result = .error error → ¬ error.isFrame)
    (calls : ∀ name ∈ t.macros, owner.kind.macro? context = some name ∧
      context.registries.macros.contains name) :
    owner.Accounts context (place owner.span t) where
  fails fault failed := by
    obtain ⟨error, reason, rfl⟩ := place_error failed
    exact Node.blames_refused (Cause.not_isInternal_resolve (h error reason)) nofun
  macros name expanded := ⟨owner, .refl, calls name expanded⟩

/-- A link without segments is blamed on the node that its path belongs to. -/
lemma checkLink_accounts {owner : Node} {path : Path} {link : Link} (p : path ∈ owner.kind.paths)
    (member : link ∈ path.links) :
    owner.Accounts context (liftM (checkLink owner.span link.segments)) := by
  refine .lift fun fault failed => ?_
  obtain ⟨empty, rfl⟩ := checkLink_error failed
  exact (Node.Raises.link p member empty).blames

/-- What has no type is refused as the operand of a type. -/
lemma typeOperand_accounts {kind : Kind} {operandSpan span : Span} (h : ¬ kind.hasType) :
    Node.Accounts context ⟨.typeOf ⟨kind, operandSpan⟩, span⟩
      (.fail ⟨.typeOperand kind.name, operandSpan⟩ : Traced Fault Expression) :=
  have raised : Node.Raises context ⟨.typeOf ⟨kind, operandSpan⟩, span⟩
      ⟨.typeOperand kind.name, operandSpan⟩ := .type h
  .fail raised.blames

/-- A link without elements has no segments. -/
lemma linkElements_eq_nil {segments : List String} {index : Option Expression}
    (h : linkElements segments index = []) : segments = [] := by
  unfold linkElements at h
  split at h
  · exact absurd h (List.append_ne_nil_of_right_ne_nil _ (List.cons_ne_nil _ _))
  · exact List.map_eq_nil_iff.1 h

/-- A path of links is without elements only if its first link is without segments. -/
lemma leadingElements_eq_nil {segments : List String} {index : Option Expression}
    (h : leadingElements context segments index = []) : segments = [] := by
  unfold leadingElements at h
  split at h
  · cases h
  · exact linkElements_eq_nil h

/-- A bound is built to one of the same name. -/
lemma tag_buildBound {bound : Bound Node} {built}
    (h : (buildBound context depth bound).result = .ok built) :
    built.isUnboundedFollowing = bound.isUnboundedFollowing ∧
      built.isUnboundedPreceding = bound.isUnboundedPreceding := by
  cases bound with
  | preceding offset | following offset =>
    simp only [buildBound, bind_ok, pure_ok] at h
    obtain ⟨_, -, rfl⟩ := h
    exact ⟨rfl, rfl⟩
  | _ =>
    cases h
    exact ⟨rfl, rfl⟩

/-- The end of a frame is built to one of the same name. -/
lemma any_buildStop {stop : Option (Bound Node)} {built}
    (h : (buildStop context depth stop).result = .ok built) :
    built.any Bound.isUnboundedPreceding = stop.any Bound.isUnboundedPreceding := by
  cases stop with
  | none =>
    cases h
    rfl
  | some bound =>
    simp only [buildStop, bind_ok, pure_ok] at h
    obtain ⟨_, made, rfl⟩ := h
    exact (tag_buildBound made).2

/-! The induction follows the builder. The functions for lists, clauses and paths are given the node
that they are part of, which is at fault for what is wrong with them. -/

mutual

/-- A fault of the build of a node is raised by the node or in it. -/
theorem Node.build_accounts (depth : Nat) : ∀ node : Node,
    node.Accounts context (node.build context depth)
  | ⟨kind, span⟩ => by
    rw [Node.build]
    split
    · exact .fail (Node.blames_refused Bool.false_ne_true nofun)
    · exact Kind.build_accounts (depth + 1) span kind
termination_by structural x => x

/-- A fault of the build of an alternative is raised by its node or in it. -/
theorem Kind.build_accounts (depth : Nat) (span : Span) : ∀ kind : Kind,
    Node.Accounts context ⟨kind, span⟩ (kind.build context depth span)
  | .atom leaf => by
    rw [Kind.build]
    refine .lift fun fault failed => ?_
    cases built : leaf.build context with
    | ok e => rw [built] at failed; cases failed
    | error cause =>
      rw [built] at failed
      cases failed
      obtain ⟨error, rfl, reader⟩ | ⟨rfl, rfl⟩ | ⟨text, rfl, rfl⟩ := Atom.build_error built
      · by_cases frame : error.isFrame
        · obtain ⟨kind, body, rfl, read⟩ := reader frame
          exact (Node.Raises.temporal read).blames
        · exact Node.blames_refused (Cause.not_isInternal_resolve frame) nofun
      · exact Node.Raises.subpath.blames
      · have raised : Node.Raises context ⟨.atom (.unmatched text), span⟩
            ⟨.unmatched text, span⟩ := by
          refine .refused Bool.false_ne_true fun _ same => ?_
          cases same
          rfl
        exact raised.blames
  | .unary op operand => by
    rw [Kind.build]
    refine .bind (Node.accounts_outer (Node.build_accounts depth operand) (.head _)) fun _ => ?_
    refine .lift fun fault failed => ?_
    cases UnaryOp.build_error failed
    exact Node.blames_refused Bool.false_ne_true nofun
  | .binary op left right => by
    rw [Kind.build]
    refine .bind (.lift fun fault failed => ?_) fun _ => ?_
    · cases BinaryOp.permit_error failed
      exact Node.blames_refused Bool.false_ne_true nofun
    · refine .bind (Node.accounts_outer (Node.build_accounts depth left) (.head _)) fun _ => ?_
      refine .bind (Node.accounts_outer (Node.build_accounts depth right) ?_) fun _ => .pure _
      exact .tail _ (.head _)
  | .connective op left right => by
    rw [Kind.build]
    let owner : Node := ⟨.connective op left right, span⟩
    have first : owner.Accounts context _ :=
      Node.accounts_outer (Node.build_accounts depth left) (.head _)
    have second : owner.Accounts context _ :=
      Node.accounts_outer (Node.build_accounts depth right) (.tail _ (.head _))
    refine .bind_of_ok first fun _ built => ?_
    refine .bind (asPredicate_accounts (.head _) built) fun _ => ?_
    refine .bind_of_ok second fun _ built => ?_
    exact .bind (asPredicate_accounts (.tail _ (.head _)) built) fun _ => .pure _
  | .negation operand => by
    rw [Kind.build]
    let owner : Node := ⟨.negation operand, span⟩
    have first : owner.Accounts context _ :=
      Node.accounts_outer (Node.build_accounts depth operand) (.head _)
    refine .bind_of_ok first fun _ built => ?_
    exact .bind (asPredicate_accounts (.head _) built) fun _ => .pure _
  | .typeOf ⟨kind, operandSpan⟩ => by
    cases kind with
    | path role path =>
      cases role with
      | plain =>
        rw [Kind.build]
        -- the operand is not visited, but is at fault for what is wrong with its path
        refine .bind (Node.accounts_outer ?_ (.head _)) fun _ => .pure _
        exact Path.build_accounts ⟨.path .plain path, operandSpan⟩ depth path (.head _) fun _ h => h
      | _ => exact typeOperand_accounts Bool.false_ne_true
    | atom leaf =>
      cases leaf with
      | namedParameter | positionalParameter =>
        exact .bind (Node.accounts_outer (Node.build_accounts depth _) (.head _)) fun _ => .pure _
      | _ => exact typeOperand_accounts Bool.false_ne_true
    | _ => exact typeOperand_accounts Bool.false_ne_true
  | .between negated operand low high => by
    rw [Kind.build]
    refine .bind (Node.accounts_outer (Node.build_accounts depth operand) (.head _)) fun _ => ?_
    refine .bind (Node.accounts_outer (Node.build_accounts depth low) ?_) fun _ => ?_
    · exact .tail _ (.head _)
    · refine .bind (Node.accounts_outer (Node.build_accounts depth high) ?_) fun _ => .pure _
      exact .tail _ (.tail _ (.head _))
  | .like negated operand pattern escape => by
    rw [Kind.build]
    refine .bind (buildOption_accounts ⟨_, span⟩ depth escape fun _ h => ?_) fun built => ?_
    · exact .tail _ (.tail _ h)
    · split
      · exact .fail (Node.blames_refused Bool.false_ne_true nofun)
      · refine .bind (Node.accounts_outer (Node.build_accounts depth operand) (.head _)) fun _ => ?_
        refine .bind (Node.accounts_outer (Node.build_accounts depth pattern) ?_) fun _ => .pure _
        exact .tail _ (.head _)
  | .inList negated operand items parenthesized => by
    rw [Kind.build]
    refine .bind (Node.accounts_outer (Node.build_accounts depth operand) (.head _)) fun _ => ?_
    refine .bind (buildAll_accounts ⟨_, span⟩ depth items fun _ h => ?_) fun _ => .pure _
    exact .tail _ h
  | .simpleCase operand branches otherwise => by
    rw [Kind.build]
    refine .bind (Node.accounts_outer (Node.build_accounts depth operand) (.head _)) fun _ => ?_
    refine .bind (buildBranches_accounts ⟨_, span⟩ depth branches fun _ h => ?_) fun _ => ?_
    · exact .tail _ (List.mem_append_left _ h)
    · refine .bind (buildOption_accounts ⟨_, span⟩ depth otherwise fun _ h => ?_) fun _ => .pure _
      exact .tail _ (List.mem_append_right _ h)
  | .searchedCase branches otherwise => by
    rw [Kind.build]
    refine .bind (buildSearched_accounts ⟨_, span⟩ depth branches ?_ fun _ h => ?_) fun _ => ?_
    · exact fun _ h => List.mem_map_of_mem h
    · exact List.mem_append_left _ h
    · refine .bind (buildOption_accounts ⟨_, span⟩ depth otherwise fun _ h => ?_) fun _ => .pure _
      exact List.mem_append_right _ h
  | .trim side character operand => by
    rw [Kind.build]
    refine .bind (buildOption_accounts ⟨_, span⟩ depth character fun _ h => ?_) fun _ => ?_
    · exact List.mem_append_left _ h
    · refine .bind (Node.accounts_outer (Node.build_accounts depth operand) ?_) fun _ => .pure _
      exact List.mem_append_right _ (.head _)
  | .count distinct argument filter window => by
    rw [Kind.build]
    let owner : Node := ⟨.count distinct argument filter window, span⟩
    refine .bind (buildOption_accounts owner depth argument fun _ h => ?_) fun _ => ?_
    · exact List.mem_append_left _ (List.mem_append_left _ h)
    refine .bind (buildFilter_accounts owner depth filter (fun _ h => h) fun _ h => ?_) fun _ => ?_
    · exact List.mem_append_left _ (List.mem_append_right _ h)
    refine .bind (buildOver_accounts owner depth window ?_ ?_ fun _ h => ?_) fun _ => ?_
    · exact fun _ h => h
    · exact fun _ h => h
    · exact List.mem_append_right _ h
    · exact place_accounts (fun _ => Invocation.resolve_error) fun _ => Invocation.resolve_macros
  | .call c => by
    rw [Kind.build]
    exact Call.build_accounts span depth c
  | .path role path => by
    rw [Kind.build]
    refine .bind (Path.build_accounts ⟨_, span⟩ depth path (.head _) fun _ h => h) fun _ => ?_
    refine .lift fun fault failed => ?_
    obtain rfl | ⟨name, rfl⟩ := PathRole.build_error failed
    · exact Node.blames_refused Bool.false_ne_true nofun
    · exact Node.blames_refused Bool.false_ne_true nofun
  | .memberOf negated element collection => by
    rw [Kind.build]
    refine .bind (Node.accounts_outer (Node.build_accounts depth element) (.head _)) fun _ => ?_
    let owner : Node := ⟨.memberOf negated element collection, span⟩
    refine .bind (Path.build_accounts owner depth collection (.head _) fun _ h => ?_) fun _ => ?_
    · exact .tail _ h
    · refine .bind (.lift fun fault failed => ?_) fun _ => .pure _
      cases asPath_error failed
      exact Node.blames_refused Bool.false_ne_true nofun
  | .applied (.constructor className) arguments => by
    rw [Kind.build]
    exact .bind (buildAll_accounts ⟨_, span⟩ depth arguments fun _ h => h) fun _ => .pure _
  | .applied (.expansion name) arguments => by
    rw [Kind.build]
    refine .bind (buildAll_accounts ⟨_, span⟩ depth arguments fun _ h => h) fun _ => ?_
    refine place_accounts (fun error failed => ?_) fun macroName expanded => ?_
    · obtain rfl | ⟨message, rfl⟩ := Context.expand_error failed <;> exact Bool.false_ne_true
    · obtain ⟨rfl, known⟩ := Context.expand_macros expanded
      exact ⟨rfl, known⟩
termination_by structural x => x

/-- Nodes in an owner account for what happens while they are built. -/
theorem buildAll_accounts (owner : Node) (depth : Nat) : ∀ nodes : List Node,
    (∀ node ∈ nodes, owner.Contains node) →
    owner.Accounts context (buildAll context depth nodes)
  | [], _ => .pure _
  | node :: rest, inside => by
    rw [buildAll]
    obtain ⟨first, others⟩ := List.forall_mem_cons.1 inside
    refine .bind (Node.accounts_outer (Node.build_accounts depth node) first) fun _ => ?_
    exact .bind (buildAll_accounts owner depth rest others) fun _ => .pure _
termination_by structural x _ => x

/-- A node in an owner that may be missing accounts for what happens while it is built. -/
theorem buildOption_accounts (owner : Node) (depth : Nat) : ∀ node : Option Node,
    (∀ inner ∈ node.toList, owner.Contains inner) →
    owner.Accounts context (buildOption context depth node)
  | none, _ => .pure _
  | some node, inside => by
    rw [buildOption]
    have first := inside node (.head _)
    exact .bind (Node.accounts_outer (Node.build_accounts depth node) first) fun _ => .pure _
termination_by structural x _ => x

/-- A filter clause accounts for what happens in it, and its owner for a condition that is none. -/
theorem buildFilter_accounts (owner : Node) (depth : Nat) : ∀ node : Option Node,
    (∀ condition ∈ node.toList, condition ∈ owner.kind.conditions) →
    (∀ inner ∈ node.toList, owner.Contains inner) →
    owner.Accounts context (buildFilter context depth node)
  | none, _, _ => .pure _
  | some node, condition, inside => by
    rw [buildFilter]
    have first := Node.accounts_outer (Node.build_accounts depth node) (inside node (.head _))
    refine .bind_of_ok first fun _ built => ?_
    exact .bind (asPredicate_accounts (condition node (.head _)) built) fun _ => .pure _
termination_by structural x _ _ => x

/-- The branches of a simple case expression account for what happens in them. -/
theorem buildBranches_accounts (owner : Node) (depth : Nat) : ∀ branches : List Branch,
    (∀ inner ∈ branches.flatMap Branch.inner, owner.Contains inner) →
    owner.Accounts context (buildBranches context depth branches)
  | [], _ => .pure _
  | ⟨condition, result⟩ :: rest, inside => by
    rw [buildBranches]
    simp only [List.flatMap_cons, Branch.inner, List.forall_mem_append,
      List.forall_mem_cons] at inside
    obtain ⟨⟨first, second, -⟩, others⟩ := inside
    refine .bind (Node.accounts_outer (Node.build_accounts depth condition) first) fun _ => ?_
    refine .bind (Node.accounts_outer (Node.build_accounts depth result) second) fun _ => ?_
    exact .bind (buildBranches_accounts owner depth rest others) fun _ => .pure _
termination_by structural x _ => x

/-- The branches of a searched case expression account for what happens in them, and their owner for
conditions that are none. -/
theorem buildSearched_accounts (owner : Node) (depth : Nat) : ∀ branches : List Branch,
    (∀ branch ∈ branches, branch.condition ∈ owner.kind.conditions) →
    (∀ inner ∈ branches.flatMap Branch.inner, owner.Contains inner) →
    owner.Accounts context (buildSearched context depth branches)
  | [], _, _ => .pure _
  | ⟨condition, result⟩ :: rest, conditions, inside => by
    rw [buildSearched]
    simp only [List.flatMap_cons, Branch.inner, List.forall_mem_append,
      List.forall_mem_cons] at conditions inside
    obtain ⟨⟨first, second, -⟩, others⟩ := inside
    have whole := Node.accounts_outer (Node.build_accounts depth condition) first
    refine .bind_of_ok whole fun _ built => ?_
    refine .bind (asPredicate_accounts conditions.1 built) fun _ => ?_
    refine .bind (Node.accounts_outer (Node.build_accounts depth result) second) fun _ => ?_
    exact .bind (buildSearched_accounts owner depth rest conditions.2 others) fun _ => .pure _
termination_by structural x _ _ => x

/-- The owner of a path is at fault for its links, and the nodes in the path for the rest. -/
theorem Path.build_accounts (owner : Node) (depth : Nat) : ∀ path : Path, path ∈ owner.kind.paths →
    (∀ inner ∈ path.inner, owner.Contains inner) →
    owner.Accounts context (path.build context depth owner.span)
  | ⟨none, []⟩, member, _ => .fail (Node.Raises.path member).blames
  | ⟨none, ⟨segments, index⟩ :: links⟩, member, inside => by
    rw [Path.build]
    simp only [Path.inner, Option.toList_none, List.nil_append, List.flatMap_cons,
      List.forall_mem_append] at inside
    refine .bind (checkLink_accounts member (.head _)) fun _ => ?_
    refine .bind (.lift fun fault failed => ?_) fun constant => ?_
    · obtain ⟨error, name, rfl⟩ := leadingConstant?_error failed
      exact Node.blames_refused (Cause.not_isInternal_resolve name) nofun
    · cases constant with
      | some constant => exact .pure _
      | none =>
        refine .bind (buildOption_accounts owner depth index inside.1) fun _ => ?_
        refine .bind (buildLinks_accounts owner depth links ?_ inside.2) fun _ => ?_
        · exact fun link h => ⟨_, member, .tail _ h⟩
        · -- no elements at all, so the first link has no segments
          refine .lift fun fault failed => ?_
          obtain ⟨none, rfl⟩ := ofElements_error failed
          have empty := leadingElements_eq_nil (List.append_eq_nil_iff.1 none).1
          exact (Node.Raises.link member (.head _) empty).blames
  | ⟨some qualifier, []⟩, _, inside => by
    rw [Path.build]
    exact Node.accounts_outer (Node.build_accounts depth qualifier) (inside _ (.head _))
  | ⟨some qualifier, ⟨segments, index⟩ :: links⟩, member, inside => by
    rw [Path.build]
    simp only [Path.inner, Option.toList_some, List.singleton_append, List.forall_mem_cons,
      List.flatMap_cons, List.forall_mem_append] at inside
    obtain ⟨first, second, others⟩ := inside
    refine .bind (Node.accounts_outer (Node.build_accounts depth qualifier) first) fun _ => ?_
    refine .bind (.lift fun fault failed => ?_) fun _ => ?_
    · cases startPath_error failed
      exact (Node.Raises.qualifier first).blames
    · refine .bind (checkLink_accounts member (.head _)) fun _ => ?_
      refine .bind (buildOption_accounts owner depth index second) fun _ => ?_
      refine .bind (buildLinks_accounts owner depth links ?_ others) fun _ => .pure _
      exact fun link h => ⟨_, member, .tail _ h⟩
termination_by structural x _ _ => x

/-- The owner of a path is at fault for its later links too. -/
theorem buildLinks_accounts (owner : Node) (depth : Nat) : ∀ links : List Link,
    (∀ link ∈ links, ∃ path ∈ owner.kind.paths, link ∈ path.links) →
    (∀ inner ∈ links.flatMap fun link => link.index.toList, owner.Contains inner) →
    owner.Accounts context (buildLinks context depth owner.span links)
  | [], _, _ => .pure _
  | ⟨segments, index⟩ :: rest, written, inside => by
    rw [buildLinks]
    simp only [List.flatMap_cons, List.forall_mem_append] at inside
    obtain ⟨⟨path, member, first⟩, others⟩ := List.forall_mem_cons.1 written
    refine .bind (checkLink_accounts member first) fun _ => ?_
    refine .bind (buildOption_accounts owner depth index inside.1) fun _ => ?_
    exact .bind (buildLinks_accounts owner depth rest others inside.2) fun _ => .pure _
termination_by structural x _ _ => x

/-- A call accounts for what happens in it and for the macro that it is left to. -/
theorem Call.build_accounts (span : Span) (depth : Nat) : ∀ call : Call,
    Node.Accounts context ⟨.call call, span⟩ (call.build context depth span)
  | ⟨name, distinct, arguments, withinGroup, filter, window⟩ => by
    rw [Call.build]
    let owner : Node := ⟨.call ⟨name, distinct, arguments, withinGroup, filter, window⟩, span⟩
    have inside : ∀ inner ∈ owner.kind.inner, owner.Contains inner := fun _ h => h
    simp only [owner, Kind.inner, Call.inner, List.forall_mem_append] at inside
    obtain ⟨⟨⟨hArguments, hGroup⟩, hFilter⟩, hWindow⟩ := inside
    refine .bind (buildAll_accounts owner depth arguments hArguments) fun _ => ?_
    refine .bind (buildGroup_accounts owner depth withinGroup ?_ hGroup) fun _ => ?_
    · exact fun _ h => List.mem_append_left _ h
    refine .bind (buildFilter_accounts owner depth filter (fun _ h => h) hFilter) fun _ => ?_
    refine .bind (buildOver_accounts owner depth window (fun _ h => h) ?_ hWindow) fun _ => ?_
    · exact fun _ h => List.mem_append_right _ h
    · exact place_accounts (fun _ => Invocation.resolve_error) fun _ => Invocation.resolve_macros
termination_by structural x => x

/-- A within group clause accounts for what happens in it. -/
theorem buildGroup_accounts (owner : Node) (depth : Nat) : ∀ items : Option (List OrderItem),
    (∀ item ∈ items.getD [], item ∈ owner.kind.items) →
    (∀ inner ∈ (items.getD []).map OrderItem.expression, owner.Contains inner) →
    owner.Accounts context (buildGroup context depth items)
  | none, _, _ => .pure _
  | some items, written, inside => by
    rw [buildGroup]
    exact .bind (buildItems_accounts owner depth items written inside) fun _ => .pure _
termination_by structural x _ _ => x

/-- The owner of an ordering is at fault for the collations of its items. -/
theorem buildItems_accounts (owner : Node) (depth : Nat) : ∀ items : List OrderItem,
    (∀ item ∈ items, item ∈ owner.kind.items) →
    (∀ inner ∈ items.map OrderItem.expression, owner.Contains inner) →
    owner.Accounts context (buildItems context depth items)
  | [], _, _ => .pure _
  | ⟨expression, descending, nulls, collation, span⟩ :: rest, written, inside => by
    rw [buildItems]
    simp only [List.map_cons, List.forall_mem_cons] at written inside
    refine .bind (Node.accounts_outer (Node.build_accounts depth expression) inside.1) fun _ => ?_
    refine .bind (.lift fun fault failed => ?_) fun _ => ?_
    · obtain ⟨error, reason, rfl⟩ := place_error failed
      cases ofWritten_error reason
      exact (Node.Raises.collation written.1).blames
    · exact .bind (buildItems_accounts owner depth rest written.2 inside.2) fun _ => .pure _
termination_by structural x _ _ => x

/-- The owner of a window is at fault for its ordering and its frame. -/
theorem buildOver_accounts (owner : Node) (depth : Nat) : ∀ window : Option Over,
    (∀ frame ∈ window.toList.flatMap Over.frames, frame ∈ owner.kind.frames) →
    (∀ item ∈ window.toList.flatMap Over.items, item ∈ owner.kind.items) →
    (∀ inner ∈ window.toList.flatMap Over.inner, owner.Contains inner) →
    owner.Accounts context (buildOver context depth owner.span window)
  | none, _, _, _ => .pure _
  | some (.named name), _, _, _ => .pure _
  | some (.inline name partitionBy orderBy frame), frames, items, inside => by
    rw [buildOver]
    simp only [Option.toList_some, List.flatMap_singleton, Over.inner, Over.items, Over.frames,
      List.forall_mem_append] at frames items inside
    refine .bind (buildAll_accounts owner depth partitionBy inside.1.1) fun _ => ?_
    refine .bind (buildItems_accounts owner depth orderBy items inside.1.2) fun _ => ?_
    exact .bind (buildFrame_accounts owner depth frame frames inside.2) fun _ => .pure _
termination_by structural x _ _ _ => x

/-- The owner of a frame is at fault for bounds that are turned round. -/
theorem buildFrame_accounts (owner : Node) (depth : Nat) : ∀ frame : Option (Frame Node),
    (∀ written ∈ frame.toList, written ∈ owner.kind.frames) →
    (∀ inner ∈ frame.toList.flatMap Frame.offsets, owner.Contains inner) →
    owner.Accounts context (buildFrame context depth owner.span frame)
  | none, _, _ => .pure _
  | some ⟨mode, start, stop, exclusion⟩, frames, inside => by
    rw [buildFrame]
    simp only [Option.toList_some, List.flatMap_singleton, Frame.offsets,
      List.forall_mem_append] at inside
    refine .bind_of_ok (buildBound_accounts owner depth start inside.1) fun _ starts => ?_
    refine .bind_of_ok (buildStop_accounts owner depth stop inside.2) fun _ stops => ?_
    refine .bind (.lift fun fault failed => ?_) fun _ => .pure _
    obtain ⟨error, reason, rfl⟩ := place_error failed
    obtain ⟨turned, bound, rfl⟩ := check_error reason
    -- what is wrong with the built frame is wrong with the written one
    rw [(tag_buildBound starts).1, any_buildStop stops] at turned
    exact (Node.Raises.frame (frames _ (.head _)) turned).blames
termination_by structural x _ _ => x

/-- The end of a frame accounts for what happens in it. -/
theorem buildStop_accounts (owner : Node) (depth : Nat) : ∀ bound : Option (Bound Node),
    (∀ inner ∈ bound.toList.flatMap Bound.offsets, owner.Contains inner) →
    owner.Accounts context (buildStop context depth bound)
  | none, _ => .pure _
  | some bound, inside => by
    rw [buildStop]
    simp only [Option.toList_some, List.flatMap_singleton] at inside
    exact .bind (buildBound_accounts owner depth bound inside) fun _ => .pure _
termination_by structural x _ => x

/-- A bound accounts for what happens in what it counts from. -/
theorem buildBound_accounts (owner : Node) (depth : Nat) : ∀ bound : Bound Node,
    (∀ inner ∈ bound.offsets, owner.Contains inner) →
    owner.Accounts context (buildBound context depth bound)
  | .unboundedPreceding, _ | .currentRow, _ | .unboundedFollowing, _ => .pure _
  | .preceding offset, inside | .following offset, inside => by
    rw [buildBound]
    have first := inside offset (.head _)
    exact .bind (Node.accounts_outer (Node.build_accounts depth offset) first) fun _ => .pure _
termination_by structural x _ => x

end

/-- A node that keeps to the grammar raises no internal fault where dates and times are read in the
ISO forms. -/
lemma Node.Raises.not_isInternal {node : Node} {fault} (raises : node.Raises context fault)
    (iso : context.temporal = Temporal.iso) (grammatical : node.kind.Grammatical) :
    ¬ fault.cause.isInternal := by
  cases raises with
  | refused language _ => exact language
  | temporal read =>
    rw [iso, Temporal.iso] at read
    split at read <;> cases read
    exact Bool.false_ne_true
  | qualifier | collation => exact Bool.false_ne_true
  | condition member other => exact absurd (grammatical.condition _ member) other
  | type untyped => exact absurd (grammatical.type _ rfl) untyped
  | path member =>
    obtain qualified | linked := grammatical.path _ member
    · cases qualified
    · exact absurd rfl linked
  | link p member empty => exact absurd empty (grammatical.link _ p _ member)
  | subpath => exact absurd rfl grammatical.subpath
  | frame member turned =>
    obtain ⟨start, stop⟩ := grammatical.frame _ member
    obtain turned | turned := turned
    · exact absurd (Bound.isUnboundedFollowing_iff.1 turned) start
    · refine absurd ?_ stop
      simpa only [Option.any_eq_true, Bound.isUnboundedPreceding_iff, exists_eq_right] using turned

end Syntax

/-- A tree that keeps to the grammar, and that is a condition if its predicate is asked for. -/
def Request.Grammatical : Request → Prop
  | expression tree => tree.Grammatical
  | predicate tree => tree.Grammatical ∧ tree.IsCondition

/-- For a tree that keeps to the grammar, the faults of a request are those of nodes in the tree. -/
lemma Request.build_blames (context : Context) (depth : Nat) {request : Request}
    (grammatical : request.Grammatical) :
    Fails (request.tree.Blames context) (request.build context depth) := by
  cases request with
  | expression tree => exact (tree.build_accounts depth).fails
  | predicate tree =>
    have built : Fails (tree.Blames context) _ := (tree.build_accounts depth).fails
    refine .bind (.bind_of_ok built fun e built => ?_) fun _ => .pure _
    obtain ⟨p, stands⟩ := grammatical.2.asPredicate built
    rw [stands]
    exact .pure p

/-- The macros that a build expands are called in the tree. -/
lemma Request.build_macros (context : Context) (depth : Nat) (request : Request) :
    ∀ name ∈ (request.build context depth).macros, request.tree.Calls context name := by
  cases request with
  | expression tree => exact (tree.build_accounts depth).macros
  | predicate tree =>
    have built : Reports (fun _ => True) (tree.Calls context) (tree.build context depth) :=
      (tree.build_accounts depth).mono (fun _ _ => trivial) fun _ calls => calls
    have whole : Reports (fun _ => True) (tree.Calls context)
        ((Request.predicate tree).build context depth) :=
      .bind (.bind built fun _ => .lift fun _ _ => trivial) fun _ => .pure _
    exact whole.macros

/-- A build expands no macro where no node calls one. -/
lemma Request.build_macros_eq_nil {request : Request} {context : Context}
    (plain : request.tree.CallsNoMacro context) (depth : Nat) :
    (request.build context depth).macros = [] := by
  refine List.eq_nil_iff_forall_not_mem.2 fun name expanded => ?_
  obtain ⟨caller, within, calls, -⟩ := request.build_macros context depth name expanded
  cases (plain caller within).symm.trans calls

/-- No request for a tree that keeps to the grammar is answered with an internal error, if dates and
times are read in the ISO forms. -/
theorem Session.answer_not_internal {session : Session}
    (iso : session.context.temporal = Temporal.iso) {request : Request}
    (grammatical : request.Grammatical) {error} (h : (session.answer request).1 = .error error)
    (message : String) : error.complaint ≠ .internal message := by
  rw [answer_eq_report] at h
  obtain ⟨fault, failed, rfl⟩ := report_error.1 h
  obtain ⟨culprit, within, raises⟩ := Request.build_blames _ _ grammatical fault failed
  have whole : request.tree.Grammatical := by
    cases request with
    | expression => exact grammatical
    | predicate => exact grammatical.1
  -- the culprit keeps to the grammar as every node of the tree does
  have language := raises.not_isInternal iso (whole culprit within)
  rw [Fault.complaint_report]
  intro same
  exact language (by rw [Cause.isInternal, same])

open Syntax in
/-- A condition in parentheses, negated, one side of which calls what is not registered. -/
theorem Session.answer_not_internal_unresolved :
    let session := Session.start ⟨.empty, .standard, Temporal.iso⟩ ""
    let inner := Node.binary (.comparison .eq) (.dottedPath "a.b") (.call "g" [])
    let request := Request.predicate (.negation (.unary .grouped inner))
    request.Grammatical ∧ ∃ error, (session.answer request).1 = .error error ∧
      ∀ message, error.complaint ≠ .internal message := by
  intro session inner request
  have path : (Node.dottedPath "a.b").Grammatical := by
    refine Node.grammatical_of_inner ⟨?_, ?_, nofun, nofun, nofun, nofun⟩ nofun
    · exact List.forall_mem_singleton.2 (.inr (List.cons_ne_nil _ _))
    · exact List.forall_mem_singleton.2 (List.forall_mem_singleton.2 (by decide))
  have call : (Node.call "g" []).Grammatical :=
    Node.grammatical_of_inner (.of_conditions rfl rfl nofun nofun nofun) nofun
  have comparison : inner.Grammatical :=
    Node.grammatical_of_inner (.of_conditions rfl rfl nofun nofun nofun)
      (List.forall_mem_cons.2 ⟨path, List.forall_mem_singleton.2 call⟩)
  have grouped : (Node.unary .grouped inner).Grammatical :=
    Node.grammatical_of_inner (.of_conditions rfl rfl nofun nofun nofun)
      (List.forall_mem_singleton.2 comparison)
  have grammatical : request.Grammatical :=
    ⟨Node.grammatical_of_inner (.of_conditions rfl rfl nofun nofun
        (List.forall_mem_singleton.2 (.wrapped (.inl rfl) (.bare rfl))))
      (List.forall_mem_singleton.2 grouped), .bare rfl⟩
  have failed : ∃ error, (session.answer request).1 = .error error := ⟨_, rfl⟩
  obtain ⟨error, failed⟩ := failed
  exact ⟨grammatical, error, failed, answer_not_internal rfl grammatical failed⟩

end QueryExpr
