import QueryExpr.Proofs.Build.Counter
import QueryExpr.Proofs.Build.Faults
import QueryExpr.Proofs.Build.Permissive
import QueryExpr.Proofs.Syntax.Nesting

/-!
# The limit on nesting

A build that is refused for its nesting has found a chain of more nested nodes than the limit
allows: `Syntax.Overflows` carries this through the builder, one lemma for each of its functions. A
build that succeeds is cut by a smaller limit or does the same under it, by `Syntax.Node.build_cut`.
The theorem `Session.nesting_accounted` puts both together with what `Syntax.Node.visit_counts` says
about a builder that counts.
-/

namespace QueryExpr

open Traced (Cut Fails)

namespace Syntax

variable {context : Context} {depth : Nat} {span : Span} {nodes : Node → Prop} {fault : Fault}

/-- A fault about nesting is at the limit, and a chain from one of some nodes goes beyond it. -/
def Overflows (context : Context) (depth : Nat) (nodes : Node → Prop) (fault : Fault) : Prop :=
  ∀ limit, fault.cause = .nesting limit → limit = context.options.maxDepth ∧
    ∃ node, nodes node ∧ ∃ height, node.Tower height ∧ limit < depth + height

namespace Overflows

/-- A fault that is not about nesting asks for no chain. -/
lemma of_local (h : ∀ limit, fault.cause ≠ .nesting limit) : Overflows context depth nodes fault :=
  fun limit same => absurd same (h limit)

/-- A node that meets the limit is itself a chain beyond it. -/
lemma full {kind : Kind} (h : context.options.maxDepth ≤ depth) (member : nodes ⟨kind, span⟩) :
    Overflows context depth nodes ⟨.nesting context.options.maxDepth, span⟩ := by
  intro limit same
  cases same
  exact ⟨rfl, _, member, 1, .single _, by omega⟩

/-- A chain from inside a node is longer by one from the node itself. -/
lemma outer {node : Node} {depth'} (h : Overflows context depth' node.Contains fault)
    (level : depth' ≤ depth + 1) (member : nodes node) : Overflows context depth nodes fault := by
  intro limit same
  obtain ⟨rfl, inner, within, height, tower, beyond⟩ := h limit same
  exact ⟨rfl, node, member, height + 1, tower.nest within, by omega⟩

end Overflows

/-- Taking an expression as a predicate never fails about the nesting. -/
lemma asPredicate_overflows (node : Node) (built : Expression) :
    Fails (Overflows context depth nodes) (liftM (asPredicate node built)) := by
  intro fault h
  cases asPredicate_error h
  exact .of_local nofun

/-- Resolving never fails about the nesting. -/
lemma place_overflows {α : Type} (t : Traced ResolveError α) :
    Fails (Overflows context depth nodes) (place span t) := by
  intro fault h
  obtain ⟨error, -, rfl⟩ := place_error h
  exact .of_local nofun

/-- Checking a link never fails about the nesting. -/
lemma checkLink_overflows (segments : List String) :
    Fails (Overflows context depth nodes) (liftM (checkLink span segments)) := by
  intro fault h
  obtain ⟨-, rfl⟩ := checkLink_error h
  exact .of_local nofun

/-! The induction follows the builder. Each function is given some nodes among which are all that it
visits; for an alternative these are the nodes directly in it. -/

mutual

/-- A build of a node that fails about the nesting has a chain of nested nodes beyond the limit. -/
theorem Node.build_overflows {nodes : Node → Prop} (depth : Nat) : ∀ node : Node, nodes node →
    Fails (Overflows context depth nodes) (node.build context depth)
  | ⟨kind, span⟩, member => by
    rw [Node.build]
    by_cases full : context.options.maxDepth ≤ depth
    · rw [if_pos full]
      exact .fail (.full full member)
    · rw [if_neg full]
      have inside : Fails (Overflows context (depth + 1) (Node.Contains ⟨kind, span⟩)) _ :=
        Kind.build_overflows (depth + 1) span kind fun _ h => h
      exact inside.mono fun _ h => h.outer le_rfl member

/-- A build of an alternative that fails about the nesting has such a chain from a node in it. -/
theorem Kind.build_overflows {nodes : Node → Prop} (depth : Nat) (span : Span) :
    ∀ kind : Kind, (∀ inner ∈ kind.inner, nodes inner) →
    Fails (Overflows context depth nodes) (kind.build context depth span)
  | .atom leaf, _ => by
    rw [Kind.build]
    intro fault h
    cases built : leaf.build context with
    | ok e => rw [built] at h; cases h
    | error cause =>
      rw [built] at h
      cases h
      obtain ⟨error, rfl, -⟩ | ⟨-, rfl⟩ | ⟨text, -, rfl⟩ := Atom.build_error built <;>
        exact .of_local nofun
  | .unary op operand, sub => by
    rw [Kind.build]
    refine .bind (Node.build_overflows depth operand (sub _ (.head _))) fun _ => ?_
    intro fault h
    cases UnaryOp.build_error h
    exact .of_local nofun
  | .binary op left right, sub => by
    rw [Kind.build]
    refine .bind ?_ fun _ => ?_
    · intro fault h
      cases BinaryOp.permit_error h
      exact .of_local nofun
    · refine .bind (Node.build_overflows depth left (sub _ (.head _))) fun _ => ?_
      exact .bind (Node.build_overflows depth right (sub _ (.tail _ (.head _)))) fun _ => .pure _
  | .connective op left right, sub => by
    rw [Kind.build]
    refine .bind (Node.build_overflows depth left (sub _ (.head _))) fun _ => ?_
    refine .bind (asPredicate_overflows _ _) fun _ => ?_
    refine .bind (Node.build_overflows depth right (sub _ (.tail _ (.head _)))) fun _ => ?_
    exact .bind (asPredicate_overflows _ _) fun _ => .pure _
  | .negation operand, sub => by
    rw [Kind.build]
    refine .bind (Node.build_overflows depth operand (sub _ (.head _))) fun _ => ?_
    exact .bind (asPredicate_overflows _ _) fun _ => .pure _
  | .typeOf ⟨kind, operandSpan⟩, sub => by
    cases kind with
    | path role path =>
      cases role with
      | plain =>
        -- the operand is not visited, so the chain goes through it without using up the limit
        rw [Kind.build]
        have inside : Fails (Overflows context depth
            (Node.Contains ⟨.path .plain path, operandSpan⟩)) _ :=
          Path.build_overflows depth operandSpan path fun _ h => h
        refine .bind (inside.mono fun _ h => ?_) fun _ => .pure _
        exact h.outer (Nat.le_succ _) (sub _ (.head _))
      | _ => exact .fail (.of_local nofun)
    | atom leaf =>
      cases leaf with
      | namedParameter | positionalParameter =>
        exact .bind (Node.build_overflows depth _ (sub _ (.head _))) fun _ => .pure _
      | _ => exact .fail (.of_local nofun)
    | _ => exact .fail (.of_local nofun)
  | .between negated operand low high, sub => by
    rw [Kind.build]
    refine .bind (Node.build_overflows depth operand (sub _ (.head _))) fun _ => ?_
    refine .bind (Node.build_overflows depth low (sub _ (.tail _ (.head _)))) fun _ => ?_
    refine .bind (Node.build_overflows depth high (sub _ (.tail _ (.tail _ (.head _))))) fun _ => ?_
    exact .pure _
  | .like negated operand pattern escape, sub => by
    rw [Kind.build]
    simp only [Kind.inner, List.forall_mem_cons] at sub
    refine .bind (buildOption_overflows depth escape sub.2.2) fun built => ?_
    split
    · exact .fail (.of_local nofun)
    · refine .bind (Node.build_overflows depth operand sub.1) fun _ => ?_
      exact .bind (Node.build_overflows depth pattern sub.2.1) fun _ => .pure _
  | .inList negated operand items parenthesized, sub => by
    rw [Kind.build]
    simp only [Kind.inner, List.forall_mem_cons] at sub
    refine .bind (Node.build_overflows depth operand sub.1) fun _ => ?_
    exact .bind (buildAll_overflows depth items sub.2) fun _ => .pure _
  | .simpleCase operand branches otherwise, sub => by
    rw [Kind.build]
    simp only [Kind.inner, List.forall_mem_cons, List.forall_mem_append] at sub
    refine .bind (Node.build_overflows depth operand sub.1) fun _ => ?_
    refine .bind (buildBranches_overflows depth branches sub.2.1) fun _ => ?_
    exact .bind (buildOption_overflows depth otherwise sub.2.2) fun _ => .pure _
  | .searchedCase branches otherwise, sub => by
    rw [Kind.build]
    simp only [Kind.inner, List.forall_mem_append] at sub
    refine .bind (buildSearched_overflows depth branches sub.1) fun _ => ?_
    exact .bind (buildOption_overflows depth otherwise sub.2) fun _ => .pure _
  | .trim side character operand, sub => by
    rw [Kind.build]
    simp only [Kind.inner, List.forall_mem_append, List.forall_mem_cons] at sub
    refine .bind (buildOption_overflows depth character sub.1) fun _ => ?_
    exact .bind (Node.build_overflows depth operand sub.2.1) fun _ => .pure _
  | .count distinct argument filter window, sub => by
    rw [Kind.build]
    simp only [Kind.inner, List.forall_mem_append] at sub
    refine .bind (buildOption_overflows depth argument sub.1.1) fun _ => ?_
    refine .bind (buildFilter_overflows depth filter sub.1.2) fun _ => ?_
    exact .bind (buildOver_overflows depth span window sub.2) fun _ => place_overflows _
  | .call call, sub => by
    rw [Kind.build]
    exact Call.build_overflows depth span call sub
  | .path role path, sub => by
    rw [Kind.build]
    refine .bind (Path.build_overflows depth span path sub) fun _ => ?_
    intro fault h
    obtain rfl | ⟨name, rfl⟩ := PathRole.build_error h <;> exact .of_local nofun
  | .memberOf negated element collection, sub => by
    rw [Kind.build]
    simp only [Kind.inner, List.forall_mem_cons] at sub
    refine .bind (Node.build_overflows depth element sub.1) fun _ => ?_
    refine .bind (Path.build_overflows depth span collection sub.2) fun _ => ?_
    refine .bind (fun fault h => ?_) fun _ => .pure _
    cases asPath_error h
    exact .of_local nofun
  | .applied (.constructor className) arguments, sub => by
    rw [Kind.build]
    exact .bind (buildAll_overflows depth arguments sub) fun _ => .pure _
  | .applied (.expansion name) arguments, sub => by
    rw [Kind.build]
    exact .bind (buildAll_overflows depth arguments sub) fun _ => place_overflows _

/-- A build of several nodes that fails about the nesting has such a chain from one of them. -/
theorem buildAll_overflows {nodes : Node → Prop} (depth : Nat) :
    ∀ items : List Node, (∀ inner ∈ items, nodes inner) →
    Fails (Overflows context depth nodes) (buildAll context depth items)
  | [], _ => .pure _
  | node :: rest, sub => by
    rw [buildAll]
    rw [List.forall_mem_cons] at sub
    refine .bind (Node.build_overflows depth node sub.1) fun _ => ?_
    exact .bind (buildAll_overflows depth rest sub.2) fun _ => .pure _

/-- A build of a node that may be missing has such a chain from the node. -/
theorem buildOption_overflows {nodes : Node → Prop} (depth : Nat) :
    ∀ node : Option Node, (∀ inner ∈ node.toList, nodes inner) →
    Fails (Overflows context depth nodes) (buildOption context depth node)
  | none, _ => .pure _
  | some node, sub => by
    rw [buildOption]
    exact .bind (Node.build_overflows depth node (sub _ (.head _))) fun _ => .pure _

/-- A build of a filter clause has such a chain from its condition. -/
theorem buildFilter_overflows {nodes : Node → Prop} (depth : Nat) :
    ∀ node : Option Node, (∀ inner ∈ node.toList, nodes inner) →
    Fails (Overflows context depth nodes) (buildFilter context depth node)
  | none, _ => .pure _
  | some node, sub => by
    rw [buildFilter]
    refine .bind (Node.build_overflows depth node (sub _ (.head _))) fun _ => ?_
    exact .bind (asPredicate_overflows _ _) fun _ => .pure _

/-- A build of the branches of a simple case expression has such a chain from a node of one. -/
theorem buildBranches_overflows {nodes : Node → Prop} (depth : Nat) :
    ∀ branches : List Branch, (∀ inner ∈ branches.flatMap Branch.inner, nodes inner) →
      Fails (Overflows context depth nodes) (buildBranches context depth branches)
  | [], _ => .pure _
  | ⟨condition, result⟩ :: rest, sub => by
    rw [buildBranches]
    simp only [List.flatMap_cons, Branch.inner, List.forall_mem_append, List.forall_mem_cons] at sub
    refine .bind (Node.build_overflows depth condition sub.1.1) fun _ => ?_
    refine .bind (Node.build_overflows depth result sub.1.2.1) fun _ => ?_
    exact .bind (buildBranches_overflows depth rest sub.2) fun _ => .pure _

/-- A build of the branches of a searched case expression has such a chain from a node of one. -/
theorem buildSearched_overflows {nodes : Node → Prop} (depth : Nat) :
    ∀ branches : List Branch, (∀ inner ∈ branches.flatMap Branch.inner, nodes inner) →
      Fails (Overflows context depth nodes) (buildSearched context depth branches)
  | [], _ => .pure _
  | ⟨condition, result⟩ :: rest, sub => by
    rw [buildSearched]
    simp only [List.flatMap_cons, Branch.inner, List.forall_mem_append, List.forall_mem_cons] at sub
    refine .bind (Node.build_overflows depth condition sub.1.1) fun _ => ?_
    refine .bind (asPredicate_overflows _ _) fun _ => ?_
    refine .bind (Node.build_overflows depth result sub.1.2.1) fun _ => ?_
    exact .bind (buildSearched_overflows depth rest sub.2) fun _ => .pure _

/-- A build of a path has such a chain from its qualifier or one of its indices. -/
theorem Path.build_overflows {nodes : Node → Prop} (depth : Nat) (span : Span) :
    ∀ path : Path, (∀ inner ∈ path.inner, nodes inner) →
    Fails (Overflows context depth nodes) (path.build context depth span)
  | ⟨none, []⟩, _ => .fail (.of_local nofun)
  | ⟨none, ⟨segments, index⟩ :: links⟩, sub => by
    rw [Path.build]
    simp only [Path.inner, Option.toList_none, List.nil_append, List.flatMap_cons,
      List.forall_mem_append] at sub
    refine .bind (checkLink_overflows _) fun _ => .bind ?_ fun constant => ?_
    · intro fault h
      obtain ⟨error, -, rfl⟩ := leadingConstant?_error h
      exact .of_local nofun
    · cases constant with
      | some constant => exact .pure _
      | none =>
        refine .bind (buildOption_overflows depth index sub.1) fun _ => ?_
        refine .bind (buildLinks_overflows depth span links sub.2) fun _ => ?_
        intro fault h
        obtain ⟨-, rfl⟩ := ofElements_error h
        exact .of_local nofun
  | ⟨some qualifier, []⟩, sub => by
    rw [Path.build]
    exact Node.build_overflows depth qualifier (sub _ (.head _))
  | ⟨some qualifier, ⟨segments, index⟩ :: links⟩, sub => by
    rw [Path.build]
    simp only [Path.inner, Option.toList_some, List.singleton_append, List.forall_mem_cons,
      List.flatMap_cons, List.forall_mem_append] at sub
    refine .bind (Node.build_overflows depth qualifier sub.1) fun _ => .bind ?_ fun _ => ?_
    · intro fault h
      cases startPath_error h
      exact .of_local nofun
    · refine .bind (checkLink_overflows _) fun _ => ?_
      refine .bind (buildOption_overflows depth index sub.2.1) fun _ => ?_
      exact .bind (buildLinks_overflows depth span links sub.2.2) fun _ => .pure _

/-- A build of the later links of a path has such a chain from one of their indices. -/
theorem buildLinks_overflows {nodes : Node → Prop} (depth : Nat) (span : Span) :
    ∀ links : List Link, (∀ inner ∈ links.flatMap fun link => link.index.toList, nodes inner) →
      Fails (Overflows context depth nodes) (buildLinks context depth span links)
  | [], _ => .pure _
  | ⟨segments, index⟩ :: rest, sub => by
    rw [buildLinks]
    simp only [List.flatMap_cons, List.forall_mem_append] at sub
    refine .bind (checkLink_overflows _) fun _ => ?_
    refine .bind (buildOption_overflows depth index sub.1) fun _ => ?_
    exact .bind (buildLinks_overflows depth span rest sub.2) fun _ => .pure _

/-- A build of a call has such a chain from an argument or a node of its clauses. -/
theorem Call.build_overflows {nodes : Node → Prop} (depth : Nat) (span : Span) :
    ∀ call : Call, (∀ inner ∈ call.inner, nodes inner) →
    Fails (Overflows context depth nodes) (call.build context depth span)
  | ⟨name, distinct, arguments, withinGroup, filter, window⟩, sub => by
    rw [Call.build]
    simp only [Call.inner, List.forall_mem_append] at sub
    refine .bind (buildAll_overflows depth arguments sub.1.1.1) fun _ => ?_
    refine .bind (buildGroup_overflows depth withinGroup sub.1.1.2) fun _ => ?_
    refine .bind (buildFilter_overflows depth filter sub.1.2) fun _ => ?_
    exact .bind (buildOver_overflows depth span window sub.2) fun _ => place_overflows _

/-- A build of a within group clause has such a chain from what it sorts by. -/
theorem buildGroup_overflows {nodes : Node → Prop} (depth : Nat) :
    ∀ items : Option (List OrderItem),
      (∀ inner ∈ (items.getD []).map OrderItem.expression, nodes inner) →
      Fails (Overflows context depth nodes) (buildGroup context depth items)
  | none, _ => .pure _
  | some items, sub => by
    rw [buildGroup]
    exact .bind (buildItems_overflows depth items sub) fun _ => .pure _

/-- A build of the items of an ordering has such a chain from what one of them sorts by. -/
theorem buildItems_overflows {nodes : Node → Prop} (depth : Nat) :
    ∀ items : List OrderItem, (∀ inner ∈ items.map OrderItem.expression, nodes inner) →
      Fails (Overflows context depth nodes) (buildItems context depth items)
  | [], _ => .pure _
  | ⟨expression, descending, nulls, collation, span⟩ :: rest, sub => by
    rw [buildItems]
    simp only [List.map_cons, List.forall_mem_cons] at sub
    refine .bind (Node.build_overflows depth expression sub.1) fun _ => ?_
    refine .bind (place_overflows _) fun _ => ?_
    exact .bind (buildItems_overflows depth rest sub.2) fun _ => .pure _

/-- A build of a window has such a chain from a node of its partition, its ordering or its frame. -/
theorem buildOver_overflows {nodes : Node → Prop} (depth : Nat) (span : Span) :
    ∀ window : Option Over, (∀ inner ∈ window.toList.flatMap Over.inner, nodes inner) →
      Fails (Overflows context depth nodes) (buildOver context depth span window)
  | none, _ => .pure _
  | some (.named name), _ => .pure _
  | some (.inline name partitionBy orderBy frame), sub => by
    rw [buildOver]
    simp only [Option.toList_some, List.flatMap_singleton, Over.inner,
      List.forall_mem_append] at sub
    refine .bind (buildAll_overflows depth partitionBy sub.1.1) fun _ => ?_
    refine .bind (buildItems_overflows depth orderBy sub.1.2) fun _ => ?_
    exact .bind (buildFrame_overflows depth span frame sub.2) fun _ => .pure _

/-- A build of a frame has such a chain from what its bounds count from. -/
theorem buildFrame_overflows {nodes : Node → Prop} (depth : Nat) (span : Span) :
    ∀ frame : Option (Frame Node), (∀ inner ∈ frame.toList.flatMap Frame.offsets, nodes inner) →
      Fails (Overflows context depth nodes) (buildFrame context depth span frame)
  | none, _ => .pure _
  | some ⟨mode, start, stop, exclusion⟩, sub => by
    rw [buildFrame]
    simp only [Option.toList_some, List.flatMap_singleton, Frame.offsets,
      List.forall_mem_append] at sub
    refine .bind (buildBound_overflows depth start sub.1) fun _ => ?_
    refine .bind (buildStop_overflows depth stop sub.2) fun _ => ?_
    exact .bind (place_overflows _) fun _ => .pure _

/-- A build of the end of a frame has such a chain from what it counts from. -/
theorem buildStop_overflows {nodes : Node → Prop} (depth : Nat) :
    ∀ bound : Option (Bound Node), (∀ inner ∈ bound.toList.flatMap Bound.offsets, nodes inner) →
      Fails (Overflows context depth nodes) (buildStop context depth bound)
  | none, _ => .pure _
  | some bound, sub => by
    rw [buildStop]
    simp only [Option.toList_some, List.flatMap_singleton] at sub
    exact .bind (buildBound_overflows depth bound sub) fun _ => .pure _

/-- A build of a bound has such a chain from what it counts from. -/
theorem buildBound_overflows {nodes : Node → Prop} (depth : Nat) :
    ∀ bound : Bound Node, (∀ inner ∈ bound.offsets, nodes inner) →
    Fails (Overflows context depth nodes) (buildBound context depth bound)
  | .unboundedPreceding, _ | .currentRow, _ | .unboundedFollowing, _ => .pure _
  | .preceding offset, sub => by
    rw [buildBound]
    exact .bind (Node.build_overflows depth offset (sub _ (.head _))) fun _ => .pure _
  | .following offset, sub => by
    rw [buildBound]
    exact .bind (Node.build_overflows depth offset (sub _ (.head _))) fun _ => .pure _

end

end Syntax

/-- The build of a request fails about the nesting only for a tree with a chain beyond the limit. -/
lemma Request.build_overflows {context : Context} {fault limit} (request : Request)
    (h : (request.build context 0).result = .error fault) (nested : fault.cause = .nesting limit) :
    limit = context.options.maxDepth ∧ ∃ height, request.tree.Tower height ∧ limit < height := by
  have fails : Fails (Syntax.Overflows context 0 (· = request.tree)) (request.build context 0) := by
    cases request with
    | expression tree => exact Syntax.Node.build_overflows 0 tree rfl
    | predicate tree =>
      refine .bind (.bind (Syntax.Node.build_overflows 0 tree rfl) fun _ => ?_) fun _ => .pure _
      exact Syntax.asPredicate_overflows _ _
  obtain ⟨same, node, rfl, height, tower, beyond⟩ := fails fault h limit nested
  exact ⟨same, height, tower, by omega⟩

/-- The context with another limit on nesting. -/
def Context.limited (context : Context) (limit : Nat) : Context :=
  { context with options := { context.options with maxDepth := limit } }

/-- A context with a smaller limit differs from the context only by what it refuses for the
nesting. -/
lemma Context.narrows_limited (context : Context) (limit : Nat) :
    (context.limited limit).Narrows (fun fault => fault.cause = .nesting limit) context where
  functions := rfl
  enums := rfl
  entities := rfl
  temporal := rfl
  minEnumSegments := rfl
  minEntitySegments := rfl
  macros _ := .inl rfl
  outer := .inl rfl
  quantifiers := .inl rfl
  bareTreat := .inl rfl
  nesting _ := rfl

/-- A request that succeeds under a limit does the same under a smaller one, or goes the same way
until it is stopped there. -/
lemma Session.answer_limited {session : Session} {request : Request} {e limit}
    (h : (session.answer request).1 = .ok e) (smaller : limit ≤ session.context.options.maxDepth) :
    let limited := session.inContext (session.context.limited limit)
    ((limited.answer request).1 = .ok e ∧
        (limited.answer request).2.used = (session.answer request).2.used) ∨
      ∃ error, (limited.answer request).1 = .error error ∧ error.complaint = .nesting limit ∧
        (limited.answer request).2.used.names <+: (session.answer request).2.used.names := by
  intro limited
  have cut : Cut _ (request.build limited.context 0) (request.build session.context 0) :=
    Request.build_cut (session.context.narrows_limited limit) smaller request
  rw [answer_eq_report, answer_eq_report]
  rw [answer_eq_report] at h
  have log : (limited.report (request.build limited.context 0)).2.used.names <+:
      (session.report (request.build session.context 0)).2.used.names :=
    session.used.addAll_prefix cut.macros
  cases built : (request.build limited.context 0).result with
  | ok other =>
    -- nothing was cut off, so both builds are the same run
    have same := cut.eq_of_ok built
    rw [← same] at h ⊢
    exact .inl ⟨report_ok.2 (report_ok.1 h), rfl⟩
  | error fault =>
    obtain failed | stop := cut.error_or_stops built
    · cases failed.symm.trans (report_ok.1 h)
    · refine .inr ⟨fault.report session.source, report_error.2 ⟨fault, built, rfl⟩, ?_, log⟩
      rw [Fault.complaint_report, Cause.complaint_eq_nesting]
      exact stop

/-- The nesting is accounted for exactly. A request fails about the nesting only at the limit and
for a tree with a longer chain of nested nodes. Under a smaller limit it is answered alike or fails
at that limit, with a beginning of the macros. A builder that counts the nodes it is in has the same
count after every visit, so that it serves any requests in turn as if each were the first, which is
how a session answers them. -/
theorem Session.nesting_accounted (session : Session) :
    (∀ request error limit, (session.answer request).1 = .error error →
      error.complaint = .nesting limit → limit = session.context.options.maxDepth ∧
        ∃ height, request.tree.Tower height ∧ limit < height) ∧
    (∀ request e limit, (session.answer request).1 = .ok e →
      limit ≤ session.context.options.maxDepth →
      let limited := session.inContext (session.context.limited limit)
      ((limited.answer request).1 = .ok e ∧
          (limited.answer request).2.used = (session.answer request).2.used) ∨
        ∃ error, (limited.answer request).1 = .error error ∧ error.complaint = .nesting limit ∧
          (limited.answer request).2.used.names <+: (session.answer request).2.used.names) ∧
    (∀ (node : Syntax.Node) progress,
      (node.visit session.context progress).2.depth = progress.depth) ∧
    (∀ requests used fresh, (Request.serveAll session.context requests ⟨0, used⟩).1 =
      requests.map fun request => (request.serve session.context ⟨0, fresh⟩).1) ∧
    ∀ request : Request, let (outcome, after) := request.serve session.context ⟨0, session.used⟩
      session.answer request =
        (outcome.mapError (Fault.report session.source), { session with used := after.used }) := by
  refine ⟨?limit, ?smaller, ?count, ?sequence, ?running⟩
  case limit =>
    intro request error limit failed nested
    rw [answer_eq_report] at failed
    obtain ⟨fault, built, rfl⟩ := report_error.1 failed
    rw [Fault.complaint_report, Cause.complaint_eq_nesting] at nested
    exact request.build_overflows built nested
  case smaller =>
    intro request e limit built smaller
    exact answer_limited built smaller
  case count =>
    intro node progress
    rw [node.visit_counts session.context progress]
    rfl
  case sequence =>
    intro requests used fresh
    rw [Request.serveAll_eq]
    refine List.map_congr_left fun request _ => ?_
    rw [request.serve_counts session.context]
    rfl
  case running => exact Request.answer_eq_serve session

/-- A sum that needs four nested nodes: a macro is used on its left side before the limit is met on
its right side. -/
theorem Session.nesting_accounted_sum :
    let session := Session.start .withFirst ""
    let limited := session.inContext (session.context.limited 3)
    let request := Request.expression (.binary .add (.call "first" [.identifier "a"])
      (.unary .grouped (.unary .grouped (.identifier "b"))))
    (∃ e, (session.answer request).1 = .ok e) ∧
    (∃ error, (limited.answer request).1 = .error error ∧ error.complaint = .nesting 3 ∧
      (limited.answer request).2.used.names <+: (session.answer request).2.used.names) ∧
    ∃ height, request.tree.Tower height ∧ 3 < height := by
  intro session limited request
  have built : ∃ e, (session.answer request).1 = .ok e := by
    simp only [session, request]
    exact ⟨_, rfl⟩
  obtain ⟨limit, -⟩ := limited.nesting_accounted
  obtain ⟨-, smaller, -⟩ := session.nesting_accounted
  obtain ⟨e, done⟩ := built
  obtain ⟨same, -⟩ | stopped := smaller request e 3 done (by decide)
  · simp only [request, session] at same
    cases same
  · obtain ⟨error, failed, nested, log⟩ := stopped
    exact ⟨⟨e, done⟩, ⟨error, failed, nested, log⟩, (limit request error 3 failed nested).2⟩

end QueryExpr
