import QueryExpr.Proofs.Build.Faults
import QueryExpr.Proofs.Build.Inversion
import QueryExpr.Proofs.Session.Request
import QueryExpr.Proofs.Syntax.Spans
import QueryExpr.Syntax.Construct

/-!
# Spans and the text of the query

Where a tree stands in the query text matters only for where an error is placed and for the text it
shows. `Syntax.Node.build_unplaced` follows the builder with a tree and the tree without its spans:
both builds are alike up to the span of a fault. So by `Session.answer_agree` trees that differ in
their spans alone are answered alike, against whatever texts.
-/

namespace QueryExpr

open Traced

/-- Runs that differ at most in the span of their fault. -/
abbrev Unmoved {α : Type} (s t : Traced Fault α) : Prop :=
  Alike Fault.cause s t

namespace Syntax

variable {context : Context} {span span' : Span}

/-- Resolving is the same at any two spans. -/
lemma place_unmoved {α : Type} (t : Traced ResolveError α) :
    Unmoved (place span t) (place span' t) := by
  obtain ⟨result, names⟩ := t
  cases result <;> rfl

/-- The node that a predicate was built from matters by the name of its alternative. -/
lemma asPredicate_unmoved (node : Node) (built : Expression) :
    Unmoved (liftM (asPredicate node.unplaced built)) (liftM (asPredicate node built)) := by
  unfold asPredicate
  split
  · exact .refl _
  · exact .refl _
  · refine .fail ?_
    rw [node.unplaced_kind, Kind.name_unplaced]

/-- Taking an expression as a path is the same at any two spans. -/
lemma asPath_unmoved (name : String) (built : Expression) :
    Unmoved (liftM (asPath span name built)) (liftM (asPath span' name built)) := by
  unfold asPath
  split
  · exact .refl _
  · exact .fail rfl

/-- A step with one operand is the same at any two spans. -/
lemma UnaryOp.build_unmoved (op : UnaryOp) (operand : Expression) :
    Unmoved (liftM (op.build span operand)) (liftM (op.build span' operand)) := by
  cases op with
  | isEmpty negated =>
    simp only [UnaryOp.build, lift_bind]
    exact .bind (asPath_unmoved "IS EMPTY" operand) fun _ => .refl _
  | _ => exact .refl _

/-- Permitting a step with two operands is the same at any two spans. -/
lemma BinaryOp.permit_unmoved (op : BinaryOp) (options : Options) :
    Unmoved (liftM (op.permit options span)) (liftM (op.permit options span')) := by
  unfold BinaryOp.permit
  split
  · split
    · exact .refl _
    · exact .fail rfl
  · exact .refl _

/-- Whether a list has a single bare item does not depend on spans. -/
lemma isBareItem_unplaced (items : List Node) (parenthesized : Bool) :
    isBareItem (unplacedAll items) parenthesized = isBareItem items parenthesized := by
  cases items with
  | nil => rfl
  | cons item rest =>
    cases rest with
    | nil =>
      obtain ⟨kind, span⟩ := item
      cases kind <;> rfl
    | cons => rfl

/-- What is made of a path is the same at any two spans. -/
lemma PathRole.build_unmoved (role : PathRole) (options : Options) (built : Expression) :
    Unmoved (liftM (role.build options span built)) (liftM (role.build options span' built)) := by
  cases role with
  | plain =>
    simp only [PathRole.build]
    split
    · exact .fail rfl
    · exact .refl _
  | treat entityName =>
    simp only [PathRole.build]
    split <;> exact .refl _
  | value | key | entry =>
    simp only [PathRole.build, lift_bind]
    exact .bind (asPath_unmoved _ built) fun _ => .refl _

/-- A qualifier starts the same path without its spans. -/
lemma startPath_unmoved (qualifier : Node) (built : Expression) :
    Unmoved (liftM (startPath qualifier.unplaced built)) (liftM (startPath qualifier built)) := by
  unfold startPath
  split
  · exact .refl _
  · split
    · exact .refl _
    · exact .fail rfl

/-- Checking a link is the same at any two spans. -/
lemma checkLink_unmoved (segments : List String) :
    Unmoved (liftM (checkLink span segments)) (liftM (checkLink span' segments)) := by
  unfold checkLink
  split
  · exact .fail rfl
  · exact .refl _

/-- The leading constant of a path is the same at any two spans. -/
lemma leadingConstant?_unmoved (segments : List String) (index : Option Node) :
    Unmoved (liftM (leadingConstant? context span segments (unplacedOption index)))
      (liftM (leadingConstant? context span' segments index)) := by
  simp only [leadingConstant?, isSome_unplacedOption]
  split
  · exact .refl _
  · cases context.leadingConstant? segments with
    | ok constant => exact .refl _
    | error error => exact .fail rfl

/-- Elements make the same path at any two spans. -/
lemma ofElements_unmoved (elements : List PathElement) :
    Unmoved (liftM (ofElements span elements)) (liftM (ofElements span' elements)) := by
  unfold ofElements
  split
  · exact .refl _
  · exact .fail rfl

/-! The induction follows the builder, one lemma for each of its functions: at every span that it is
given, it does with a part of a tree what it does at any other span with the part without spans. -/

mutual

/-- A node is built like the node without its spans. -/
theorem Node.build_unplaced (depth : Nat) : ∀ node : Node,
    Unmoved (node.unplaced.build context depth) (node.build context depth)
  | ⟨kind, span⟩ => by
    rw [Node.unplaced, Node.build, Node.build]
    split
    · exact .fail rfl
    · exact Kind.build_unplaced (depth + 1) Span.empty span kind

/-- An alternative is built like the alternative without its spans. -/
theorem Kind.build_unplaced (depth : Nat) (span span' : Span) : ∀ kind : Kind,
    Unmoved (kind.unplaced.build context depth span) (kind.build context depth span')
  | .atom leaf => by
    rw [Kind.unplaced, Kind.build, Kind.build]
    cases leaf.build context with
    | ok expression => exact .refl _
    | error cause => exact .fail rfl
  | .unary op operand => by
    rw [Kind.unplaced, Kind.build, Kind.build]
    exact .bind (Node.build_unplaced depth operand) fun _ => op.build_unmoved _
  | .binary op left right => by
    rw [Kind.unplaced, Kind.build, Kind.build]
    refine .bind (op.permit_unmoved _) fun _ => ?_
    refine .bind (Node.build_unplaced depth left) fun _ => ?_
    exact .bind (Node.build_unplaced depth right) fun _ => .refl _
  | .connective op left right => by
    rw [Kind.unplaced, Kind.build, Kind.build]
    refine .bind (Node.build_unplaced depth left) fun _ => ?_
    refine .bind (asPredicate_unmoved left _) fun _ => ?_
    refine .bind (Node.build_unplaced depth right) fun _ => ?_
    exact .bind (asPredicate_unmoved right _) fun _ => .refl _
  | .negation operand => by
    rw [Kind.unplaced, Kind.build, Kind.build]
    refine .bind (Node.build_unplaced depth operand) fun _ => ?_
    exact .bind (asPredicate_unmoved operand _) fun _ => .refl _
  | .typeOf ⟨kind, operandSpan⟩ => by
    -- the operand of a type is built only if it is a path or a parameter
    cases kind with
    | path role path =>
      cases role with
      | plain =>
        rw [Kind.unplaced, Node.unplaced, Kind.unplaced, Kind.build, Kind.build]
        exact .bind (Path.build_unplaced depth _ operandSpan path) fun _ => .refl _
      | _ => exact .fail rfl
    | atom leaf =>
      cases leaf with
      | namedParameter | positionalParameter =>
        exact .bind (Node.build_unplaced depth ⟨.atom _, operandSpan⟩) fun _ => .refl _
      | _ => exact .fail rfl
    | _ => exact .fail (congrArg Cause.typeOperand (Kind.name_unplaced _))
  | .between negated operand low high => by
    rw [Kind.unplaced, Kind.build, Kind.build]
    refine .bind (Node.build_unplaced depth operand) fun _ => ?_
    refine .bind (Node.build_unplaced depth low) fun _ => ?_
    exact .bind (Node.build_unplaced depth high) fun _ => .refl _
  | .like negated operand pattern escape => by
    rw [Kind.unplaced, Kind.build, Kind.build]
    refine .bind (buildOption_unplaced depth escape) fun built => ?_
    split
    · exact .fail rfl
    · refine .bind (Node.build_unplaced depth operand) fun _ => ?_
      exact .bind (Node.build_unplaced depth pattern) fun _ => .refl _
  | .inList negated operand items parenthesized => by
    rw [Kind.unplaced, Kind.build, Kind.build, isBareItem_unplaced]
    refine .bind (Node.build_unplaced depth operand) fun _ => ?_
    exact .bind (buildAll_unplaced depth items) fun _ => .refl _
  | .simpleCase operand branches otherwise => by
    rw [Kind.unplaced, Kind.build, Kind.build]
    refine .bind (Node.build_unplaced depth operand) fun _ => ?_
    refine .bind (buildBranches_unplaced depth branches) fun _ => ?_
    exact .bind (buildOption_unplaced depth otherwise) fun _ => .refl _
  | .searchedCase branches otherwise => by
    rw [Kind.unplaced, Kind.build, Kind.build]
    refine .bind (buildSearched_unplaced depth branches) fun _ => ?_
    exact .bind (buildOption_unplaced depth otherwise) fun _ => .refl _
  | .trim side character operand => by
    rw [Kind.unplaced, Kind.build, Kind.build]
    refine .bind (buildOption_unplaced depth character) fun _ => ?_
    exact .bind (Node.build_unplaced depth operand) fun _ => .refl _
  | .count distinct argument filter window => by
    rw [Kind.unplaced, Kind.build, Kind.build]
    refine .bind (buildOption_unplaced depth argument) fun _ => ?_
    refine .bind (buildFilter_unplaced depth filter) fun _ => ?_
    exact .bind (buildOver_unplaced depth span span' window) fun _ => place_unmoved _
  | .call call => by
    rw [Kind.unplaced, Kind.build, Kind.build]
    exact Call.build_unplaced depth span span' call
  | .path role path => by
    rw [Kind.unplaced, Kind.build, Kind.build]
    exact .bind (Path.build_unplaced depth span span' path) fun _ => role.build_unmoved _ _
  | .memberOf negated element collection => by
    rw [Kind.unplaced, Kind.build, Kind.build]
    refine .bind (Node.build_unplaced depth element) fun _ => ?_
    refine .bind (Path.build_unplaced depth span span' collection) fun _ => ?_
    exact .bind (asPath_unmoved _ _) fun _ => .refl _
  | .applied (.constructor className) arguments => by
    rw [Kind.unplaced, Kind.build, Kind.build]
    exact .bind (buildAll_unplaced depth arguments) fun _ => .refl _
  | .applied (.expansion name) arguments => by
    rw [Kind.unplaced, Kind.build, Kind.build]
    exact .bind (buildAll_unplaced depth arguments) fun _ => place_unmoved _

/-- Nodes are built like the nodes without their spans. -/
theorem buildAll_unplaced (depth : Nat) : ∀ nodes : List Node,
    Unmoved (buildAll context depth (unplacedAll nodes)) (buildAll context depth nodes)
  | [] => .refl _
  | node :: rest => by
    rw [unplacedAll, buildAll, buildAll]
    refine .bind (Node.build_unplaced depth node) fun _ => ?_
    exact .bind (buildAll_unplaced depth rest) fun _ => .refl _

/-- A node that may be missing is built like the node without its spans. -/
theorem buildOption_unplaced (depth : Nat) : ∀ node : Option Node,
    Unmoved (buildOption context depth (unplacedOption node)) (buildOption context depth node)
  | none => .refl _
  | some node => by
    rw [unplacedOption, buildOption, buildOption]
    exact .bind (Node.build_unplaced depth node) fun _ => .refl _

/-- A filter clause is built like the clause without its spans. -/
theorem buildFilter_unplaced (depth : Nat) : ∀ node : Option Node,
    Unmoved (buildFilter context depth (unplacedOption node)) (buildFilter context depth node)
  | none => .refl _
  | some node => by
    rw [unplacedOption, buildFilter, buildFilter]
    refine .bind (Node.build_unplaced depth node) fun _ => ?_
    exact .bind (asPredicate_unmoved node _) fun _ => .refl _

/-- The branches of a simple case expression are built like those without their spans. -/
theorem buildBranches_unplaced (depth : Nat) : ∀ branches : List Branch,
    Unmoved (buildBranches context depth (unplacedBranches branches))
      (buildBranches context depth branches)
  | [] => .refl _
  | ⟨condition, result⟩ :: rest => by
    rw [unplacedBranches, buildBranches, buildBranches]
    refine .bind (Node.build_unplaced depth condition) fun _ => ?_
    refine .bind (Node.build_unplaced depth result) fun _ => ?_
    exact .bind (buildBranches_unplaced depth rest) fun _ => .refl _

/-- The branches of a searched case expression are built like those without their spans. -/
theorem buildSearched_unplaced (depth : Nat) : ∀ branches : List Branch,
    Unmoved (buildSearched context depth (unplacedBranches branches))
      (buildSearched context depth branches)
  | [] => .refl _
  | ⟨condition, result⟩ :: rest => by
    rw [unplacedBranches, buildSearched, buildSearched]
    refine .bind (Node.build_unplaced depth condition) fun _ => ?_
    refine .bind (asPredicate_unmoved condition _) fun _ => ?_
    refine .bind (Node.build_unplaced depth result) fun _ => ?_
    exact .bind (buildSearched_unplaced depth rest) fun _ => .refl _

/-- A path is built like the path without its spans. -/
theorem Path.build_unplaced (depth : Nat) (span span' : Span) : ∀ path : Path,
    Unmoved (path.unplaced.build context depth span) (path.build context depth span')
  | ⟨none, []⟩ => .fail rfl
  | ⟨none, ⟨segments, index⟩ :: links⟩ => by
    rw [Path.unplaced, unplacedOption, unplacedLinks, Path.build, Path.build]
    refine .bind (checkLink_unmoved segments) fun _ => ?_
    refine .bind (leadingConstant?_unmoved segments index) fun constant => ?_
    cases constant with
    | some constant => exact .refl _
    | none =>
      refine .bind (buildOption_unplaced depth index) fun _ => ?_
      exact .bind (buildLinks_unplaced depth span span' links) fun _ => ofElements_unmoved _
  | ⟨some qualifier, []⟩ => by
    rw [Path.unplaced, unplacedOption, unplacedLinks, Path.build, Path.build]
    exact Node.build_unplaced depth qualifier
  | ⟨some qualifier, ⟨segments, index⟩ :: links⟩ => by
    rw [Path.unplaced, unplacedOption, unplacedLinks, Path.build, Path.build]
    refine .bind (Node.build_unplaced depth qualifier) fun _ => ?_
    refine .bind (startPath_unmoved qualifier _) fun _ => ?_
    refine .bind (checkLink_unmoved segments) fun _ => ?_
    refine .bind (buildOption_unplaced depth index) fun _ => ?_
    exact .bind (buildLinks_unplaced depth span span' links) fun _ => .refl _

/-- The later links of a path are built like those without their spans. -/
theorem buildLinks_unplaced (depth : Nat) (span span' : Span) : ∀ links : List Link,
    Unmoved (buildLinks context depth span (unplacedLinks links))
      (buildLinks context depth span' links)
  | [] => .refl _
  | ⟨segments, index⟩ :: rest => by
    rw [unplacedLinks, buildLinks, buildLinks]
    refine .bind (checkLink_unmoved segments) fun _ => ?_
    refine .bind (buildOption_unplaced depth index) fun _ => ?_
    exact .bind (buildLinks_unplaced depth span span' rest) fun _ => .refl _

/-- A call is built like the call without its spans. -/
theorem Call.build_unplaced (depth : Nat) (span span' : Span) : ∀ call : Call,
    Unmoved (call.unplaced.build context depth span) (call.build context depth span')
  | ⟨name, distinct, arguments, withinGroup, filter, window⟩ => by
    rw [Call.unplaced, Call.build, Call.build]
    refine .bind (buildAll_unplaced depth arguments) fun _ => ?_
    refine .bind (buildGroup_unplaced depth withinGroup) fun _ => ?_
    refine .bind (buildFilter_unplaced depth filter) fun _ => ?_
    exact .bind (buildOver_unplaced depth span span' window) fun _ => place_unmoved _

/-- A within group clause is built like the clause without its spans. -/
theorem buildGroup_unplaced (depth : Nat) : ∀ items : Option (List OrderItem),
    Unmoved (buildGroup context depth (unplacedGroup items)) (buildGroup context depth items)
  | none => .refl _
  | some items => by
    rw [unplacedGroup, buildGroup, buildGroup]
    exact .bind (buildItems_unplaced depth items) fun _ => .refl _

/-- The items of an ordering are built like those without their spans. -/
theorem buildItems_unplaced (depth : Nat) : ∀ items : List OrderItem,
    Unmoved (buildItems context depth (unplacedItems items)) (buildItems context depth items)
  | [] => .refl _
  | ⟨expression, descending, nulls, collation, span⟩ :: rest => by
    rw [unplacedItems, buildItems, buildItems]
    refine .bind (Node.build_unplaced depth expression) fun _ => ?_
    refine .bind (place_unmoved _) fun _ => ?_
    exact .bind (buildItems_unplaced depth rest) fun _ => .refl _

/-- A window is built like the window without its spans. -/
theorem buildOver_unplaced (depth : Nat) (span span' : Span) : ∀ window : Option Over,
    Unmoved (buildOver context depth span (unplacedOver window))
      (buildOver context depth span' window)
  | none => .refl _
  | some (.named name) => .refl _
  | some (.inline name partitionBy orderBy frame) => by
    rw [unplacedOver, buildOver, buildOver]
    refine .bind (buildAll_unplaced depth partitionBy) fun _ => ?_
    refine .bind (buildItems_unplaced depth orderBy) fun _ => ?_
    exact .bind (buildFrame_unplaced depth span span' frame) fun _ => .refl _

/-- A frame is built like the frame without its spans. -/
theorem buildFrame_unplaced (depth : Nat) (span span' : Span) : ∀ frame : Option (Frame Node),
    Unmoved (buildFrame context depth span (unplacedFrame frame))
      (buildFrame context depth span' frame)
  | none => .refl _
  | some ⟨mode, start, stop, exclusion⟩ => by
    rw [unplacedFrame, buildFrame, buildFrame]
    refine .bind (buildBound_unplaced depth start) fun _ => ?_
    refine .bind (buildStop_unplaced depth stop) fun _ => ?_
    exact .bind (place_unmoved _) fun _ => .refl _

/-- The end of a frame is built like the end without its spans. -/
theorem buildStop_unplaced (depth : Nat) : ∀ bound : Option (Bound Node),
    Unmoved (buildStop context depth (unplacedStop bound)) (buildStop context depth bound)
  | none => .refl _
  | some bound => by
    rw [unplacedStop, buildStop, buildStop]
    exact .bind (buildBound_unplaced depth bound) fun _ => .refl _

/-- A bound is built like the bound without its spans. -/
theorem buildBound_unplaced (depth : Nat) : ∀ bound : Bound Node,
    Unmoved (buildBound context depth (unplacedBound bound)) (buildBound context depth bound)
  | .unboundedPreceding | .currentRow | .unboundedFollowing => .refl _
  | .preceding offset | .following offset => by
    rw [unplacedBound, buildBound, buildBound]
    exact .bind (Node.build_unplaced depth offset) fun _ => .refl _

end

end Syntax

/-- A request for the tree without its spans. -/
def Request.unplaced : Request → Request
  | expression tree => expression tree.unplaced
  | predicate tree => predicate tree.unplaced

/-- A request is built like the request without its spans. -/
lemma Request.build_unplaced {context : Context} (depth : Nat) (request : Request) :
    Unmoved (request.unplaced.build context depth) (request.build context depth) := by
  cases request with
  | expression tree => exact Syntax.Node.build_unplaced depth tree
  | predicate tree =>
    refine .bind ?_ fun _ => .refl _
    exact .bind (Syntax.Node.build_unplaced depth tree) fun _ => Syntax.asPredicate_unmoved tree _

namespace Session

/-- Outcomes that are the same value, or errors of the same code and complaint. The complaint is the
class of an error with its message, its limit or the reason that a macro gave. -/
inductive Agree {α : Type} : Except BuildError α → Except BuildError α → Prop where
  | built (value : α) : Agree (.ok value) (.ok value)
  | failed {first second : BuildError} : first.code = second.code →
      first.complaint = second.complaint → Agree (.error first) (.error second)

/-- A fault is reported by its cause wherever it is and against whatever text. -/
lemma agree_report {source source' : String} {first second : Fault}
    (same : first.cause = second.cause) {α : Type} :
    Agree (α := α) (.error (first.report source)) (.error (second.report source')) := by
  refine .failed ?code ?complaint
  case code => rw [Fault.code_report, Fault.code_report, same]
  case complaint => rw [Fault.complaint_report, Fault.complaint_report, same]

/-- Requests for trees that differ only in their spans are answered alike against any two texts:
with the same expression, or with errors that differ only in where they are and in the text they
show. The macros used are the same. -/
theorem answer_agree (session : Session) (source : String) {first second : Request}
    (same : first.unplaced = second.unplaced) :
    let other := { session with source := source }
    Agree (session.answer first).1 (other.answer second).1 ∧
      (session.answer first).2.used = (other.answer second).2.used := by
  intro other
  -- both requests are built like the one without spans that they share
  have alike : Unmoved (first.build session.context 0) (second.build session.context 0) := by
    have left : Unmoved (first.unplaced.build session.context 0) _ := first.build_unplaced 0
    have right : Unmoved (second.unplaced.build session.context 0) _ := second.build_unplaced 0
    rw [same] at left
    exact left.symm.trans right
  rw [answer_eq_report, answer_eq_report]
  constructor
  · simp only [report]
    obtain ⟨e, built, built'⟩ | ⟨fault, fault', failed, failed', cause⟩ := alike.cases
    · rw [built, built']
      exact .built e
    · rw [failed, failed']
      exact agree_report cause
  · exact congrArg session.used.addAll alike.macros

open Syntax in
/-- A sum whose right side cannot be resolved, after a macro on its left side, at two places. -/
theorem answer_agree_moved :
    let session := Session.start .withFirst "first(a) + g(b)"
    let sum (place : Nat) := Request.expression (.binary .add
      ((Node.call "first" [.identifier "a"]).located place (place + 8))
      ((Node.call "g" [.identifier "b"]).located (place + 11) (place + 15)))
    let other := { session with source := "  first(a) + g(b)" }
    (sum 0).unplaced = (sum 2).unplaced ∧ sum 0 ≠ sum 2 ∧
      (∃ error, (session.answer (sum 0)).1 = .error error) ∧
      Agree (session.answer (sum 0)).1 (other.answer (sum 2)).1 ∧
      (session.answer (sum 0)).2.used = (other.answer (sum 2)).2.used := by
  intro session sum other
  have differs : sum 0 ≠ sum 2 := by
    intro same
    injection same with tree
    injection tree with kind
    injection kind with op left
    injection left with kind span
    cases span
  refine ⟨rfl, differs, ?_, session.answer_agree _ rfl⟩
  simp only [sum, session]
  exact ⟨_, rfl⟩

end Session

end QueryExpr
