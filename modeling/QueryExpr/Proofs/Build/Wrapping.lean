import QueryExpr.Proofs.Build.Faults
import QueryExpr.Proofs.Build.Inversion
import QueryExpr.Proofs.Session.Request
import QueryExpr.Proofs.Syntax.Wrapping
import QueryExpr.Syntax.Construct

/-!
# Parentheses and plus signs

Parentheses and plus signs around nodes matter for the nesting and for nothing else.
`Syntax.Node.Wrap.build` follows the builder with a tree and the tree with wrappers: both builds are
alike unless the one with wrappers is refused for its nesting. So by `Session.answer_wrapped` both
are answered alike where the limit on nesting allows for the wrappers.
-/

namespace QueryExpr

open Traced

namespace Fault

/-- What a fault is about: its cause, without the name of an alternative that is no predicate. -/
def subject (fault : Fault) : Cause :=
  match fault.cause with
  | .notPredicate _ => .notPredicate ""
  | other => other

/-- A fault is about something with the code of its cause. -/
lemma code_subject (fault : Fault) : fault.subject.code = fault.cause.code := by
  obtain ⟨cause, span⟩ := fault
  cases cause <;> rfl

/-- Faults about nodes that are nested deeper than allowed. -/
def IsNesting (fault : Fault) : Prop :=
  ∃ limit, fault.cause = .nesting limit

end Fault

/-- A run that goes like another one up to where a fault is and to the name of what is no predicate,
unless that one is stopped for the nesting. -/
abbrev Tracks {α : Type} (s t : Traced Fault α) : Prop :=
  Follows Fault.IsNesting Fault.subject s t

namespace Syntax

variable {context : Context} {depth level : Nat}

/-- Nodes go alike if what is in them does. The limit is not met earlier by the first one. -/
lemma Node.build_tracks {kind kind' : Kind} {span span' : Span} (le : depth ≤ level)
    (inside : Tracks (kind.build context (depth + 1) span)
      (kind'.build context (level + 1) span')) :
    Tracks (Node.build context depth ⟨kind, span⟩) (Node.build context level ⟨kind', span'⟩) := by
  rw [Node.build, Node.build]
  by_cases full : context.options.maxDepth ≤ level
  · rw [if_pos full]
    exact .stop ⟨_, rfl⟩ _
  · rw [if_neg full, if_neg fun earlier => full (Nat.le_trans earlier le)]
    exact inside

/-- A node goes like the one in parentheses or after a plus sign, unless that one meets the
limit. -/
lemma Node.build_around {op : UnaryOp} {node operand : Node} {span : Span}
    (plain : op = .grouped ∨ op = .plus)
    (inside : Tracks (node.build context depth) (operand.build context (level + 1))) :
    Tracks (node.build context depth) (Node.build context level ⟨.unary op operand, span⟩) := by
  rw [Node.build]
  split
  · exact .stop ⟨_, rfl⟩ _
  · have whole : (Kind.unary op operand).build context (level + 1) span =
        operand.build context (level + 1) := by
      obtain rfl | rfl := plain <;> exact bind_pure _
    rw [whole]
    exact inside

/-- An expression is a predicate for any two nodes alike, up to the name of what is none. -/
lemma asPredicate_tracks (node node' : Node) (built : Expression) :
    Tracks (liftM (asPredicate node built)) (liftM (asPredicate node' built)) := by
  unfold asPredicate
  split
  · exact .refl _
  · exact .refl _
  · exact .fail rfl

/-- An expression starts a path for any two qualifiers alike, up to where the fault is. -/
lemma startPath_tracks (qualifier qualifier' : Node) (built : Expression) :
    Tracks (liftM (startPath qualifier built)) (liftM (startPath qualifier' built)) := by
  unfold startPath
  split
  · exact .refl _
  · split
    · exact .refl _
    · exact .fail rfl

/-- Several items, or items in parentheses, are no bare item. -/
lemma isBareItem_eq_false {items : List Node} {parenthesized : Bool}
    (h : items.length = 1 → parenthesized = true) : isBareItem items parenthesized = false := by
  refine Bool.eq_false_iff.2 fun bare => ?_
  obtain ⟨item, rfl, free, -⟩ := isBareItem_iff.1 bare
  cases (h rfl).symm.trans free

/-- An item with wrappers inside it is bare if it was before. -/
lemma Kind.Wrap.isBareItem_eq {kind kind' : Kind} (wrap : kind.Wrap kind') (span : Span) :
    isBareItem [⟨kind, span⟩] false = isBareItem [⟨kind', span⟩] false := by
  cases wrap <;> rfl

/-- Wrappers in an index do not change the leading constant of a path. -/
lemma leadingConstant?_wrap {index index' : Option Node} (wrap : WrapOption index index')
    (span : Span) (segments : List String) :
    leadingConstant? context span segments index' =
      leadingConstant? context span segments index := by
  rw [leadingConstant?, wrap.isSome_eq, leadingConstant?]

/-! The induction is on what is wrapped, and follows the builder with one lemma for each of its
functions. With wrappers a part of a tree is built at a greater depth. -/

mutual

/-- A node is built like the node with wrappers, until that one meets the limit. -/
theorem Node.Wrap.build {node node' : Node} {depth level : Nat} (le : depth ≤ level) :
    node.Wrap node' → Tracks (node.build context depth) (node'.build context level)
  | .inside kind => Node.build_tracks le (kind.build _ (Nat.succ_le_succ le))
  | .grouped operand => Node.build_around (.inl rfl) (operand.build (Nat.le_succ_of_le le))
  | .plus operand => Node.build_around (.inr rfl) (operand.build (Nat.le_succ_of_le le))
termination_by structural x => x

/-- An alternative is built like the alternative with wrappers in it, until that one meets the
limit. -/
theorem Kind.Wrap.build {kind kind' : Kind} {depth level : Nat} (span : Span) (le : depth ≤ level) :
    kind.Wrap kind' → Tracks (kind.build context depth span) (kind'.build context level span)
  | .atom leaf => .refl _
  | .unary op operand => by
    rw [Kind.build, Kind.build]
    exact .bind (operand.build le) fun _ => .refl _
  | .binary op left right => by
    rw [Kind.build, Kind.build]
    refine .bind (.refl _) fun _ => .bind (left.build le) fun _ => ?_
    exact .bind (right.build le) fun _ => .refl _
  | .connective op left right => by
    rw [Kind.build, Kind.build]
    refine .bind (left.build le) fun _ => .bind (asPredicate_tracks _ _ _) fun _ => ?_
    refine .bind (right.build le) fun _ => .bind (asPredicate_tracks _ _ _) fun _ => ?_
    exact .refl _
  | .negation operand => by
    rw [Kind.build, Kind.build]
    refine .bind (operand.build le) fun _ => .bind (asPredicate_tracks _ _ _) fun _ => ?_
    exact .refl _
  | .typeOf operand => operand.build_type _ _ le
  | .between negated operand low high => by
    rw [Kind.build, Kind.build]
    refine .bind (operand.build le) fun _ => .bind (low.build le) fun _ => ?_
    exact .bind (high.build le) fun _ => .refl _
  | .like negated operand pattern escape => by
    rw [Kind.build, Kind.build]
    refine .bind (escape.build le) fun built => ?_
    split
    · exact .fail rfl
    · refine .bind (operand.build le) fun _ => ?_
      exact .bind (pattern.build le) fun _ => .refl _
  | .inList negated several operand items => by
    rw [Kind.build, Kind.build, isBareItem_eq_false several,
      isBareItem_eq_false fun single => several (items.length_eq ▸ single)]
    refine .bind (operand.build le) fun _ => ?_
    exact .bind (items.build le) fun _ => .refl _
  | .inBare negated operand item => by
    -- the item itself stays, so it is a call or a parameter as before
    rw [Kind.build, Kind.build, item.isBareItem_eq]
    refine .bind (operand.build le) fun _ => .bind ?_ fun _ => .refl _
    rw [buildAll, buildAll]
    exact .bind (Node.build_tracks le (item.build _ (Nat.succ_le_succ le))) fun _ => .refl _
  | .simpleCase operand branches otherwise => by
    rw [Kind.build, Kind.build]
    refine .bind (operand.build le) fun _ => .bind (branches.build le) fun _ => ?_
    exact .bind (otherwise.build le) fun _ => .refl _
  | .searchedCase branches otherwise => by
    rw [Kind.build, Kind.build]
    refine .bind (branches.build_searched le) fun _ => ?_
    exact .bind (otherwise.build le) fun _ => .refl _
  | .trim side character operand => by
    rw [Kind.build, Kind.build]
    refine .bind (character.build le) fun _ => ?_
    exact .bind (operand.build le) fun _ => .refl _
  | .count distinct argument filter window => by
    rw [Kind.build, Kind.build]
    refine .bind (argument.build le) fun _ => .bind (filter.build_filter le) fun _ => ?_
    exact .bind (window.build _ le) fun _ => .refl _
  | .call call => by
    rw [Kind.build, Kind.build]
    exact call.build _ le
  | .path role path => by
    rw [Kind.build, Kind.build]
    exact .bind (path.build _ le) fun _ => .refl _
  | .memberOf negated element collection => by
    rw [Kind.build, Kind.build]
    refine .bind (element.build le) fun _ => .bind (collection.build _ le) fun _ => ?_
    exact .refl _
  | .applied (.constructor className) arguments => by
    rw [Kind.build, Kind.build]
    exact .bind (arguments.build le) fun _ => .refl _
  | .applied (.expansion name) arguments => by
    rw [Kind.build, Kind.build]
    exact .bind (arguments.build le) fun _ => .refl _
termination_by structural x => x

/-- The operand of a type is built only if it is a path or a parameter. -/
theorem Kind.Wrap.build_type {kind kind' : Kind} {depth level : Nat} (operandSpan span : Span)
    (le : depth ≤ level) : kind.Wrap kind' →
    Tracks ((Kind.typeOf ⟨kind, operandSpan⟩).build context depth span)
      ((Kind.typeOf ⟨kind', operandSpan⟩).build context level span)
  | .path role path => by
    cases role with
    | plain =>
      rw [Kind.build, Kind.build]
      exact .bind (path.build _ le) fun _ => .refl _
    | _ => exact .fail rfl
  | .atom leaf => by
    cases leaf with
    | namedParameter | positionalParameter =>
      exact .bind (Node.build_tracks le (.refl _)) fun _ => .refl _
    | _ => exact .fail rfl
  | .unary .. | .binary .. | .connective .. | .negation .. | .typeOf .. | .between .. | .like ..
  | .inList .. | .inBare .. | .simpleCase .. | .searchedCase .. | .trim .. | .count .. | .call ..
  | .memberOf .. | .applied .. => .fail rfl
termination_by structural x => x

/-- Nodes are built like the nodes with wrappers. -/
theorem WrapAll.build {nodes nodes' : List Node} {depth level : Nat} (le : depth ≤ level) :
    WrapAll nodes nodes' → Tracks (buildAll context depth nodes) (buildAll context level nodes')
  | .nil => .refl _
  | .cons node rest => by
    rw [buildAll, buildAll]
    refine .bind (node.build le) fun _ => ?_
    exact .bind (rest.build le) fun _ => .refl _
termination_by structural x => x

/-- A node that may be missing is built like the node with wrappers. -/
theorem WrapOption.build {node node' : Option Node} {depth level : Nat} (le : depth ≤ level) :
    WrapOption node node' →
    Tracks (buildOption context depth node) (buildOption context level node')
  | .none => .refl _
  | .some node => by
    rw [buildOption, buildOption]
    exact .bind (node.build le) fun _ => .refl _
termination_by structural x => x

/-- A filter clause is built like the clause with wrappers. -/
theorem WrapOption.build_filter {node node' : Option Node} {depth level : Nat}
    (le : depth ≤ level) : WrapOption node node' →
    Tracks (buildFilter context depth node) (buildFilter context level node')
  | .none => .refl _
  | .some node => by
    rw [buildFilter, buildFilter]
    refine .bind (node.build le) fun _ => .bind (asPredicate_tracks _ _ _) fun _ => ?_
    exact .refl _
termination_by structural x => x

/-- The branches of a simple case expression are built like those with wrappers. -/
theorem WrapBranches.build {branches branches' : List Branch} {depth level : Nat}
    (le : depth ≤ level) : WrapBranches branches branches' →
    Tracks (buildBranches context depth branches) (buildBranches context level branches')
  | .nil => .refl _
  | .cons condition result rest => by
    rw [buildBranches, buildBranches]
    refine .bind (condition.build le) fun _ => .bind (result.build le) fun _ => ?_
    exact .bind (rest.build le) fun _ => .refl _
termination_by structural x => x

/-- The branches of a searched case expression are built like those with wrappers. -/
theorem WrapBranches.build_searched {branches branches' : List Branch} {depth level : Nat}
    (le : depth ≤ level) : WrapBranches branches branches' →
    Tracks (buildSearched context depth branches) (buildSearched context level branches')
  | .nil => .refl _
  | .cons condition result rest => by
    rw [buildSearched, buildSearched]
    refine .bind (condition.build le) fun _ => .bind (asPredicate_tracks _ _ _) fun _ => ?_
    refine .bind (result.build le) fun _ => ?_
    exact .bind (rest.build_searched le) fun _ => .refl _
termination_by structural x => x

/-- A path is built like the path with wrappers. -/
theorem Path.Wrap.build {path path' : Path} {depth level : Nat} (span : Span) (le : depth ≤ level) :
    path.Wrap path' → Tracks (path.build context depth span) (path'.build context level span)
  | .mk .none .nil => .refl _
  | .mk .none (.cons segments index links) => by
    rw [Path.build, Path.build, leadingConstant?_wrap index]
    refine .bind (.refl _) fun _ => .bind (.refl _) fun constant => ?_
    cases constant with
    | some constant => exact .refl _
    | none =>
      refine .bind (index.build le) fun _ => ?_
      exact .bind (links.build _ le) fun _ => .refl _
  | .mk (.some qualifier) .nil => by
    rw [Path.build, Path.build]
    exact qualifier.build le
  | .mk (.some qualifier) (.cons segments index links) => by
    rw [Path.build, Path.build]
    refine .bind (qualifier.build le) fun _ => ?_
    refine .bind (startPath_tracks _ _ _) fun _ => ?_
    refine .bind (.refl _) fun _ => ?_
    refine .bind (index.build le) fun _ => ?_
    exact .bind (links.build _ le) fun _ => .refl _
termination_by structural x => x

/-- The later links of a path are built like those with wrappers. -/
theorem WrapLinks.build {links links' : List Link} {depth level : Nat} (span : Span)
    (le : depth ≤ level) : WrapLinks links links' →
    Tracks (buildLinks context depth span links) (buildLinks context level span links')
  | .nil => .refl _
  | .cons segments index rest => by
    rw [buildLinks, buildLinks]
    refine .bind (.refl _) fun _ => .bind (index.build le) fun _ => ?_
    exact .bind (rest.build _ le) fun _ => .refl _
termination_by structural x => x

/-- A call is built like the call with wrappers. -/
theorem Call.Wrap.build {call call' : Call} {depth level : Nat} (span : Span) (le : depth ≤ level) :
    call.Wrap call' → Tracks (call.build context depth span) (call'.build context level span)
  | .mk name distinct arguments withinGroup filter window => by
    rw [Call.build, Call.build]
    refine .bind (arguments.build le) fun _ => .bind (withinGroup.build le) fun _ => ?_
    refine .bind (filter.build_filter le) fun _ => ?_
    exact .bind (window.build _ le) fun _ => .refl _
termination_by structural x => x

/-- A within group clause is built like the clause with wrappers. -/
theorem WrapGroup.build {items items' : Option (List OrderItem)} {depth level : Nat}
    (le : depth ≤ level) : WrapGroup items items' →
    Tracks (buildGroup context depth items) (buildGroup context level items')
  | .none => .refl _
  | .some items => by
    rw [buildGroup, buildGroup]
    exact .bind (items.build le) fun _ => .refl _
termination_by structural x => x

/-- The items of an ordering are built like those with wrappers. -/
theorem WrapItems.build {items items' : List OrderItem} {depth level : Nat} (le : depth ≤ level) :
    WrapItems items items' →
    Tracks (buildItems context depth items) (buildItems context level items')
  | .nil => .refl _
  | .cons descending nulls collation span expression rest => by
    rw [buildItems, buildItems]
    refine .bind (expression.build le) fun _ => .bind (.refl _) fun _ => ?_
    exact .bind (rest.build le) fun _ => .refl _
termination_by structural x => x

/-- A window is built like the window with wrappers. -/
theorem WrapOver.build {window window' : Option Over} {depth level : Nat} (span : Span)
    (le : depth ≤ level) : WrapOver window window' →
    Tracks (buildOver context depth span window) (buildOver context level span window')
  | .none => .refl _
  | .named name => .refl _
  | .inline name partitionBy orderBy frame => by
    rw [buildOver, buildOver]
    refine .bind (partitionBy.build le) fun _ => .bind (orderBy.build le) fun _ => ?_
    exact .bind (frame.build _ le) fun _ => .refl _
termination_by structural x => x

/-- A frame is built like the frame with wrappers. -/
theorem WrapFrame.build {frame frame' : Option (Frame Node)} {depth level : Nat} (span : Span)
    (le : depth ≤ level) : WrapFrame frame frame' →
    Tracks (buildFrame context depth span frame) (buildFrame context level span frame')
  | .none => .refl _
  | .some mode exclusion start stop => by
    rw [buildFrame, buildFrame]
    refine .bind (start.build le) fun _ => .bind (stop.build le) fun _ => ?_
    exact .refl _
termination_by structural x => x

/-- The end of a frame is built like the end with wrappers. -/
theorem WrapStop.build {bound bound' : Option (Bound Node)} {depth level : Nat}
    (le : depth ≤ level) : WrapStop bound bound' →
    Tracks (buildStop context depth bound) (buildStop context level bound')
  | .none => .refl _
  | .some bound => by
    rw [buildStop, buildStop]
    exact .bind (bound.build le) fun _ => .refl _
termination_by structural x => x

/-- A bound is built like the bound with wrappers. -/
theorem WrapBound.build {bound bound' : Bound Node} {depth level : Nat} (le : depth ≤ level) :
    WrapBound bound bound' →
    Tracks (buildBound context depth bound) (buildBound context level bound')
  | .unboundedPreceding | .currentRow | .unboundedFollowing => .refl _
  | .preceding offset | .following offset => by
    rw [buildBound, buildBound]
    exact .bind (offset.build le) fun _ => .refl _
termination_by structural x => x

end

end Syntax

/-- A request, and the request for the tree with wrappers around nodes. -/
inductive Request.Wrap : Request → Request → Prop where
  | expression {tree tree'} : tree.Wrap tree' → Wrap (.expression tree) (.expression tree')
  | predicate {tree tree'} : tree.Wrap tree' → Wrap (.predicate tree) (.predicate tree')

/-- A request is built like the request for the tree with wrappers, until that one meets the
limit. -/
lemma Request.Wrap.build {context : Context} (depth : Nat) {request request' : Request}
    (wrap : request.Wrap request') :
    Tracks (request.build context depth) (request'.build context depth) := by
  cases wrap with
  | expression tree => exact tree.build (Nat.le_refl _)
  | predicate tree =>
    refine .bind (.bind (tree.build (Nat.le_refl _)) fun _ => ?_) fun _ => .refl _
    exact Syntax.asPredicate_tracks _ _ _

/-- The classes of build errors. -/
inductive ErrorClass where
  | query
  | argument
  | internal
  | nesting
  deriving DecidableEq

/-- The class that a complaint is of. -/
def Complaint.errorClass : Complaint → ErrorClass
  | query _ => .query
  | argument .. => .argument
  | internal _ => .internal
  | nesting _ => .nesting

/-- A fault is about something of the class of its cause. -/
lemma Fault.errorClass_subject (fault : Fault) :
    fault.subject.complaint.errorClass = fault.cause.complaint.errorClass := by
  obtain ⟨cause, span⟩ := fault
  cases cause <;> rfl

namespace Session

/-- Outcomes that are the same value, or errors of the same code and class. -/
inductive SameAnswer {α : Type} : Except BuildError α → Except BuildError α → Prop where
  | built (value : α) : SameAnswer (.ok value) (.ok value)
  | failed {first second : BuildError} : first.code = second.code →
      first.complaint.errorClass = second.complaint.errorClass →
      SameAnswer (.error first) (.error second)

/-- Faults about the same are reported with the same code and class. -/
lemma sameAnswer_report {source : String} {first second : Fault}
    (same : first.subject = second.subject) {α : Type} :
    SameAnswer (α := α) (.error (first.report source)) (.error (second.report source)) := by
  refine .failed ?code ?errorClass
  case code =>
    rw [Fault.code_report, Fault.code_report, ← first.code_subject, same, second.code_subject]
  case errorClass =>
    rw [Fault.complaint_report, Fault.complaint_report, ← first.errorClass_subject, same,
      second.errorClass_subject]

/-- A tree and the tree with parentheses and plus signs around its nodes are answered alike, unless
the latter is refused for its nesting: with the same expression, or with errors of the same code and
class. The macros used are the same. -/
theorem answer_wrapped (session : Session) {request request' : Request}
    (wrap : request.Wrap request')
    (fits : ∀ error limit, (session.answer request').1 = .error error →
      error.complaint ≠ .nesting limit) :
    SameAnswer (session.answer request).1 (session.answer request').1 ∧
      (session.answer request).2.used = (session.answer request').2.used := by
  have tracks : Tracks (request.build session.context 0) (request'.build session.context 0) :=
    wrap.build 0
  rw [answer_eq_report] at fits
  rw [answer_eq_report, answer_eq_report]
  obtain alike | ⟨fault, failed, limit, nested⟩ := tracks
  · refine ⟨?_, congrArg session.used.addAll alike.macros⟩
    simp only [report]
    obtain ⟨e, built, built'⟩ | ⟨fault, fault', failed, failed', same⟩ := alike.cases
    · rw [built, built']
      exact .built e
    · rw [failed, failed']
      exact sameAnswer_report same
  · -- only here the limit is met, which the answer with wrappers rules out
    refine absurd ?_ (fits _ limit (report_error.2 ⟨fault, failed, rfl⟩))
    rw [Fault.complaint_report, nested]
    rfl

open Syntax in
/-- An equality with a macro on its left side, as it is and in parentheses with a plus sign before
each side and parentheses around the argument of the macro. -/
theorem answer_wrapped_equality :
    let session := Session.start .withFirst ""
    let bare := Node.binary (.comparison .eq) (.call "first" [.identifier "a"]) (.identifier "b")
    let wrapped := Node.unary .grouped (.binary (.comparison .eq)
      (.unary .plus (.call "first" [.unary .grouped (.identifier "a")]))
      (.unary .plus (.identifier "b")))
    (Request.predicate bare).Wrap (.predicate wrapped) ∧
      (∃ e, (session.answer (.predicate wrapped)).1 = .ok e) ∧
      SameAnswer (session.answer (.predicate bare)).1 (session.answer (.predicate wrapped)).1 ∧
      (session.answer (.predicate bare)).2.used = (session.answer (.predicate wrapped)).2.used := by
  intro session bare wrapped
  have name (written : String) : (Node.identifier written).Wrap (.identifier written) :=
    .inside (.atom _)
  have call : (Node.call "first" [.identifier "a"]).Wrap
      (.call "first" [.unary .grouped (.identifier "a")]) :=
    .inside (.call (.mk _ _ (.cons (.grouped (name "a")) .nil) .none .none .none))
  have wrap : (Request.predicate bare).Wrap (.predicate wrapped) :=
    .predicate (.grouped (.inside (.binary _ (.plus call) (.plus (name "b")))))
  have built : ∃ e, (session.answer (.predicate wrapped)).1 = .ok e := by
    simp only [session, wrapped]
    exact ⟨_, rfl⟩
  have fits : ∀ error limit, (session.answer (.predicate wrapped)).1 = .error error →
      error.complaint ≠ .nesting limit := by
    intro error limit failed
    obtain ⟨e, done⟩ := built
    cases done.symm.trans failed
  exact ⟨wrap, built, session.answer_wrapped wrap fits⟩

end Session

end QueryExpr
