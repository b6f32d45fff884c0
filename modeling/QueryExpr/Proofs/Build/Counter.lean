import QueryExpr.Proofs.Session.Request
import QueryExpr.Proofs.Traced

/-!
# A builder that counts

A builder keeps two things while it works: how many nodes it is in, and the macros it has used. Here
it is a machine on this progress, which counts up when it enters a node and down when it leaves it,
and which writes each macro down when it is expanded. `Syntax.Node.build` takes the depth as an
argument and returns the names of the macros instead. The theorem `Syntax.Node.visit_counts` says
that both do the same from every progress, and that the count is the same after every visit as
before it, whether the visit succeeds or fails.
-/

namespace QueryExpr

/-- What a builder changes while it works. -/
structure Progress where
  /-- The number of nodes it is in. -/
  depth : Nat
  used : UsedMacros

/-- Work of a builder, which can fail and leaves its progress behind in any case. -/
abbrev Work (α : Type) := ExceptT Fault (StateM Progress) α

namespace Work

variable {α β : Type}

/-- A traced result as work: the macros are written down. -/
def ofTraced (traced : Traced Fault α) : Work α := fun progress =>
  (traced.result, { progress with used := progress.used.addAll traced.macros })

/-- Traced results can stand where work is done. -/
instance : MonadLift (Traced Fault) Work where
  monadLift := ofTraced

/-- Work inside a node: the count goes up before it and down after it. -/
def nested (work : Work α) : Work α := fun progress =>
  let (outcome, after) := work { progress with depth := progress.depth + 1 }
  (outcome, { after with depth := after.depth - 1 })

/-- Work after other work starts from the progress that the first left, unless that failed. -/
lemma bind_apply (work : Work α) (f : α → Work β) (progress : Progress) :
    (work >>= f) progress = match work progress with
      | (.ok a, after) => f a after
      | (.error fault, after) => (.error fault, after) := by
  show ExceptT.bindCont f (work progress).1 (work progress).2 = _
  obtain ⟨outcome, after⟩ := work progress
  cases outcome <;> rfl

/-- Two traced results as work are both done one after the other. -/
lemma ofTraced_bind (t : Traced Fault α) (g : α → Traced Fault β) :
    ofTraced (t >>= g) = ofTraced t >>= fun a => ofTraced (g a) := by
  funext progress
  rw [bind_apply]
  obtain ⟨result, names⟩ := t
  cases result with
  | error fault => rfl
  | ok a =>
    -- the names of the first step are written down before those of the second one
    have log := progress.used.addAll_append names (g a).macros
    exact congrArg (fun used => ((g a).result, Progress.mk progress.depth used)) log

/-- Work that does what a traced result says for the depth it starts at, and ends at that depth. -/
def Counts (work : Work α) (traced : Nat → Traced Fault α) : Prop :=
  ∀ progress, work progress = ofTraced (traced progress.depth) progress

namespace Counts

/-- A value does nothing to the progress. -/
lemma pure (a : α) : Counts (Pure.pure a) fun _ => Pure.pure a :=
  fun _ => rfl

/-- A step without macros does nothing to the progress. -/
lemma lift (outcome : Except Fault α) : Counts (liftM outcome) fun _ => liftM outcome :=
  fun _ => rfl

/-- A fault does nothing to the progress. -/
lemma throw (fault : Fault) : Counts (MonadExcept.throw fault : Work α) fun _ => .fail fault :=
  fun _ => rfl

/-- A traced result does at every depth what it says. -/
lemma traced (t : Traced Fault α) : Counts (liftM t) fun _ => t :=
  fun _ => rfl

/-- Work after other work does what both say for the same depth, because the first ends where it
started. -/
lemma bind {work : Work α} {t : Nat → Traced Fault α} {f : α → Work β}
    {g : α → Nat → Traced Fault β} (first : Counts work t) (next : ∀ a, Counts (f a) (g a)) :
    Counts (work >>= f) fun depth => t depth >>= fun a => g a depth := by
  intro progress
  rw [ofTraced_bind, bind_apply, bind_apply, first progress]
  cases h : (t progress.depth).result with
  | error fault => simp only [ofTraced, h]
  | ok a => simp only [ofTraced, h]; exact next a _

/-- Work inside a node does what it says for one node more. -/
lemma nested {work : Work α} {t : Nat → Traced Fault α} (inside : Counts work t) :
    Counts work.nested fun depth => t (depth + 1) := by
  intro progress
  rw [Work.nested, inside]
  rfl

end Counts

end Work

namespace Syntax

mutual

/-- The expression of a node. -/
def Node.visit (context : Context) : Node → Work Expression
  | ⟨kind, span⟩ => do
    if context.options.maxDepth ≤ (← get).depth then
      throw ⟨.nesting context.options.maxDepth, span⟩
    else Work.nested (kind.visit context span)

/-- The expression of an alternative with the given span. -/
def Kind.visit (context : Context) (span : Span) : Kind → Work Expression
  | .atom leaf => ((leaf.build context).mapError fun cause => (⟨cause, span⟩ : Fault) : Except _ _)
  | .unary op operand => do
    op.build span (← operand.visit context)
  | .binary op left right => do
    op.permit context.options span
    let builtLeft ← left.visit context
    let builtRight ← right.visit context
    return op.build context builtLeft builtRight
  | .connective op left right => do
    let builtLeft ← asPredicate left (← left.visit context)
    let builtRight ← asPredicate right (← right.visit context)
    return .predicate (.join op builtLeft builtRight)
  | .negation operand => do
    let built ← asPredicate operand (← operand.visit context)
    return .predicate built.negate
  | .typeOf ⟨.path .plain path, pathSpan⟩ => do
    return .typeOf (← path.visit context pathSpan)
  | .typeOf operand =>
    match operand.kind with
    | .atom (.namedParameter _) | .atom (.positionalParameter _) => do
      return .typeOf (← operand.visit context)
    | kind => throw ⟨.typeOperand kind.name, operand.span⟩
  | .between negated operand low high => do
    let operand ← operand.visit context
    let low ← low.visit context
    let high ← high.visit context
    return .predicate ⟨.between operand low high, negated⟩
  | .like negated operand pattern escape => do
    let escape ← visitOption context escape
    if escape.any (!·.isLiteralOrParameter) then
      throw ⟨.escape, span⟩
    else
      let operand ← operand.visit context
      let pattern ← pattern.visit context
      return .predicate ⟨.like operand pattern escape, negated⟩
  | .inList negated operand items parenthesized => do
    let operand ← operand.visit context
    let built ← visitAll context items
    return membership context negated (isBareItem items parenthesized) operand built
  | .simpleCase operand branches otherwise => do
    let operand ← operand.visit context
    let branches ← visitBranches context branches
    return .simpleCase operand branches (← visitOption context otherwise)
  | .searchedCase branches otherwise => do
    let branches ← visitSearched context branches
    return .searchedCase branches (← visitOption context otherwise)
  | .trim side character operand => do
    let character ← visitOption context character
    let operand ← operand.visit context
    return .trim (side.getD .both) character operand
  | .count distinct argument filter window => do
    let argument ← visitOption context argument
    let filter ← visitFilter context filter
    let window ← visitOver context span window
    place span
      (Invocation.resolve context ⟨"COUNT", distinct, argument.toList, none, filter, window⟩)
  | .call call => call.visit context span
  | .path role path => do
    role.build context.options span (← path.visit context span)
  | .memberOf negated element collection => do
    let element ← element.visit context
    let path ← asPath span "MEMBER OF" (← collection.visit context span)
    return .predicate ⟨.memberOf element { path with usedInCollectionFunction := true }, negated⟩
  | .applied (.constructor className) arguments => do
    return .call ("NEW " ++ Dotted.join className) (← visitAll context arguments)
  | .applied (.expansion name) arguments => do
    place span (context.expand name (← visitAll context arguments))

/-- The expressions of some nodes. -/
def visitAll (context : Context) : List Node → Work (List Expression)
  | [] => return []
  | node :: rest => do
    let built ← node.visit context
    return built :: (← visitAll context rest)

/-- The expression of an optional node. -/
def visitOption (context : Context) : Option Node → Work (Option Expression)
  | none => return none
  | some node => return some (← node.visit context)

/-- The predicate of an optional filter. -/
def visitFilter (context : Context) : Option Node → Work (Option Predicate)
  | none => return none
  | some node => do
    return some (← asPredicate node (← node.visit context))

/-- The branches of a simple case. -/
def visitBranches (context : Context) : List Branch → Work (List QueryExpr.Branch)
  | [] => return []
  | ⟨condition, result⟩ :: rest => do
    let condition ← condition.visit context
    let result ← result.visit context
    return ⟨condition, result⟩ :: (← visitBranches context rest)

/-- The branches of a searched case. -/
def visitSearched (context : Context) : List Branch → Work (List QueryExpr.Branch)
  | [] => return []
  | ⟨condition, result⟩ :: rest => do
    let predicate ← asPredicate condition (← condition.visit context)
    let result ← result.visit context
    return ⟨.predicate predicate, result⟩ :: (← visitSearched context rest)

/-- The expression of a path. -/
def Path.visit (context : Context) (span : Span) : Path → Work Expression
  | ⟨none, []⟩ => throw ⟨.emptyPath, span⟩
  | ⟨none, ⟨segments, index⟩ :: links⟩ => do
    checkLink span segments
    match ← leadingConstant? context span segments index with
    | some constant => return constant
    | none =>
      let index ← visitOption context index
      let elements ← visitLinks context span links
      ofElements span (leadingElements context segments index ++ elements)
  | ⟨some qualifier, []⟩ => qualifier.visit context
  | ⟨some qualifier, ⟨segments, index⟩ :: links⟩ => do
    let path ← startPath qualifier (← qualifier.visit context)
    checkLink span segments
    let index ← visitOption context index
    let elements ← visitLinks context span links
    return .path (path.append (linkElements segments index ++ elements))

/-- The elements of some links. -/
def visitLinks (context : Context) (span : Span) : List Link → Work (List PathElement)
  | [] => return []
  | ⟨segments, index⟩ :: rest => do
    checkLink span segments
    let index ← visitOption context index
    return linkElements segments index ++ (← visitLinks context span rest)

/-- The expression of a function call. -/
def Call.visit (context : Context) (span : Span) : Call → Work Expression
  | ⟨name, distinct, arguments, withinGroup, filter, window⟩ => do
    let arguments ← visitAll context arguments
    let withinGroup ← visitGroup context withinGroup
    let filter ← visitFilter context filter
    let window ← visitOver context span window
    place span
      (Invocation.resolve context ⟨name, distinct, arguments, withinGroup, filter, window⟩)

/-- An optional ordering. -/
def visitGroup (context : Context) :
    Option (List OrderItem) → Work (Option (List QueryExpr.OrderItem))
  | none => return none
  | some items => return some (← visitItems context items)

/-- The items of an ordering. -/
def visitItems (context : Context) : List OrderItem → Work (List QueryExpr.OrderItem)
  | [] => return []
  | ⟨expression, descending, nulls, collation, span⟩ :: rest => do
    let built ← expression.visit context
    let item ← place span
      (.ofExcept (QueryExpr.OrderItem.ofWritten built descending nulls collation))
    return item :: (← visitItems context rest)

/-- An optional `OVER` clause. -/
def visitOver (context : Context) (span : Span) : Option Over → Work (Option WindowClause)
  | none => return none
  | some (.named name) => return some (.named name)
  | some (.inline name partitionBy orderBy frame) => do
    let partitionBy ← visitAll context partitionBy
    let orderBy ← visitItems context orderBy
    let frame ← visitFrame context span frame
    return some (.inline name partitionBy orderBy frame)

/-- An optional frame. -/
def visitFrame (context : Context) (span : Span) :
    Option (Frame Node) → Work (Option (Frame Expression))
  | none => return none
  | some ⟨mode, start, stop, exclusion⟩ => do
    let start ← visitBound context start
    let stop ← visitStop context stop
    return some (← place span (.ofExcept (Frame.check ⟨mode, start, stop, exclusion⟩)))

/-- The end of a frame. -/
def visitStop (context : Context) : Option (Bound Node) → Work (Option (Bound Expression))
  | none => return none
  | some bound => return some (← visitBound context bound)

/-- The bound of a frame. -/
def visitBound (context : Context) : Bound Node → Work (Bound Expression)
  | .unboundedPreceding => return .unboundedPreceding
  | .preceding offset => return .preceding (← offset.visit context)
  | .currentRow => return .currentRow
  | .following offset => return .following (← offset.visit context)
  | .unboundedFollowing => return .unboundedFollowing

end

open Work (Counts)

/-! Each function of the machine goes with the function of the builder that has its shape. -/

mutual

/-- A visit does what the build at its depth says, and leaves the depth as it was. -/
theorem Node.visit_counts (context : Context) :
    ∀ node : Node, Counts (node.visit context) fun depth => node.build context depth
  | ⟨kind, span⟩ => by
    intro progress
    show Node.visit context ⟨kind, span⟩ progress =
      Work.ofTraced (Node.build context progress.depth ⟨kind, span⟩) progress
    rw [Node.visit, Node.build]
    show (if context.options.maxDepth ≤ progress.depth then _ else _ : Work Expression) progress = _
    by_cases full : context.options.maxDepth ≤ progress.depth
    · rw [if_pos full, if_pos full]
      rfl
    · rw [if_neg full, if_neg full]
      exact (Kind.visit_counts context span kind).nested progress

/-- A visit of an alternative does what its build at the same depth says. -/
theorem Kind.visit_counts (context : Context) (span : Span) :
    ∀ kind : Kind, Counts (kind.visit context span) fun depth => kind.build context depth span
  | .atom leaf => by
    simp only [Kind.visit, Kind.build]
    exact .lift _
  | .unary op operand => by
    simp only [Kind.visit, Kind.build]
    exact .bind (Node.visit_counts context operand) fun _ => .lift _
  | .binary op left right => by
    simp only [Kind.visit, Kind.build]
    refine .bind (.lift _) fun _ => .bind (Node.visit_counts context left) fun _ => ?_
    exact .bind (Node.visit_counts context right) fun _ => .pure _
  | .connective op left right => by
    simp only [Kind.visit, Kind.build]
    refine .bind (Node.visit_counts context left) fun _ => .bind (.lift _) fun _ => ?_
    refine .bind (Node.visit_counts context right) fun _ => .bind (.lift _) fun _ => ?_
    exact .pure _
  | .negation operand => by
    simp only [Kind.visit, Kind.build]
    refine .bind (Node.visit_counts context operand) fun _ => .bind (.lift _) fun _ => ?_
    exact .pure _
  | .typeOf ⟨kind, operandSpan⟩ => by
    cases kind with
    | path role path =>
      cases role with
      | plain =>
        -- the path is no visit of its own, so the count does not move here
        simp only [Kind.visit, Kind.build]
        exact .bind (Path.visit_counts context operandSpan path) fun _ => .pure _
      | _ => exact .throw _
    | atom leaf =>
      cases leaf with
      | namedParameter | positionalParameter =>
        simp only [Kind.visit, Kind.build]
        exact .bind (Node.visit_counts context _) fun _ => .pure _
      | _ => exact .throw _
    | _ => exact .throw _
  | .between negated operand low high => by
    simp only [Kind.visit, Kind.build]
    refine .bind (Node.visit_counts context operand) fun _ => ?_
    refine .bind (Node.visit_counts context low) fun _ => ?_
    exact .bind (Node.visit_counts context high) fun _ => .pure _
  | .like negated operand pattern escape => by
    simp only [Kind.visit, Kind.build]
    refine .bind (visitOption_counts context escape) fun built => ?_
    split
    · exact .throw _
    · refine .bind (Node.visit_counts context operand) fun _ => ?_
      exact .bind (Node.visit_counts context pattern) fun _ => .pure _
  | .inList negated operand items parenthesized => by
    simp only [Kind.visit, Kind.build]
    refine .bind (Node.visit_counts context operand) fun _ => ?_
    exact .bind (visitAll_counts context items) fun _ => .pure _
  | .simpleCase operand branches otherwise => by
    simp only [Kind.visit, Kind.build]
    refine .bind (Node.visit_counts context operand) fun _ => ?_
    refine .bind (visitBranches_counts context branches) fun _ => ?_
    exact .bind (visitOption_counts context otherwise) fun _ => .pure _
  | .searchedCase branches otherwise => by
    simp only [Kind.visit, Kind.build]
    refine .bind (visitSearched_counts context branches) fun _ => ?_
    exact .bind (visitOption_counts context otherwise) fun _ => .pure _
  | .trim side character operand => by
    simp only [Kind.visit, Kind.build]
    refine .bind (visitOption_counts context character) fun _ => ?_
    exact .bind (Node.visit_counts context operand) fun _ => .pure _
  | .count distinct argument filter window => by
    simp only [Kind.visit, Kind.build]
    refine .bind (visitOption_counts context argument) fun _ => ?_
    refine .bind (visitFilter_counts context filter) fun _ => ?_
    exact .bind (visitOver_counts context span window) fun _ => .traced _
  | .call call => by
    simp only [Kind.visit, Kind.build]
    exact Call.visit_counts context span call
  | .path role path => by
    simp only [Kind.visit, Kind.build]
    exact .bind (Path.visit_counts context span path) fun _ => .lift _
  | .memberOf negated element collection => by
    simp only [Kind.visit, Kind.build]
    refine .bind (Node.visit_counts context element) fun _ => ?_
    refine .bind (Path.visit_counts context span collection) fun _ => .bind (.lift _) fun _ => ?_
    exact .pure _
  | .applied (.constructor className) arguments => by
    simp only [Kind.visit, Kind.build]
    exact .bind (visitAll_counts context arguments) fun _ => .pure _
  | .applied (.expansion name) arguments => by
    simp only [Kind.visit, Kind.build]
    exact .bind (visitAll_counts context arguments) fun _ => .traced _

/-- Visiting nodes one after another does what building them says. -/
theorem visitAll_counts (context : Context) :
    ∀ nodes, Counts (visitAll context nodes) fun depth => buildAll context depth nodes
  | [] => .pure _
  | node :: rest => by
    simp only [visitAll, buildAll]
    refine .bind (Node.visit_counts context node) fun _ => ?_
    exact .bind (visitAll_counts context rest) fun _ => .pure _

/-- Visiting a node that may be missing does what building it says. -/
theorem visitOption_counts (context : Context) :
    ∀ node, Counts (visitOption context node) fun depth => buildOption context depth node
  | none => .pure _
  | some node => by
    simp only [visitOption, buildOption]
    exact .bind (Node.visit_counts context node) fun _ => .pure _

/-- Visiting a filter clause does what building it says. -/
theorem visitFilter_counts (context : Context) :
    ∀ node, Counts (visitFilter context node) fun depth => buildFilter context depth node
  | none => .pure _
  | some node => by
    simp only [visitFilter, buildFilter]
    refine .bind (Node.visit_counts context node) fun _ => .bind (.lift _) fun _ => ?_
    exact .pure _

/-- Visiting the branches of a simple case expression does what building them says. -/
theorem visitBranches_counts (context : Context) :
    ∀ branches, Counts (visitBranches context branches)
      fun depth => buildBranches context depth branches
  | [] => .pure _
  | ⟨condition, result⟩ :: rest => by
    simp only [visitBranches, buildBranches]
    refine .bind (Node.visit_counts context condition) fun _ => ?_
    refine .bind (Node.visit_counts context result) fun _ => ?_
    exact .bind (visitBranches_counts context rest) fun _ => .pure _

/-- Visiting the branches of a searched case expression does what building them says. -/
theorem visitSearched_counts (context : Context) :
    ∀ branches, Counts (visitSearched context branches)
      fun depth => buildSearched context depth branches
  | [] => .pure _
  | ⟨condition, result⟩ :: rest => by
    simp only [visitSearched, buildSearched]
    refine .bind (Node.visit_counts context condition) fun _ => .bind (.lift _) fun _ => ?_
    refine .bind (Node.visit_counts context result) fun _ => ?_
    exact .bind (visitSearched_counts context rest) fun _ => .pure _

/-- Visiting a path, which is no node and does not count, does what building it says. -/
theorem Path.visit_counts (context : Context) (span : Span) :
    ∀ path : Path, Counts (path.visit context span) fun depth => path.build context depth span
  | ⟨none, []⟩ => .throw _
  | ⟨none, ⟨segments, index⟩ :: links⟩ => by
    simp only [Path.visit, Path.build]
    refine .bind (.lift _) fun _ => .bind (.lift _) fun constant => ?_
    cases constant with
    | some constant => exact .pure _
    | none =>
      refine .bind (visitOption_counts context index) fun _ => ?_
      exact .bind (visitLinks_counts context span links) fun _ => .lift _
  | ⟨some qualifier, []⟩ => by
    simp only [Path.visit, Path.build]
    exact Node.visit_counts context qualifier
  | ⟨some qualifier, ⟨segments, index⟩ :: links⟩ => by
    simp only [Path.visit, Path.build]
    refine .bind (Node.visit_counts context qualifier) fun _ => .bind (.lift _) fun _ => ?_
    refine .bind (.lift _) fun _ => .bind (visitOption_counts context index) fun _ => ?_
    exact .bind (visitLinks_counts context span links) fun _ => .pure _

/-- Visiting the later links of a path does what building them says. -/
theorem visitLinks_counts (context : Context) (span : Span) :
    ∀ links, Counts (visitLinks context span links) fun depth => buildLinks context depth span links
  | [] => .pure _
  | ⟨segments, index⟩ :: rest => by
    simp only [visitLinks, buildLinks]
    refine .bind (.lift _) fun _ => .bind (visitOption_counts context index) fun _ => ?_
    exact .bind (visitLinks_counts context span rest) fun _ => .pure _

/-- Visiting a call does what building it says. -/
theorem Call.visit_counts (context : Context) (span : Span) :
    ∀ call : Call, Counts (call.visit context span) fun depth => call.build context depth span
  | ⟨name, distinct, arguments, withinGroup, filter, window⟩ => by
    simp only [Call.visit, Call.build]
    refine .bind (visitAll_counts context arguments) fun _ => ?_
    refine .bind (visitGroup_counts context withinGroup) fun _ => ?_
    refine .bind (visitFilter_counts context filter) fun _ => ?_
    exact .bind (visitOver_counts context span window) fun _ => .traced _

/-- Visiting a within group clause does what building it says. -/
theorem visitGroup_counts (context : Context) :
    ∀ items, Counts (visitGroup context items) fun depth => buildGroup context depth items
  | none => .pure _
  | some items => by
    simp only [visitGroup, buildGroup]
    exact .bind (visitItems_counts context items) fun _ => .pure _

/-- Visiting the items of an ordering does what building them says. -/
theorem visitItems_counts (context : Context) :
    ∀ items, Counts (visitItems context items) fun depth => buildItems context depth items
  | [] => .pure _
  | ⟨expression, descending, nulls, collation, span⟩ :: rest => by
    simp only [visitItems, buildItems]
    refine .bind (Node.visit_counts context expression) fun _ => .bind (.traced _) fun _ => ?_
    exact .bind (visitItems_counts context rest) fun _ => .pure _

/-- Visiting a window does what building it says. -/
theorem visitOver_counts (context : Context) (span : Span) :
    ∀ window, Counts (visitOver context span window)
      fun depth => buildOver context depth span window
  | none => .pure _
  | some (.named name) => .pure _
  | some (.inline name partitionBy orderBy frame) => by
    simp only [visitOver, buildOver]
    refine .bind (visitAll_counts context partitionBy) fun _ => ?_
    refine .bind (visitItems_counts context orderBy) fun _ => ?_
    exact .bind (visitFrame_counts context span frame) fun _ => .pure _

/-- Visiting a frame does what building it says. -/
theorem visitFrame_counts (context : Context) (span : Span) :
    ∀ frame, Counts (visitFrame context span frame) fun depth => buildFrame context depth span frame
  | none => .pure _
  | some ⟨mode, start, stop, exclusion⟩ => by
    simp only [visitFrame, buildFrame]
    refine .bind (visitBound_counts context start) fun _ => ?_
    refine .bind (visitStop_counts context stop) fun _ => .bind (.traced _) fun _ => ?_
    exact .pure _

/-- Visiting the end of a frame does what building it says. -/
theorem visitStop_counts (context : Context) :
    ∀ bound, Counts (visitStop context bound) fun depth => buildStop context depth bound
  | none => .pure _
  | some bound => by
    simp only [visitStop, buildStop]
    exact .bind (visitBound_counts context bound) fun _ => .pure _

/-- Visiting a bound does what building it says. -/
theorem visitBound_counts (context : Context) :
    ∀ bound, Counts (visitBound context bound) fun depth => buildBound context depth bound
  | .unboundedPreceding | .currentRow | .unboundedFollowing => .pure _
  | .preceding offset => by
    simp only [visitBound, buildBound]
    exact .bind (Node.visit_counts context offset) fun _ => .pure _
  | .following offset => by
    simp only [visitBound, buildBound]
    exact .bind (Node.visit_counts context offset) fun _ => .pure _

end

/-- The predicate of a node. -/
def Node.visitPredicate (context : Context) (node : Node) : Work Predicate := do
  asPredicate node (← node.visit context)

end Syntax

namespace Request

open Work (Counts)

/-- The builder serves a request. -/
def serve (context : Context) : Request → Work Expression
  | expression tree => tree.visit context
  | predicate tree => do
    return .predicate (← tree.visitPredicate context)

/-- One builder serves some requests, one after another, whether they succeed or fail. -/
def serveAll (context : Context) (requests : List Request) :
    StateM Progress (List (Except Fault Expression)) :=
  requests.mapM fun request => (request.serve context).run

/-- A builder does for a request what its build at the same depth says. -/
lemma serve_counts (context : Context) (request : Request) :
    Counts (request.serve context) fun depth => request.build context depth := by
  cases request with
  | expression tree => exact tree.visit_counts context
  | predicate tree =>
    refine .bind ?_ fun _ => .pure _
    exact .bind (tree.visit_counts context) fun _ => .lift _

/-- A builder serves the first of several requests before the others. -/
lemma serveAll_cons (context : Context) (request : Request) (rest : List Request)
    (progress : Progress) :
    serveAll context (request :: rest) progress =
      let (outcome, after) := request.serve context progress
      let (outcomes, last) := serveAll context rest after
      (outcome :: outcomes, last) := by
  rw [serveAll, List.mapM_cons]
  rfl

/-- A builder serves every request as if it were the first one. -/
lemma serveAll_eq (context : Context) (requests : List Request) (progress : Progress) :
    serveAll context requests progress =
      (requests.map fun request => (request.build context progress.depth).result,
        { progress with
          used := progress.used.addAll
            (requests.flatMap fun request => (request.build context progress.depth).macros) }) := by
  induction requests generalizing progress with
  | nil => rfl
  | cons request rest ih =>
    -- the progress after the first request differs from the one before it in the used macros only
    rw [serveAll_cons, request.serve_counts context progress]
    simp only [Work.ofTraced, ih, List.map_cons, List.flatMap_cons, UsedMacros.addAll_append]

/-- A session answers a request as a builder that has just been started serves it. -/
lemma answer_eq_serve (session : Session) (request : Request) :
    let (outcome, after) := request.serve session.context ⟨0, session.used⟩
    session.answer request =
      (outcome.mapError (Fault.report session.source), { session with used := after.used }) := by
  rw [Session.answer_eq_report, request.serve_counts session.context]
  rfl

end Request

end QueryExpr
