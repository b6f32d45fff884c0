import QueryExpr.Build
import QueryExpr.Proofs.Traced

/-!
# Contexts that allow less

`Context.Narrows stops context wide` says that a context knows the same names as a wider one but for
some macros, and allows at most what the wider one allows; where it refuses more, the fault is in
`stops`. The theorem `Node.build_cut` carries this through the build of a tree: the narrow build
goes like the wide one until it stops at such a fault. The nesting is part of it, since a build that
starts deeper reaches the limit earlier.
-/

namespace QueryExpr

open Traced (Cut)

/-- A context with the same names as a wider one but for some macros, which allows at most as much,
and whose further faults are in `stops`. -/
structure Context.Narrows (stops : Fault → Prop) (context wide : Context) : Prop where
  functions : context.registries.functions = wide.registries.functions
  enums : context.registries.enums = wide.registries.enums
  entities : context.registries.entities = wide.registries.entities
  temporal : context.temporal = wide.temporal
  minEnumSegments : context.options.minEnumSegments = wide.options.minEnumSegments
  minEntitySegments : context.options.minEntitySegments = wide.options.minEntitySegments
  macros (name : String) :
    context.registries.macros.get? name = wide.registries.macros.get? name ∨
    context.registries.macros.get? name = none ∧
      ∀ written span, stops ⟨.resolve (.unresolved written), span⟩
  outer :
    context.options.allowOuter = wide.options.allowOuter ∨
    context.options.allowOuter = false ∧ ∀ span, stops ⟨.resolve .outerNotAllowed, span⟩
  quantifiers :
    context.options.allowQuantifiers = wide.options.allowQuantifiers ∨
    context.options.allowQuantifiers = false ∧ ∀ span, stops ⟨.quantifier, span⟩
  bareTreat :
    context.options.allowBareTreat = wide.options.allowBareTreat ∨
    context.options.allowBareTreat = false ∧ ∀ span, stops ⟨.bareTreat, span⟩
  nesting : ∀ span, stops ⟨.nesting context.options.maxDepth, span⟩

variable {stops : Fault → Prop} {context wide : Context}

namespace Context.Narrows

/-- Every context narrows itself; only the nesting can differ. -/
lemma refl (context : Context) :
    context.Narrows (fun fault => fault.cause = .nesting context.options.maxDepth) context where
  functions := rfl
  enums := rfl
  entities := rfl
  temporal := rfl
  minEnumSegments := rfl
  minEntitySegments := rfl
  macros _ := .inl rfl
  outer := .inl rfl
  quantifiers := .inl rfl
  bareTreat := .inl rfl
  nesting _ := rfl

/-- Names of entities are the same. -/
lemma entity? (narrow : context.Narrows stops wide) : context.entity? = wide.entity? := by
  funext text
  simp only [Context.entity?, narrow.entities]

/-- Names of enum constants are the same. -/
lemma enumConstant? (narrow : context.Narrows stops wide) :
    context.enumConstant? = wide.enumConstant? := by
  funext text
  simp only [Context.enumConstant?, Context.enumExpression, narrow.enums]

/-- Enum constants at the start of a path are the same. -/
lemma leadingConstant? (narrow : context.Narrows stops wide) :
    context.leadingConstant? = wide.leadingConstant? := by
  funext segments
  simp only [Context.leadingConstant?, narrow.enumConstant?, narrow.minEnumSegments]

/-- Names that have to be a constant are the same. -/
lemma constant (narrow : context.Narrows stops wide) : context.constant = wide.constant := by
  funext segments
  simp only [Context.constant, narrow.enumConstant?, narrow.entity?]

/-- Identifiers are the same. -/
lemma identifier (narrow : context.Narrows stops wide) :
    context.identifier = wide.identifier := by
  funext name
  simp only [Context.identifier, narrow.entity?]

/-- Entities under an index are the same. -/
lemma indexedEntity? (narrow : context.Narrows stops wide) :
    context.indexedEntity? = wide.indexedEntity? := by
  funext segments
  simp only [Context.indexedEntity?, narrow.entity?, narrow.minEntitySegments]

/-- The other sides of comparisons with a type are the same. -/
lemma typeComparand (narrow : context.Narrows stops wide) :
    context.typeComparand = wide.typeComparand := by
  funext expression
  simp only [Context.typeComparand, narrow.entity?]

/-- A macro that the narrow context lacks is a fault in `stops`. -/
lemma expand (narrow : context.Narrows stops wide) (span : Span) (name : String)
    (arguments : List Expression) :
    Cut (fun error => stops ⟨.resolve error, span⟩) (context.expand name arguments)
      (wide.expand name arguments) := by
  simp only [Context.expand]
  obtain same | ⟨missing, stop⟩ := narrow.macros (Case.upper name)
  · rw [same]
    exact .refl _
  · rw [missing]
    refine .fail ?_ _
    exact stop name span

/-- A call of a function of the language is the same, or stops at `OUTER`. -/
lemma ofBuiltin (narrow : context.Narrows stops wide) (span : Span) (call : Invocation)
    (builtin : Builtin) :
    Cut (fun error => stops ⟨.resolve error, span⟩) (.ofExcept (call.ofBuiltin context builtin))
      (.ofExcept (call.ofBuiltin wide builtin)) := by
  cases builtin with
  | outer =>
    obtain same | ⟨refused, stop⟩ := narrow.outer
    · simp only [Invocation.ofBuiltin, same]
      exact .refl _
    · simp only [Invocation.ofBuiltin, refused]
      refine .fail ?_ _
      exact stop span
  | passthrough =>
    simp only [Invocation.ofBuiltin, Invocation.passedKind, narrow.functions]
    exact .refl _
  | moment | scalar | trim | size | access | typeOf => exact .refl _

/-- A call is the same, or stops where the narrow context lacks a macro or refuses `OUTER`. -/
lemma resolve (narrow : context.Narrows stops wide) (span : Span) (call : Invocation) :
    Cut (fun error => stops ⟨.resolve error, span⟩) (call.resolve context)
      (call.resolve wide) := by
  simp only [Invocation.resolve, narrow.functions]
  split
  · exact narrow.ofBuiltin span call _
  · split
    · exact .refl _
    · exact .bind (.refl _) fun _ => narrow.expand span _ _

end Context.Narrows

namespace Syntax

/-- Faults that come from a resolution keep a cut. -/
lemma place_cut {α : Type} {span : Span} {s t : Traced ResolveError α}
    (cut : Cut (fun error => stops ⟨.resolve error, span⟩) s t) :
    Cut stops (place span s) (place span t) :=
  cut.mapError fun _ stop => stop

/-- Alternatives without operands are built the same. -/
lemma Atom.build_narrow (narrow : context.Narrows stops wide) (leaf : Atom) :
    leaf.build context = leaf.build wide := by
  simp only [Atom.build, narrow.temporal, narrow.constant, narrow.leadingConstant?,
    narrow.identifier]

/-- Operators with two operands are built the same. -/
lemma BinaryOp.build_narrow (narrow : context.Narrows stops wide) (op : BinaryOp)
    (left right : Expression) : op.build context left right = op.build wide left right := by
  simp only [BinaryOp.build, compare, narrow.typeComparand]

/-- A quantifier is allowed alike, or the narrow context stops at it. -/
lemma BinaryOp.permit_cut (narrow : context.Narrows stops wide) (op : BinaryOp) (span : Span) :
    Cut stops (liftM (op.permit context.options span)) (liftM (op.permit wide.options span)) := by
  cases op with
  | quantified sign word =>
    cases word with
    | none => exact .refl _
    | some word =>
      obtain same | ⟨refused, stop⟩ := narrow.quantifiers
      · simp only [BinaryOp.permit, same]
        exact .refl _
      · simp only [BinaryOp.permit, refused]
        exact .fail (stop span) _
  | _ => exact .refl _

/-- What a path is written for is built alike, or the narrow context stops at a bare downcast. -/
lemma PathRole.build_cut (narrow : context.Narrows stops wide) (role : PathRole) (span : Span)
    (built : Expression) :
    Cut stops (liftM (role.build context.options span built))
      (liftM (role.build wide.options span built)) := by
  cases role with
  | plain =>
    obtain same | ⟨refused, stop⟩ := narrow.bareTreat
    · simp only [PathRole.build, same]
      exact .refl _
    · simp only [PathRole.build, refused]
      cases built.isBareTreat with
      | true => exact .fail (stop span) _
      | false => exact .refl _
  | _ => exact .refl _

/-- An enum constant at the start of a path is found alike. -/
lemma leadingConstant?_narrow (narrow : context.Narrows stops wide) (span : Span)
    (segments : List String) (index : Option Node) :
    leadingConstant? context span segments index = leadingConstant? wide span segments index := by
  simp only [leadingConstant?, narrow.leadingConstant?]

/-- The elements of the first link of a path are the same. -/
lemma leadingElements_narrow (narrow : context.Narrows stops wide) (segments : List String)
    (index : Option Expression) :
    leadingElements context segments index = leadingElements wide segments index := by
  simp only [leadingElements, narrow.indexedEntity?]

/-! The induction follows the builder, one lemma for each of its functions. Both builds go one level
down at the same nodes, so that what is left of the narrow nesting stays at most what is left of the
wide one. -/

mutual

/-- A narrow build of a node is a cut of the wide one. -/
theorem Node.build_cut {depth depth'} (narrow : context.Narrows stops wide)
    (room : context.options.maxDepth + depth' ≤ wide.options.maxDepth + depth) :
    ∀ node : Node, Cut stops (node.build context depth) (node.build wide depth')
  | ⟨kind, span⟩ => by
    rw [Node.build, Node.build]
    by_cases full : context.options.maxDepth ≤ depth
    -- what the wide build does beyond the limit of the narrow one does not matter
    · rw [if_pos full]
      exact .fail (narrow.nesting span) _
    · rw [if_neg full, if_neg (by omega)]
      exact Kind.build_cut narrow (by omega) span kind

/-- A narrow build of an alternative is a cut of the wide one. -/
theorem Kind.build_cut {depth depth'} (narrow : context.Narrows stops wide)
    (room : context.options.maxDepth + depth' ≤ wide.options.maxDepth + depth) (span : Span) :
    ∀ kind : Kind, Cut stops (kind.build context depth span) (kind.build wide depth' span)
  | .atom leaf => by
    rw [Kind.build, Kind.build, leaf.build_narrow narrow]
    exact .refl _
  | .unary op operand => by
    rw [Kind.build, Kind.build]
    exact .bind (Node.build_cut narrow room operand) fun _ => .refl _
  | .binary op left right => by
    rw [Kind.build, Kind.build]
    refine .bind (op.permit_cut narrow span) fun _ => ?_
    refine .bind (Node.build_cut narrow room left) fun _ => ?_
    refine .bind (Node.build_cut narrow room right) fun _ => ?_
    exact .of_eq (by rw [op.build_narrow narrow])
  | .connective op left right => by
    rw [Kind.build, Kind.build]
    refine .bind (Node.build_cut narrow room left) fun _ => .bind (.refl _) fun _ => ?_
    exact .bind (Node.build_cut narrow room right) fun _ => .refl _
  | .negation operand => by
    rw [Kind.build, Kind.build]
    exact .bind (Node.build_cut narrow room operand) fun _ => .refl _
  | .typeOf ⟨kind, operandSpan⟩ => by
    -- the operand of a type is built only if it is a path or a parameter
    cases kind with
    | path role path =>
      cases role with
      | plain =>
        rw [Kind.build, Kind.build]
        exact .bind (Path.build_cut narrow room operandSpan path) fun _ => .refl _
      | _ => exact .refl _
    | atom leaf =>
      cases leaf with
      | namedParameter | positionalParameter =>
        exact .bind (Node.build_cut narrow room _) fun _ => .refl _
      | _ => exact .refl _
    | _ => exact .refl _
  | .between negated operand low high => by
    rw [Kind.build, Kind.build]
    refine .bind (Node.build_cut narrow room operand) fun _ => ?_
    refine .bind (Node.build_cut narrow room low) fun _ => ?_
    exact .bind (Node.build_cut narrow room high) fun _ => .refl _
  | .like negated operand pattern escape => by
    rw [Kind.build, Kind.build]
    refine .bind (buildOption_cut narrow room escape) fun built => ?_
    split
    · exact .refl _
    · refine .bind (Node.build_cut narrow room operand) fun _ => ?_
      exact .bind (Node.build_cut narrow room pattern) fun _ => .refl _
  | .inList negated operand items parenthesized => by
    rw [Kind.build, Kind.build]
    refine .bind (Node.build_cut narrow room operand) fun _ => ?_
    refine .bind (buildAll_cut narrow room items) fun _ => ?_
    exact .of_eq (by simp only [membership, narrow.typeComparand])
  | .simpleCase operand branches otherwise => by
    rw [Kind.build, Kind.build]
    refine .bind (Node.build_cut narrow room operand) fun _ => ?_
    refine .bind (buildBranches_cut narrow room branches) fun _ => ?_
    exact .bind (buildOption_cut narrow room otherwise) fun _ => .refl _
  | .searchedCase branches otherwise => by
    rw [Kind.build, Kind.build]
    refine .bind (buildSearched_cut narrow room branches) fun _ => ?_
    exact .bind (buildOption_cut narrow room otherwise) fun _ => .refl _
  | .trim side character operand => by
    rw [Kind.build, Kind.build]
    refine .bind (buildOption_cut narrow room character) fun _ => ?_
    exact .bind (Node.build_cut narrow room operand) fun _ => .refl _
  | .count distinct argument filter window => by
    rw [Kind.build, Kind.build]
    refine .bind (buildOption_cut narrow room argument) fun _ => ?_
    refine .bind (buildFilter_cut narrow room filter) fun _ => ?_
    refine .bind (buildOver_cut narrow room span window) fun _ => ?_
    exact place_cut (narrow.resolve span _)
  | .call call => by
    rw [Kind.build, Kind.build]
    exact Call.build_cut narrow room span call
  | .path role path => by
    rw [Kind.build, Kind.build]
    exact .bind (Path.build_cut narrow room span path) fun _ => role.build_cut narrow span _
  | .memberOf negated element collection => by
    rw [Kind.build, Kind.build]
    refine .bind (Node.build_cut narrow room element) fun _ => ?_
    exact .bind (Path.build_cut narrow room span collection) fun _ => .refl _
  | .applied (.constructor className) arguments => by
    rw [Kind.build, Kind.build]
    exact .bind (buildAll_cut narrow room arguments) fun _ => .refl _
  | .applied (.expansion name) arguments => by
    rw [Kind.build, Kind.build]
    refine .bind (buildAll_cut narrow room arguments) fun _ => ?_
    exact place_cut (narrow.expand span name _)

/-- A narrow build of some nodes is a cut of the wide one. -/
theorem buildAll_cut {depth depth'} (narrow : context.Narrows stops wide)
    (room : context.options.maxDepth + depth' ≤ wide.options.maxDepth + depth) :
    ∀ nodes, Cut stops (buildAll context depth nodes) (buildAll wide depth' nodes)
  | [] => .refl _
  | node :: rest => by
    rw [buildAll, buildAll]
    refine .bind (Node.build_cut narrow room node) fun _ => ?_
    exact .bind (buildAll_cut narrow room rest) fun _ => .refl _

/-- A narrow build of an optional node is a cut of the wide one. -/
theorem buildOption_cut {depth depth'} (narrow : context.Narrows stops wide)
    (room : context.options.maxDepth + depth' ≤ wide.options.maxDepth + depth) :
    ∀ node, Cut stops (buildOption context depth node) (buildOption wide depth' node)
  | none => .refl _
  | some node => by
    rw [buildOption, buildOption]
    exact .bind (Node.build_cut narrow room node) fun _ => .refl _

/-- A narrow build of an optional filter is a cut of the wide one. -/
theorem buildFilter_cut {depth depth'} (narrow : context.Narrows stops wide)
    (room : context.options.maxDepth + depth' ≤ wide.options.maxDepth + depth) :
    ∀ node, Cut stops (buildFilter context depth node) (buildFilter wide depth' node)
  | none => .refl _
  | some node => by
    rw [buildFilter, buildFilter]
    exact .bind (Node.build_cut narrow room node) fun _ => .refl _

/-- A narrow build of the branches of a simple case is a cut of the wide one. -/
theorem buildBranches_cut {depth depth'} (narrow : context.Narrows stops wide)
    (room : context.options.maxDepth + depth' ≤ wide.options.maxDepth + depth) :
    ∀ branches, Cut stops (buildBranches context depth branches) (buildBranches wide depth' branches)
  | [] => .refl _
  | ⟨condition, result⟩ :: rest => by
    rw [buildBranches, buildBranches]
    refine .bind (Node.build_cut narrow room condition) fun _ => ?_
    refine .bind (Node.build_cut narrow room result) fun _ => ?_
    exact .bind (buildBranches_cut narrow room rest) fun _ => .refl _

/-- A narrow build of the branches of a searched case is a cut of the wide one. -/
theorem buildSearched_cut {depth depth'} (narrow : context.Narrows stops wide)
    (room : context.options.maxDepth + depth' ≤ wide.options.maxDepth + depth) :
    ∀ branches, Cut stops (buildSearched context depth branches) (buildSearched wide depth' branches)
  | [] => .refl _
  | ⟨condition, result⟩ :: rest => by
    rw [buildSearched, buildSearched]
    refine .bind (Node.build_cut narrow room condition) fun _ => .bind (.refl _) fun _ => ?_
    refine .bind (Node.build_cut narrow room result) fun _ => ?_
    exact .bind (buildSearched_cut narrow room rest) fun _ => .refl _

/-- A narrow build of a path is a cut of the wide one. -/
theorem Path.build_cut {depth depth'} (narrow : context.Narrows stops wide)
    (room : context.options.maxDepth + depth' ≤ wide.options.maxDepth + depth) (span : Span) :
    ∀ path : Path, Cut stops (path.build context depth span) (path.build wide depth' span)
  | ⟨none, []⟩ => .refl _
  | ⟨none, ⟨segments, index⟩ :: links⟩ => by
    rw [Path.build, Path.build, leadingConstant?_narrow narrow]
    refine .bind (.refl _) fun _ => .bind (.refl _) fun constant => ?_
    cases constant with
    -- an enum constant takes the place of the whole path
    | some constant => exact .refl _
    | none =>
      refine .bind (buildOption_cut narrow room index) fun _ => ?_
      refine .bind (buildLinks_cut narrow room span links) fun _ => ?_
      exact .of_eq (by rw [leadingElements_narrow narrow])
  | ⟨some qualifier, []⟩ => by
    rw [Path.build, Path.build]
    exact Node.build_cut narrow room qualifier
  | ⟨some qualifier, ⟨segments, index⟩ :: links⟩ => by
    rw [Path.build, Path.build]
    refine .bind (Node.build_cut narrow room qualifier) fun _ => ?_
    refine .bind (.refl _) fun _ => .bind (.refl _) fun _ => ?_
    refine .bind (buildOption_cut narrow room index) fun _ => ?_
    exact .bind (buildLinks_cut narrow room span links) fun _ => .refl _

/-- A narrow build of some links is a cut of the wide one. -/
theorem buildLinks_cut {depth depth'} (narrow : context.Narrows stops wide)
    (room : context.options.maxDepth + depth' ≤ wide.options.maxDepth + depth) (span : Span) :
    ∀ links, Cut stops (buildLinks context depth span links) (buildLinks wide depth' span links)
  | [] => .refl _
  | ⟨segments, index⟩ :: rest => by
    rw [buildLinks, buildLinks]
    refine .bind (.refl _) fun _ => ?_
    refine .bind (buildOption_cut narrow room index) fun _ => ?_
    exact .bind (buildLinks_cut narrow room span rest) fun _ => .refl _

/-- A narrow build of a call is a cut of the wide one. -/
theorem Call.build_cut {depth depth'} (narrow : context.Narrows stops wide)
    (room : context.options.maxDepth + depth' ≤ wide.options.maxDepth + depth) (span : Span) :
    ∀ call : Call, Cut stops (call.build context depth span) (call.build wide depth' span)
  | ⟨name, distinct, arguments, withinGroup, filter, window⟩ => by
    rw [Call.build, Call.build]
    refine .bind (buildAll_cut narrow room arguments) fun _ => ?_
    refine .bind (buildGroup_cut narrow room withinGroup) fun _ => ?_
    refine .bind (buildFilter_cut narrow room filter) fun _ => ?_
    refine .bind (buildOver_cut narrow room span window) fun _ => ?_
    exact place_cut (narrow.resolve span _)

/-- A narrow build of an optional ordering is a cut of the wide one. -/
theorem buildGroup_cut {depth depth'} (narrow : context.Narrows stops wide)
    (room : context.options.maxDepth + depth' ≤ wide.options.maxDepth + depth) :
    ∀ items, Cut stops (buildGroup context depth items) (buildGroup wide depth' items)
  | none => .refl _
  | some items => by
    rw [buildGroup, buildGroup]
    exact .bind (buildItems_cut narrow room items) fun _ => .refl _

/-- A narrow build of the items of an ordering is a cut of the wide one. -/
theorem buildItems_cut {depth depth'} (narrow : context.Narrows stops wide)
    (room : context.options.maxDepth + depth' ≤ wide.options.maxDepth + depth) :
    ∀ items, Cut stops (buildItems context depth items) (buildItems wide depth' items)
  | [] => .refl _
  | ⟨expression, descending, nulls, collation, span⟩ :: rest => by
    rw [buildItems, buildItems]
    refine .bind (Node.build_cut narrow room expression) fun _ => .bind (.refl _) fun _ => ?_
    exact .bind (buildItems_cut narrow room rest) fun _ => .refl _

/-- A narrow build of an optional `OVER` clause is a cut of the wide one. -/
theorem buildOver_cut {depth depth'} (narrow : context.Narrows stops wide)
    (room : context.options.maxDepth + depth' ≤ wide.options.maxDepth + depth) (span : Span) :
    ∀ window, Cut stops (buildOver context depth span window) (buildOver wide depth' span window)
  | none => .refl _
  | some (.named name) => .refl _
  | some (.inline name partitionBy orderBy frame) => by
    rw [buildOver, buildOver]
    refine .bind (buildAll_cut narrow room partitionBy) fun _ => ?_
    refine .bind (buildItems_cut narrow room orderBy) fun _ => ?_
    exact .bind (buildFrame_cut narrow room span frame) fun _ => .refl _

/-- A narrow build of an optional frame is a cut of the wide one. -/
theorem buildFrame_cut {depth depth'} (narrow : context.Narrows stops wide)
    (room : context.options.maxDepth + depth' ≤ wide.options.maxDepth + depth) (span : Span) :
    ∀ frame, Cut stops (buildFrame context depth span frame) (buildFrame wide depth' span frame)
  | none => .refl _
  | some ⟨mode, start, stop, exclusion⟩ => by
    rw [buildFrame, buildFrame]
    refine .bind (buildBound_cut narrow room start) fun _ => ?_
    exact .bind (buildStop_cut narrow room stop) fun _ => .refl _

/-- A narrow build of the end of a frame is a cut of the wide one. -/
theorem buildStop_cut {depth depth'} (narrow : context.Narrows stops wide)
    (room : context.options.maxDepth + depth' ≤ wide.options.maxDepth + depth) :
    ∀ bound, Cut stops (buildStop context depth bound) (buildStop wide depth' bound)
  | none => .refl _
  | some bound => by
    rw [buildStop, buildStop]
    exact .bind (buildBound_cut narrow room bound) fun _ => .refl _

/-- A narrow build of the bound of a frame is a cut of the wide one. -/
theorem buildBound_cut {depth depth'} (narrow : context.Narrows stops wide)
    (room : context.options.maxDepth + depth' ≤ wide.options.maxDepth + depth) :
    ∀ bound, Cut stops (buildBound context depth bound) (buildBound wide depth' bound)
  | .unboundedPreceding | .currentRow | .unboundedFollowing => .refl _
  | .preceding offset => by
    rw [buildBound, buildBound]
    exact .bind (Node.build_cut narrow room offset) fun _ => .refl _
  | .following offset => by
    rw [buildBound, buildBound]
    exact .bind (Node.build_cut narrow room offset) fun _ => .refl _

end

end Syntax

end QueryExpr
