import QueryExpr.Build
import QueryExpr.Proofs.Traced

/-!
# Faults of single steps

What the steps of a build that descend no further can fail with, and at which span. Each lemma
inverts one step. A fault is reported with the complaint of its cause, from which the cause can be
told where it is about nesting. Names and calls are never refused for a frame. A call expands at
most the macro that its name is left to.
-/

namespace QueryExpr

/-- A fault is reported with the complaint of its cause. -/
lemma Fault.complaint_report (fault : Fault) (source : String) :
    (fault.report source).complaint = fault.cause.complaint := by
  unfold Fault.report
  split <;> rfl

/-- A fault is reported with the code of its cause. -/
lemma Fault.code_report (fault : Fault) (source : String) :
    (fault.report source).code = fault.cause.code := by
  unfold Fault.report
  split <;> rfl

/-- The complaint about nesting is that of the nesting limit alone. -/
lemma Cause.complaint_eq_nesting {cause : Cause} {limit} :
    cause.complaint = .nesting limit ↔ cause = .nesting limit := by
  cases cause with
  | nesting other => exact ⟨fun h => congrArg _ (Complaint.nesting.inj h), fun h => by cases h; rfl⟩
  | resolve error => cases error <;> exact ⟨nofun, nofun⟩
  | _ => exact ⟨nofun, nofun⟩

/-- Errors about a frame that is turned round. -/
def ResolveError.isFrame : ResolveError → Bool
  | frameBound _ => true
  | _ => false

/-- Errors of macros that failed. -/
def ResolveError.isExpansion : ResolveError → Bool
  | expansion _ => true
  | _ => false

/-- Errors about the clauses and the arguments of a call of a function. -/
def ResolveError.isRefusal : ResolveError → Bool
  | illegalClause _ | outerNotAllowed | pathRequired _ | missingArgument _ | invalidFunctionName =>
    true
  | _ => false

namespace ResolveError

variable {error : ResolveError}

/-- A refused call is not an error about a frame. -/
lemma not_isFrame_of_isRefusal (h : error.isRefusal) : ¬ error.isFrame := by
  cases error with
  | frameBound => cases h
  | _ => exact Bool.false_ne_true

/-- A refused call is not an error of a macro. -/
lemma not_isExpansion_of_isRefusal (h : error.isRefusal) : ¬ error.isExpansion := by
  cases error with
  | expansion => cases h
  | _ => exact Bool.false_ne_true

end ResolveError

namespace Context

variable {context : Context} {error : ResolveError}

/-- An enum type fails to give a constant only by not having it. -/
lemma enumConstant?_error {text} (h : context.enumConstant? text = .error error) :
    ∃ typeName constant, error = .unknownEnumConstant typeName constant := by
  unfold enumConstant? at h
  split at h
  · cases h
  · split at h
    · cases h
    · split at h
      · cases h
      · cases h
        exact ⟨_, _, rfl⟩

/-- The start of a path fails to be a constant only for a constant that its type lacks. -/
lemma leadingConstant?_error {segments} (h : context.leadingConstant? segments = .error error) :
    ∃ typeName constant, error = .unknownEnumConstant typeName constant := by
  unfold leadingConstant? at h
  split at h
  · cases h
  · exact enumConstant?_error h

/-- A name that must be a constant fails for a constant that its type lacks, or as a literal that it
is not. -/
lemma constant_error {segments} (h : context.constant segments = .error error) :
    (∃ typeName constant, error = .unknownEnumConstant typeName constant) ∨
      ∃ text, error = .invalidLiteral text := by
  simp only [constant] at h
  split at h
  · next failed =>
    cases h
    exact .inl (enumConstant?_error failed)
  · cases h
  · split at h
    · cases h
    · cases h
      exact .inr ⟨_, rfl⟩

/-- An expansion fails for a macro that is not registered, or with the message of the macro. -/
lemma expand_error {name arguments} (h : (context.expand name arguments).result = .error error) :
    error = .unresolved name ∨ ∃ message, error = .expansion message := by
  unfold expand at h
  split at h
  · obtain ⟨message, -, rfl⟩ := except_mapError_error.1 h
    exact .inr ⟨message, rfl⟩
  · cases h
    exact .inl rfl

/-- The macro that a call is left to: its name is neither that of a function of the language nor
that of a registered one. -/
def macroName? (context : Context) (name : String) : Option String :=
  if Builtin.ofName? (Case.lower name) = none ∧
      context.registries.functions.kind? (Case.lower name) = none then
    some (Case.upper name)
  else none

/-- Only a registered macro is expanded. -/
lemma expand_macros {name arguments other}
    (h : other ∈ (context.expand name arguments).macros) :
    other = Case.upper name ∧ context.registries.macros.contains other := by
  unfold expand at h
  split at h
  · next found =>
    obtain rfl := List.mem_singleton.1 h
    refine ⟨rfl, ?_⟩
    have known : context.registries.macros.contains (Case.upper name) = true :=
      Option.isSome_iff_exists.2 ⟨_, found⟩
    exact known
  · cases h

end Context

namespace Invocation

variable {context : Context} {call : Invocation} {error : ResolveError}

/-- A forbidden clause is refused. -/
lemma forbid_error {clauses} (h : call.forbid clauses = .error error) : error.isRefusal := by
  unfold forbid at h
  split at h
  · cases h
    rfl
  · cases h

/-- A call of a registered function fails by being refused. -/
lemma ofKind_error {kind} (h : call.ofKind kind = .error error) : error.isRefusal := by
  cases kind with
  | aggregate =>
    obtain failed | ⟨_, -, h⟩ := except_bind_error.1 h
    · exact forbid_error failed
    · split at h <;> cases h
  | orderedSetAggregate =>
    simp only [ofKind] at h
    split at h <;> cases h
  | window | scalar | deterministic =>
    obtain failed | ⟨_, -, h⟩ := except_bind_error.1 h
    · exact forbid_error failed
    · cases h

/-- A first argument that is missing is refused. -/
lemma firstArgument_error (h : call.firstArgument = .error error) : error.isRefusal := by
  unfold firstArgument at h
  split at h
  · cases h
    rfl
  · cases h

/-- A first argument that is missing or no path is refused. -/
lemma firstPath_error (h : call.firstPath = .error error) : error.isRefusal := by
  obtain failed | ⟨e, -, h⟩ := except_bind_error.1 h
  · exact firstArgument_error failed
  · split at h
    · cases h
    · cases h
      rfl

/-- A first argument that is no function name is refused. -/
lemma passedKind_error (h : call.passedKind context = .error error) : error.isRefusal := by
  unfold passedKind at h
  split at h
  · cases h
  · cases h
    rfl

/-- A call of a function of the language fails by being refused. -/
lemma ofBuiltin_error {builtin} (h : call.ofBuiltin context builtin = .error error) :
    error.isRefusal := by
  cases builtin with
  | moment | scalar =>
    obtain failed | ⟨_, -, h⟩ := except_bind_error.1 h
    · exact forbid_error failed
    · cases h
  | outer =>
    simp only [ofBuiltin] at h
    split at h
    · obtain failed | ⟨_, -, h⟩ := except_bind_error.1 h
      · exact forbid_error failed
      · cases h
    · cases h
      rfl
  | trim | typeOf =>
    obtain failed | ⟨_, -, h⟩ := except_bind_error.1 h
    · exact forbid_error failed
    · obtain failed | ⟨_, -, h⟩ := except_bind_error.1 h
      · exact firstArgument_error failed
      · cases h
  | size | access =>
    obtain failed | ⟨_, -, h⟩ := except_bind_error.1 h
    · exact forbid_error failed
    · obtain failed | ⟨_, -, h⟩ := except_bind_error.1 h
      · exact firstPath_error failed
      · cases h
  | passthrough =>
    obtain failed | ⟨_, -, h⟩ := except_bind_error.1 h
    · exact forbid_error failed
    · obtain failed | ⟨kind, -, h⟩ := except_bind_error.1 h
      · exact passedKind_error failed
      · exact ofKind_error h

/-- A call is never refused for a frame. -/
lemma resolve_error (h : (call.resolve context).result = .error error) : ¬ error.isFrame := by
  unfold resolve at h
  -- functions of the language and registered ones only refuse, and macros know no frames
  split at h
  · exact ResolveError.not_isFrame_of_isRefusal (ofBuiltin_error h)
  · split at h
    · exact ResolveError.not_isFrame_of_isRefusal (ofKind_error h)
    · have fails : Traced.Fails (¬ ·.isFrame)
          (liftM call.forbidAll >>= fun _ => context.expand call.name call.arguments) := by
        refine .bind (.lift fun error failed => ?_) fun _ error failed => ?_
        · exact ResolveError.not_isFrame_of_isRefusal (forbid_error failed)
        · obtain rfl | ⟨message, rfl⟩ := Context.expand_error failed <;> exact Bool.false_ne_true
      exact fails error h

/-- A call that is resolved is that of a function of the language, of a registered one, or of a
macro. -/
lemma resolve_ok {e} (h : (call.resolve context).result = .ok e) :
    (∃ builtin, Builtin.ofName? (Case.lower call.name) = some builtin ∧
      call.ofBuiltin context builtin = .ok e) ∨
    (∃ kind, Builtin.ofName? (Case.lower call.name) = none ∧
      context.registries.functions.kind? (Case.lower call.name) = some kind ∧
      call.ofKind kind = .ok e) ∨
    (context.macroName? call.name = some (Case.upper call.name) ∧
      (context.expand call.name call.arguments).result = .ok e) := by
  unfold resolve at h
  split at h
  · next builtin named => exact .inl ⟨builtin, named, h⟩
  · next unnamed =>
    split at h
    · next kind registered => exact .inr (.inl ⟨kind, unnamed, registered, h⟩)
    · next unregistered =>
      obtain ⟨_, -, expanded⟩ := Traced.bind_ok.1 h
      exact .inr (.inr ⟨if_pos ⟨unnamed, unregistered⟩, expanded⟩)

/-- A call expands at most the macro that it is left to, and only if that is registered. -/
lemma resolve_macros {name} (h : name ∈ (call.resolve context).macros) :
    context.macroName? call.name = some name ∧ context.registries.macros.contains name := by
  unfold resolve at h
  split at h
  · cases h
  · next unnamed =>
    split at h
    · cases h
    · next unregistered =>
      cases permitted : call.forbidAll with
      | error failed => rw [permitted] at h; cases h
      | ok _ =>
        rw [permitted] at h
        obtain ⟨rfl, known⟩ := Context.expand_macros (List.mem_append.1 h |>.resolve_left nofun)
        exact ⟨if_pos ⟨unnamed, unregistered⟩, known⟩

end Invocation

namespace Syntax

open Traced

variable {context : Context} {span : Span} {fault : Fault}

/-- An expression is refused as a predicate with the name and the span of its node. -/
lemma asPredicate_error {node : Node} {built} (h : asPredicate node built = .error fault) :
    fault = ⟨.notPredicate node.kind.name, node.span⟩ := by
  unfold asPredicate at h
  split at h
  · cases h
  · cases h
  · exact (Except.error.inj h).symm

/-- A step that cannot fail leaves the error of the one before it. -/
private lemma map_error {α β : Type} {r : Except Fault α} {f : α → β}
    (h : (do return f (← r)) = .error fault) : r = .error fault := by
  cases r with
  | ok a => cases h
  | error other => cases h; rfl

/-- An expression is refused as a path in the name of what needs the path. -/
lemma asPath_error {name : String} {built} (h : asPath span name built = .error fault) :
    fault = ⟨.resolve (.pathRequired name), span⟩ := by
  unfold asPath at h
  split at h
  · cases h
  · exact (Except.error.inj h).symm

/-- Alternatives without operands fail for a name, a literal, a missing segment, or text that could
not be matched. What is wrong with a date or time is for its reader to say. -/
lemma Atom.build_error {leaf : Atom} {cause} (h : leaf.build context = .error cause) :
    (∃ error, cause = .resolve error ∧ (error.isFrame → ∃ kind body,
      leaf = .temporal kind body ∧ context.temporal kind body = .error error)) ∨
      (leaf = .subpath [] ∧ cause = .emptyLink) ∨
      ∃ text, leaf = .unmatched text ∧ cause = .unmatched text := by
  cases leaf with
  | null | boolean | numeric | namedParameter | positionalParameter | temporalFunction | object
  | identifier => cases h
  | string raw =>
    simp only [Atom.build] at h
    split at h <;> cases h
    exact .inl ⟨_, rfl, nofun⟩
  | temporal kind body =>
    simp only [Atom.build] at h
    cases read : context.temporal kind body <;> rw [read] at h <;> cases h
    exact .inl ⟨_, rfl, fun _ => ⟨kind, body, rfl, read⟩⟩
  | constant segments =>
    obtain ⟨error, named, rfl⟩ := except_mapError_error.1 h
    obtain ⟨typeName, constant, rfl⟩ | ⟨text, rfl⟩ := Context.constant_error named
    · exact .inl ⟨_, rfl, nofun⟩
    · exact .inl ⟨_, rfl, nofun⟩
  | subpath segments =>
    simp only [Atom.build] at h
    split at h
    · next named =>
      cases h
      obtain ⟨typeName, constant, rfl⟩ := Context.leadingConstant?_error named
      exact .inl ⟨_, rfl, nofun⟩
    · cases h
    · -- only a path without elements is none
      split at h
      · cases h
      · next none =>
        cases h
        have empty := QueryExpr.Path.ofElements?_eq_none_iff.1 none
        obtain rfl : segments = [] := List.map_eq_nil_iff.1 empty
        exact .inr (.inl ⟨rfl, rfl⟩)
  | unmatched text =>
    cases h
    exact .inr (.inr ⟨text, rfl, rfl⟩)

/-- Steps with one operand fail only for an emptiness test of something else than a path. -/
lemma UnaryOp.build_error {op : UnaryOp} {built} (h : op.build span built = .error fault) :
    fault = ⟨.resolve (.pathRequired "IS EMPTY"), span⟩ := by
  cases op with
  | isEmpty negated => exact asPath_error (map_error h)
  | _ => cases h

/-- A step with two operands is refused only for its quantifier. -/
lemma BinaryOp.permit_error {op : BinaryOp} {options} (h : op.permit options span = .error fault) :
    fault = ⟨.quantifier, span⟩ := by
  unfold BinaryOp.permit at h
  split at h
  · split at h
    · cases h
    · exact (Except.error.inj h).symm
  · cases h

/-- What is made of a path fails for a bare downcast, or where a path is required. -/
lemma PathRole.build_error {role : PathRole} {options built}
    (h : role.build options span built = .error fault) :
    fault = ⟨.bareTreat, span⟩ ∨ ∃ name, fault = ⟨.resolve (.pathRequired name), span⟩ := by
  cases role with
  | plain =>
    simp only [PathRole.build] at h
    split at h
    · exact .inl (Except.error.inj h).symm
    · cases h
  | treat entityName =>
    simp only [PathRole.build] at h
    split at h <;> cases h
  | value | key | entry => exact .inr ⟨_, asPath_error (map_error h)⟩

/-- A qualifier that cannot start a path is refused at its own span. -/
lemma startPath_error {qualifier : Node} {built} (h : startPath qualifier built = .error fault) :
    fault = ⟨.qualifier, qualifier.span⟩ := by
  unfold startPath at h
  split at h
  · cases h
  · split at h
    · cases h
    · exact (Except.error.inj h).symm

/-- A link is refused only for having no segments. -/
lemma checkLink_error {segments : List String} (h : checkLink span segments = .error fault) :
    segments = [] ∧ fault = ⟨.emptyLink, span⟩ := by
  unfold checkLink at h
  split at h
  · next empty => exact ⟨List.isEmpty_iff.1 empty, (Except.error.inj h).symm⟩
  · cases h

/-- A leading constant of a path is refused at the span of the path, and never for a frame. -/
lemma leadingConstant?_error {segments : List String} {index : Option Node}
    (h : leadingConstant? context span segments index = .error fault) :
    ∃ error, ¬ error.isFrame ∧ fault = ⟨.resolve error, span⟩ := by
  unfold leadingConstant? at h
  split at h
  · cases h
  · obtain ⟨error, named, rfl⟩ := except_mapError_error.1 h
    obtain ⟨typeName, constant, rfl⟩ := Context.leadingConstant?_error named
    exact ⟨.unknownEnumConstant typeName constant, nofun, rfl⟩

/-- Elements are refused as a path only where there are none. -/
lemma ofElements_error {elements : List PathElement} (h : ofElements span elements = .error fault) :
    elements = [] ∧ fault = ⟨.emptyLink, span⟩ := by
  unfold ofElements at h
  split at h
  · cases h
  · next none => exact ⟨Path.ofElements?_eq_none_iff.1 none, (Except.error.inj h).symm⟩

/-- An error that is given a span is the error that was raised. -/
lemma place_error {α : Type} {t : Traced ResolveError α}
    (h : (place span t).result = .error fault) :
    ∃ error, t.result = .error error ∧ fault = ⟨.resolve error, span⟩ := by
  obtain ⟨error, failed, rfl⟩ := except_mapError_error.1 h
  exact ⟨error, failed, rfl⟩

/-- The item of an ordering is refused only for its collation. -/
lemma ofWritten_error {e : Expression} {descending nulls collation error}
    (h : QueryExpr.OrderItem.ofWritten e descending nulls collation = .error error) :
    error = .collation := by
  unfold QueryExpr.OrderItem.ofWritten at h
  split at h
  · exact (Except.error.inj h).symm
  · cases h

/-- A frame is refused for a bound that is turned round. -/
lemma check_error {frame : Frame Expression} {error} (h : frame.check = .error error) :
    (frame.start.isUnboundedFollowing ∨ frame.stop.any Bound.isUnboundedPreceding) ∧
      ∃ bound, error = .frameBound bound := by
  unfold Frame.check at h
  split at h
  · next start => exact ⟨.inl start, _, (Except.error.inj h).symm⟩
  · split at h
    · next stop => exact ⟨.inr stop, _, (Except.error.inj h).symm⟩
    · cases h

end Syntax

end QueryExpr
