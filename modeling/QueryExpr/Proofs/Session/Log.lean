import QueryExpr.Proofs.Build.Blame
import QueryExpr.Proofs.Build.Counter

/-!
# The log of used macros

The used macros of a session are a log: an answer adds names at its end and never reads it. A call
is looked at in two steps. Its operands are built first, which gives an `Application`; then this is
resolved, which adds at most the macro that it comes to. By `Application.resolve_records` a call
that fails adds a macro if and only if it is the macro that failed.
-/

namespace QueryExpr

namespace UsedMacros

/-- A name that is in the log is not written down again. -/
lemma names_add_of_mem {used : UsedMacros} {name : String} (h : name ∈ used.names) :
    used.add name = used := by
  rw [add, dif_pos h]

/-- A name that is not in the log is written down at its end. -/
lemma names_add_of_not_mem {used : UsedMacros} {name : String} (h : name ∉ used.names) :
    (used.add name).names = used.names ++ [name] := by
  rw [add, dif_neg h]

/-- Names are written down one after another. -/
lemma addAll_concat (used : UsedMacros) (names : List String) (name : String) :
    used.addAll (names ++ [name]) = (used.addAll names).add name :=
  addAll_append used names [name]

/-- Names are added to a log as they are to an empty one, without those that are in it. -/
lemma names_addAll (used : UsedMacros) (names : List String) :
    (used.addAll names).names =
      used.names ++ (empty.addAll names).names.filter (· ∉ used.names) := by
  induction names using List.reverseRecOn with
  | nil => exact (List.append_nil _).symm
  | append_singleton names name ih =>
    have member : name ∈ (used.addAll names).names ↔
        name ∈ used.names ∨ name ∈ (empty.addAll names).names := by
      rw [ih, List.mem_append, List.mem_filter, decide_eq_true_iff]
      tauto
    rw [addAll_concat, addAll_concat]
    -- the name is in the fresh log already, or in the old one, or in neither
    by_cases fresh : name ∈ (empty.addAll names).names
    · rw [names_add_of_mem fresh, names_add_of_mem (member.2 (.inr fresh)), ih]
    · rw [names_add_of_not_mem fresh, List.filter_append]
      by_cases known : name ∈ used.names
      · rw [names_add_of_mem (member.2 (.inl known)), ih, List.filter_singleton]
        simp only [known, not_true, decide_false, cond_false, List.append_nil]
      · have new : name ∉ (used.addAll names).names := fun h => (member.1 h).elim known fresh
        rw [names_add_of_not_mem new, ih, List.filter_singleton, List.append_assoc]
        simp only [known, not_false_iff, decide_true, cond_true]

/-- A log that starts empty has just the names that were written down. -/
lemma mem_names_addAll_empty {names : List String} {name : String} :
    name ∈ (empty.addAll names).names ↔ name ∈ names := by
  induction names using List.reverseRecOn with
  | nil => exact .rfl
  | append_singleton names other ih =>
    rw [addAll_concat, mem_names_add, ih, List.mem_append, List.mem_singleton]

end UsedMacros

/-- A resolution that adds a macro if there is one to add, and fails for a macro only there. -/
structure Records (macro? : Option String) (t : Traced ResolveError Expression) : Prop where
  macros : t.macros = macro?.toList
  error {error} : t.result = .error error → (error.isExpansion ↔ macro?.isSome)

variable {context : Context}

/-- A resolution that fails before any macro. -/
lemma Records.refused {r : Except ResolveError Expression}
    (h : ∀ error, r = .error error → error.isRefusal) : Records none (.ofExcept r) where
  macros := rfl
  error failed :=
    iff_of_false (ResolveError.not_isExpansion_of_isRefusal (h _ failed)) Bool.false_ne_true

/-- An expansion records its macro, whether it succeeds or fails. -/
lemma Records.expanded (name : String) (r : Except String Expression) :
    Records (some name) (.expanded name (r.mapError .expansion)) where
  macros := rfl
  error failed := by
    refine iff_of_true ?_ rfl
    cases r with
    | ok e => cases failed
    | error message => cases failed; rfl

/-- An expansion records its macro if that is registered. -/
lemma Context.expand_records (name : String) (arguments : List Expression) :
    Records ((some (Case.upper name)).filter context.registries.macros.contains)
      (context.expand name arguments) := by
  rw [Option.filter_some]
  split
  · next known =>
    obtain ⟨expansion, found⟩ := Option.isSome_iff_exists.1 known
    have found : context.registries.macros.get? (Case.upper name) = some expansion := found
    rw [expand, found]
    exact .expanded _ _
  · next unknown =>
    have missing : context.registries.macros.get? (Case.upper name) = none :=
      Option.not_isSome_iff_eq_none.1 unknown
    rw [expand, missing]
    refine ⟨rfl, fun failed => iff_of_false ?_ Bool.false_ne_true⟩
    cases failed
    exact Bool.false_ne_true

namespace Invocation

/-- Whether a call carries no clause. -/
def isBare (call : Invocation) : Bool :=
  !(Tagged.values (α := Clause)).any call.carries

/-- The macro that a call comes to: it carries no clause, and its name is left to the macros and
registered. -/
def macro? (context : Context) (call : Invocation) : Option String :=
  if call.isBare then
    (context.macroName? call.name).filter context.registries.macros.contains
  else none

/-- A bare call is not refused for a clause. -/
lemma forbidAll_of_isBare {call : Invocation} (bare : call.isBare) : call.forbidAll = .ok () := by
  have none : (Tagged.values (α := Clause)).find? call.carries = none := by
    simpa only [isBare, Bool.not_eq_true', List.any_eq_false, ← List.find?_eq_none] using bare
  rw [forbidAll, forbid, none]

/-- A call that is not bare is refused for a clause where none is allowed. -/
lemma forbidAll_of_not_isBare {call : Invocation} (carries : ¬ call.isBare) :
    ∃ clause, call.forbidAll = .error (.illegalClause clause) := by
  have some : ((Tagged.values (α := Clause)).find? call.carries).isSome := by
    simpa only [isBare, Bool.not_eq_true', Bool.not_eq_false, ← List.find?_isSome,
      List.any_eq_true] using carries
  obtain ⟨clause, found⟩ := Option.isSome_iff_exists.1 some
  exact ⟨clause, by rw [forbidAll, forbid, found]⟩

/-- A call records the macro that it comes to, if any. -/
lemma resolve_records (call : Invocation) :
    Records (call.macro? context) (call.resolve context) := by
  rw [resolve, macro?, Context.macroName?]
  cases Builtin.ofName? (Case.lower call.name) with
  | some builtin =>
    simp only [reduceCtorEq, false_and, if_false, Option.filter_none, ite_self]
    exact .refused fun _ => ofBuiltin_error
  | none =>
    cases context.registries.functions.kind? (Case.lower call.name) with
    | some kind =>
      simp only [reduceCtorEq, and_false, if_false, Option.filter_none, ite_self]
      exact .refused fun _ => ofKind_error
    | none =>
      -- only here the call is left to the macros
      by_cases bare : call.isBare
      · rw [if_pos bare, if_pos ⟨rfl, rfl⟩, forbidAll_of_isBare bare]
        exact context.expand_records call.name call.arguments
      · obtain ⟨clause, illegal⟩ := forbidAll_of_not_isBare bare
        rw [if_neg bare, illegal]
        exact .refused fun _ same => Except.error.inj same ▸ rfl

end Invocation

/-- What can come to a macro, with its operands built: a call, or a macro where a path may stand. -/
inductive Application where
  | call (call : Invocation)
  | expansion (name : String) (arguments : List Expression)

namespace Application

/-- What an application means. -/
def resolve (context : Context) : Application → Traced ResolveError Expression
  | call invocation => invocation.resolve context
  | expansion name arguments => context.expand name arguments

/-- The macro that an application comes to. -/
def macro? (context : Context) : Application → Option String
  | call invocation => invocation.macro? context
  | expansion name _ => (some (Case.upper name)).filter context.registries.macros.contains

/-- An application records the macro that it comes to, if any. -/
lemma resolve_records (application : Application) :
    Records (application.macro? context) (application.resolve context) := by
  cases application with
  | call invocation => exact invocation.resolve_records
  | expansion name arguments => exact context.expand_records name arguments

end Application

namespace Syntax

/-- The work on the operands of an alternative that can come to a macro. -/
def Kind.application? (context : Context) (span : Span) : Kind → Option (Work Application)
  | .call ⟨name, distinct, arguments, withinGroup, filter, window⟩ => some do
    let arguments ← visitAll context arguments
    let withinGroup ← visitGroup context withinGroup
    let filter ← visitFilter context filter
    let window ← visitOver context span window
    return .call ⟨name, distinct, arguments, withinGroup, filter, window⟩
  | .count distinct argument filter window => some do
    let argument ← visitOption context argument
    let filter ← visitFilter context filter
    let window ← visitOver context span window
    return .call ⟨"COUNT", distinct, argument.toList, none, filter, window⟩
  | .applied (.expansion name) arguments => some do
    return .expansion name (← visitAll context arguments)
  | _ => none

/-- A call is visited by work on its operands, and then resolved. -/
lemma Kind.visit_eq_resolve {span : Span} {kind : Kind} {operands}
    (h : kind.application? context span = some operands) :
    kind.visit context span = operands >>= fun application =>
      Work.ofTraced (place span (application.resolve context)) := by
  unfold application? at h
  split at h
  · cases h
    simp only [Kind.visit, Call.visit, bind_assoc, pure_bind]
    rfl
  · cases h
    simp only [Kind.visit, bind_assoc, pure_bind]
    rfl
  · cases h
    simp only [Kind.visit, bind_assoc, pure_bind]
    rfl
  · cases h

/-- What a call writes to the log. The names that its operands add come first. A call whose operands
fail or that is refused adds nothing to them, and a macro that fails adds its name. -/
structure Kind.Logs (context : Context) (span : Span) (kind : Kind) (operands : Work Application) :
    Prop where
  unbuilt {progress fault inside} : operands progress = (.error fault, inside) →
    kind.visit context span progress = (.error fault, inside)
  refused {progress application inside error} : operands progress = (.ok application, inside) →
    (application.resolve context).result = .error error → ¬ error.isExpansion →
    kind.visit context span progress = (.error ⟨.resolve error, span⟩, inside)
  failed {progress application inside message} : operands progress = (.ok application, inside) →
    (application.resolve context).result = .error (.expansion message) →
    ∃ name, application.macro? context = some name ∧ kind.visit context span progress =
      (.error ⟨.resolve (.expansion message), span⟩, { inside with used := inside.used.add name })

/-- Once its operands are built a call adds the macro that it comes to. -/
lemma Kind.visit_of_operands {span : Span} {kind : Kind} {operands progress application inside}
    (h : kind.application? context span = some operands)
    (built : operands progress = (.ok application, inside)) :
    kind.visit context span progress =
      ((application.resolve context).result.mapError fun error => ⟨.resolve error, span⟩,
        { inside with used := inside.used.addAll (application.macro? context).toList }) := by
  rw [visit_eq_resolve h, Work.bind_apply, built, ← application.resolve_records.macros]
  rfl

/-- Every call that a builder visits is logged as it is applied. -/
lemma Kind.logs_of_application {span : Span} {kind : Kind} {operands}
    (h : kind.application? context span = some operands) : kind.Logs context span operands where
  unbuilt failed := by rw [visit_eq_resolve h, Work.bind_apply, failed]
  refused {_ application _ error} built failed other := by
    have absent := (application.resolve_records.error failed).not.1 other
    rw [visit_of_operands h built, failed, Option.not_isSome_iff_eq_none.1 absent]
    rfl
  failed {_ application _ message} built failed := by
    have present := (application.resolve_records.error failed).1 rfl
    obtain ⟨name, found⟩ := Option.isSome_iff_exists.1 present
    refine ⟨name, found, ?_⟩
    rw [visit_of_operands h built, failed, found]
    rfl

/-- Macros are called by the upper case of a name. -/
lemma Kind.macro?_upper {kind : Kind} {name} (h : kind.macro? context = some name) :
    ∃ written, name = Case.upper written := by
  have left {written} (h : context.macroName? written = some name) : name = Case.upper written := by
    unfold Context.macroName? at h
    split at h
    · exact (Option.some.inj h).symm
    · cases h
  unfold macro? at h
  split at h
  · exact ⟨_, left h⟩
  · exact ⟨_, left h⟩
  · exact ⟨_, (Option.some.inj h).symm⟩
  · cases h

end Syntax

/-- The used macros are a log that an answer does not depend on. They are those from before with the
new ones among those of the same answer in a session that has just been started. All of these are
registered, and each call that the builder visits adds them as `Syntax.Kind.Logs` says. -/
theorem Session.answer_logs (session : Session) (request : Request) :
    let context := session.context
    let answer := session.answer request
    let alone := (Session.start context session.source).answer request
    let served := request.serve context ⟨0, session.used⟩
    answer = (served.1.mapError (Fault.report session.source),
        { session with used := served.2.used }) ∧
      answer.1 = alone.1 ∧
      answer.2.used.names =
        session.used.names ++ alone.2.used.names.filter (· ∉ session.used.names) ∧
      answer.2.used.names.Nodup ∧
      (∀ name ∈ alone.2.used.names,
        context.registries.macros.contains name ∧ ∃ written, name = Case.upper written) ∧
      ∀ span kind operands, Syntax.Kind.application? context span kind = some operands →
        kind.Logs context span operands := by
  intro context answer alone served
  have logged : answer = session.report (request.build context 0) :=
    session.answer_eq_report request
  have fresh : alone = (Session.start context session.source).report (request.build context 0) :=
    answer_eq_report _ request
  refine ⟨Request.answer_eq_serve session request, ?_, ?_, answer.2.used.nodup, ?_, ?_⟩
  · rw [logged, fresh]
    rfl
  · rw [logged, fresh]
    exact session.used.names_addAll _
  · intro name added
    have expanded : name ∈ (request.build context 0).macros := by
      rw [fresh] at added
      exact UsedMacros.mem_names_addAll_empty.1 added
    obtain ⟨caller, -, calls, known⟩ := request.build_macros context 0 name expanded
    exact ⟨known, Syntax.Kind.macro?_upper calls⟩
  · exact fun _ _ _ => Syntax.Kind.logs_of_application

open Syntax in
/-- A macro that fails, after two others were expanded in its arguments, one of them for the second
time. -/
theorem Session.answer_logs_failed_macro :
    let macros := ((MacroRegistry.empty.register "first" StockMacro.first.expand).register "twice"
      StockMacro.concat.expand).register "broken" (StockMacro.fail "no").expand
    let context : Context := ⟨{ Registries.empty with macros := macros }, .standard, Temporal.iso⟩
    let session : Session := ⟨context, "", UsedMacros.empty.add "FIRST"⟩
    let argument := Node.identifier "x"
    let tree := Node.call "broken" [.call "twice" [argument], .call "first" [argument]]
    let visited := tree.kind.visit context tree.span ⟨1, session.used⟩
    (session.answer (.expression tree)).2.used.names = ["FIRST", "TWICE", "BROKEN"] ∧
      visited.1 = .error ⟨.resolve (.expansion "no"), tree.span⟩ ∧
      visited.2.used.names = ["FIRST", "TWICE", "BROKEN"] := by
  intro macros context session argument tree visited
  let inside : Progress := ⟨1, session.used.add "TWICE"⟩
  let application : Application :=
    .call (.plain "broken" [.call Expression.concatName [.property "x"], .property "x"])
  have built {operands} (h : tree.kind.application? context tree.span = some operands) :
      operands ⟨1, session.used⟩ = (.ok application, inside) := by
    cases h
    simp only [session, context, macros, argument, application, inside]
    rfl
  have resolved : (application.resolve context).result = .error (.expansion "no") := by
    simp only [application, context, macros]
    rfl
  have known : application.macro? context = some "BROKEN" := by
    simp only [application, context, macros]
    rfl
  obtain ⟨-, -, log, -, -, logs⟩ := session.answer_logs (.expression tree)
  obtain ⟨name, found, whole⟩ := (logs tree.span tree.kind _ rfl).failed (built rfl) resolved
  have whole : visited = _ := whole
  cases known.symm.trans found
  rw [log, whole]
  refine ⟨?_, rfl, ?_⟩
  · simp only [session, context, macros, tree, argument]
    rfl
  · simp only [inside, session]
    rfl

end QueryExpr
