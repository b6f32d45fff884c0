import QueryExpr.Proofs.Resolve.Builtins
import QueryExpr.Proofs.Resolve.Rules
import QueryExpr.Proofs.Session.Request
import QueryExpr.Proofs.Traced
import QueryExpr.Syntax.Construct

/-!
# Abbreviations

Some alternatives say in fewer words what a more general one says as well: a count is a call of
`COUNT`, a macro where a path may stand is a call of its name, and identifiers between dots are a
path of one link. `Kind.Abbreviates` lists these pairs. Both sides of a pair are built alike, to the
same expression with the same macros and to the same error.
-/

namespace QueryExpr

open Syntax

/-- No segments name no constant. -/
lemma Context.leadingConstant?_nil (context : Context) :
    context.leadingConstant? [] = .ok none := by
  unfold leadingConstant?
  split <;> rfl

/-- A constant is not a downcast. -/
lemma Context.not_isBareTreat_of_constant {context : Context} {segments : List String} {e}
    (found : context.leadingConstant? segments = .ok (some e)) : ¬ e.isBareTreat := by
  obtain ⟨_, rfl⟩ | ⟨_, rfl⟩ := enumConstant?_eq (leadingConstant?_ok found).2
  · exact Bool.false_ne_true
  · exact Bool.false_ne_true

namespace Syntax

variable {registries : Registries} {context : Context}

/-- A path of a single link without an index. -/
def Path.single (segments : List String) : Path :=
  ⟨none, [⟨segments, none⟩]⟩

/-- An alternative with a more general one that says the same. -/
inductive Kind.Abbreviates (registries : Registries) : Kind → Kind → Prop where
  /-- A count without an argument is a call without arguments. -/
  | count {distinct argument filter window} :
    Abbreviates registries (.count distinct argument filter window)
      (.call ⟨"COUNT", distinct, argument.toList, none, filter, window⟩)
  /-- A macro can be called like a function if no function takes its calls. -/
  | expansion {name arguments} : Case.lower name ∉ Builtin.names →
    registries.functions.kind? (Case.lower name) = none →
    Abbreviates registries (.applied (.expansion name) arguments)
      (.call ⟨name, false, arguments, none, none, none⟩)
  | subpath {segments} :
    Abbreviates registries (.atom (.subpath segments)) (.path .plain (.single segments))

/-- An optional node is built as a list of at most one. -/
lemma buildAll_toList (depth : Nat) (node : Option Node) :
    buildAll context depth node.toList =
      buildOption context depth node >>= fun built => pure built.toList := by
  cases node with
  | none => rfl
  | some node =>
    simp only [Option.toList_some, buildAll, buildOption, Traced.bind_assoc, Traced.pure_bind]

/-- A count is built like a call of the aggregate function of that name. -/
lemma Kind.build_count (depth : Nat) (span : Span) (distinct : Bool) (argument filter window) :
    Kind.build context depth span (.count distinct argument filter window) =
      Kind.build context depth span
        (.call ⟨"COUNT", distinct, argument.toList, none, filter, window⟩) := by
  simp only [Kind.build, Call.build, buildGroup, buildAll_toList, Traced.bind_assoc,
    Traced.pure_bind]

/-- An expansion is built like a plain call where no function has the name. -/
lemma Kind.build_expansion {name : String} (unlisted : Case.lower name ∉ Builtin.names)
    (unregistered : context.registries.functions.kind? (Case.lower name) = none) (depth : Nat)
    (span : Span) (arguments : List Node) :
    Kind.build context depth span (.applied (.expansion name) arguments) =
      Kind.build context depth span (.call ⟨name, false, arguments, none, none, none⟩) := by
  simp only [Kind.build, Call.build, buildGroup, buildFilter, buildOver, Traced.pure_bind]
  refine congrArg _ (funext fun built => ?_)
  exact congrArg (place span)
    (Invocation.resolve_plain_unregistered unlisted unregistered built).symm

/-- Only a downcast is refused as a path. -/
lemma PathRole.build_plain_of_not_isBareTreat {options : Options} {span : Span} {built : Expression}
    (dereferenced : ¬ built.isBareTreat) : PathRole.plain.build options span built = .ok built := by
  rw [PathRole.build, if_neg fun refused => dereferenced refused.1]

/-- A subpath is built like the path that it is the only link of. -/
lemma Kind.build_subpath (depth : Nat) (span : Span) (segments : List String) :
    Kind.build context depth span (.atom (.subpath segments)) =
      Kind.build context depth span (.path .plain (.single segments)) := by
  cases segments with
  | nil =>
    have missing : Atom.build context (.subpath []) = .error .emptyLink := by
      rw [Atom.build, Context.leadingConstant?_nil]
      rfl
    rw [Kind.build, missing]
    rfl
  | cons first rest =>
    have given : checkLink span (first :: rest) = .ok () := rfl
    simp only [Kind.build, Path.single, Path.build, Syntax.leadingConstant?, Option.isSome_none,
      Atom.build, given]
    cases found : context.leadingConstant? (first :: rest) with
    | error error => rfl
    | ok constant =>
      cases constant with
      | some constant =>
        -- the role of the path has no say, since a constant is no downcast
        have plain : PathRole.plain.build context.options span constant = .ok constant :=
          PathRole.build_plain_of_not_isBareTreat (Context.not_isBareTreat_of_constant found)
        show _ = liftM (PathRole.plain.build context.options span constant)
        rw [plain]
        rfl
      | none =>
        -- without an index, no entity can lead the path
        have same : leadingElements context (first :: rest) none ++ [] =
            (first :: rest).map .property := List.append_nil _
        show Traced.ofExcept _ = (liftM (ofElements span
          (leadingElements context (first :: rest) none ++ [])) : Traced Fault Expression) >>= _
        rw [same]
        rfl

/-- Both sides of a pair are built alike, however deep they are nested. -/
lemma Node.build_of_abbreviates {kind kind' : Kind}
    (abbreviates : kind.Abbreviates context.registries kind') (depth : Nat) (span : Span) :
    Node.build context depth ⟨kind, span⟩ = Node.build context depth ⟨kind', span⟩ := by
  rw [Node.build, Node.build]
  split
  · rfl
  · cases abbreviates with
    | count => exact Kind.build_count ..
    | expansion unlisted unregistered => exact Kind.build_expansion unlisted unregistered ..
    | subpath => exact Kind.build_subpath ..

/-- What is asked of an expression that has to be a predicate does not depend on the alternative
that it was built from, but the alternative is named if it is none. -/
lemma asPredicate_cases (kind kind' : Kind) (span : Span) (built : Expression) :
    asPredicate ⟨kind, span⟩ built = asPredicate ⟨kind', span⟩ built ∨
      asPredicate ⟨kind, span⟩ built = .error ⟨.notPredicate kind.name, span⟩ ∧
        asPredicate ⟨kind', span⟩ built = .error ⟨.notPredicate kind'.name, span⟩ := by
  cases built with
  | predicate => exact .inl rfl
  | literal literal =>
    cases literal with
    | boolean => exact .inl rfl
    | _ => exact .inr ⟨rfl, rfl⟩
  | _ => exact .inr ⟨rfl, rfl⟩

end Syntax

/-- An alternative and the more general one that it abbreviates are built alike at every depth, and
a session answers both with the same expression or error and has used the same macros after it. If
a predicate is asked for, the answers are the same as well, but for the name of the alternative in
the error that says that it is none. -/
theorem Session.build_abbreviated {session : Session} {kind kind' : Kind}
    (abbreviates : kind.Abbreviates session.context.registries kind') (span : Span) :
    (∀ depth, Node.build session.context depth ⟨kind, span⟩ =
      Node.build session.context depth ⟨kind', span⟩) ∧
    session.build ⟨kind, span⟩ = session.build ⟨kind', span⟩ ∧
    (session.buildPredicate ⟨kind, span⟩).2 = (session.buildPredicate ⟨kind', span⟩).2 ∧
    ((session.buildPredicate ⟨kind, span⟩).1 = (session.buildPredicate ⟨kind', span⟩).1 ∨
      (session.buildPredicate ⟨kind, span⟩).1 =
          .error (Fault.report session.source ⟨.notPredicate kind.name, span⟩) ∧
        (session.buildPredicate ⟨kind', span⟩).1 =
          .error (Fault.report session.source ⟨.notPredicate kind'.name, span⟩)) := by
  have alike (depth : Nat) := Node.build_of_abbreviates abbreviates depth span
  refine ⟨alike, ?_, ?_⟩
  · rw [build, build, alike]
  · simp only [buildPredicate, Node.buildPredicate, alike]
    obtain ⟨result, names⟩ := Node.build session.context 0 ⟨kind', span⟩
    cases result with
    | error fault => exact ⟨rfl, .inl rfl⟩
    | ok built =>
      refine ⟨rfl, (asPredicate_cases kind kind' span built).imp ?same ?named⟩
      case same => exact congrArg (Except.mapError (Fault.report session.source))
      case named =>
        rintro ⟨first, second⟩
        exact ⟨congrArg (Except.mapError (Fault.report session.source)) first,
          congrArg (Except.mapError (Fault.report session.source)) second⟩

/-- A distinct count over a window with a filter, a macro that fails, and no segments at all. -/
theorem Session.build_abbreviated_three :
    let macros := MacroRegistry.register .empty "broken" (StockMacro.fail "no").expand
    let context : Context := ⟨{ Registries.standard with macros }, .standard, Temporal.iso⟩
    let session := Session.start context "broken(a)"
    let count := Kind.count true (some (.identifier "a")) (some (.boolean true)) (some (.named "w"))
    let call : Call :=
      ⟨"COUNT", true, [.identifier "a"], none, some (.boolean true), some (.named "w")⟩
    let invoke : Call := ⟨"broken", false, [.identifier "a"], none, none, none⟩
    let expansion := Kind.applied (.expansion "broken") [.identifier "a"]
    let span : Span := ⟨0, 9⟩
    (session.build ⟨count, span⟩ = session.build ⟨.call call, span⟩) ∧
      (Case.lower "broken" ∉ Builtin.names ∧
        context.registries.functions.kind? (Case.lower "broken") = none ∧
        session.build ⟨expansion, span⟩ = session.build ⟨.call invoke, span⟩ ∧
        (session.build ⟨expansion, span⟩).2.used.names = ["BROKEN"]) ∧
      session.build ⟨.atom (.subpath []), span⟩ =
        session.build ⟨.path .plain (.single []), span⟩ := by
  intro macros context session count call invoke expansion span
  have unlisted : Case.lower "broken" ∉ Builtin.names := by decide
  have unregistered : context.registries.functions.kind? (Case.lower "broken") = none := by decide
  refine ⟨(build_abbreviated .count span).2.1, ⟨unlisted, unregistered, ?_, ?_⟩,
    (build_abbreviated .subpath span).2.1⟩
  · exact (build_abbreviated (.expansion unlisted unregistered) span).2.1
  · decide

end QueryExpr
