import Mathlib.Tactic.Lemma
import QueryExpr.Session

/-!
# Requests

What a session is asked for: the expression of a tree or its predicate. A request brings both ways
to build a tree under one name, so that what holds of both is said and proved once. A predicate is
answered as the expression that stands for it.
-/

namespace QueryExpr

/-- What a session is asked to build from a tree. -/
inductive Request where
  | expression (tree : Syntax.Node)
  | predicate (tree : Syntax.Node)

/-- The tree of a request. -/
def Request.tree : Request → Syntax.Node
  | expression tree | predicate tree => tree

/-- The build of a request whose tree is nested in `depth` nodes. -/
def Request.build (context : Context) (depth : Nat) : Request → Traced Fault Expression
  | expression tree => tree.build context depth
  | predicate tree => do
    return .predicate (← tree.buildPredicate context depth)

namespace Session

variable {α : Type}

/-- The answer to a request, and the session after it. -/
def answer (session : Session) : Request → Except BuildError Expression × Session
  | .expression tree => session.build tree
  | .predicate tree =>
    let (outcome, after) := session.buildPredicate tree
    (outcome.map .predicate, after)

/-- The same session in another context. -/
def inContext (session : Session) (context : Context) : Session :=
  { session with context := context }

/-- An answer reports what a build of the request at depth zero comes to. -/
lemma answer_eq_report (session : Session) (request : Request) :
    session.answer request = session.report (request.build session.context 0) := by
  cases request with
  | expression tree => rfl
  | predicate tree =>
    simp only [answer, buildPredicate, Request.build]
    cases tree.buildPredicate session.context 0 with
    | mk result names =>
      cases result with
      | error fault => rfl
      | ok predicate =>
        show _ = session.report ⟨.ok (Expression.predicate predicate), names ++ []⟩
        rw [List.append_nil]
        rfl

/-- A report is the value that was made, if one was made. -/
lemma report_ok {session : Session} {traced : Traced Fault α} {a} :
    (session.report traced).1 = .ok a ↔ traced.result = .ok a := by
  obtain ⟨result, names⟩ := traced
  cases result with
  | ok b =>
    constructor
    · intro h
      exact congrArg _ (Except.ok.inj h)
    · intro h
      exact congrArg _ (Except.ok.inj h)
  | error fault => exact ⟨nofun, nofun⟩

/-- A report of a fault shows the fault with the text of the session. -/
lemma report_error {session : Session} {traced : Traced Fault α} {error} :
    (session.report traced).1 = .error error ↔
      ∃ fault, traced.result = .error fault ∧ error = fault.report session.source := by
  obtain ⟨result, names⟩ := traced
  cases result with
  | ok a => exact ⟨nofun, nofun⟩
  | error fault =>
    constructor
    · intro h
      exact ⟨fault, rfl, (Except.error.inj h).symm⟩
    · rintro ⟨_, same, rfl⟩
      cases same
      rfl

end Session

end QueryExpr
