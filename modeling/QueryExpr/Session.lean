import QueryExpr.Build
import QueryExpr.UsedMacros

/-!
# Sessions

A session runs builds one after another in one context and against one query text. It keeps the
names of the macros that were expanded, also by builds that failed. Nothing else passes from one
build to the next.
-/

namespace QueryExpr

/-- A context with the query text and the macros used so far. -/
structure Session where
  context : Context
  source : String
  used : UsedMacros

namespace Session

/-- A session before its first build. -/
def start (context : Context) (source : String) : Session :=
  ⟨context, source, .empty⟩

/-- A session that has gone through a traced result. -/
def after {ε α : Type} (session : Session) (traced : Traced ε α) : Session :=
  { session with used := session.used.addAll traced.macros }

/-- The outcome of a build as it is reported, and the session after it. -/
def report {α : Type} (session : Session) (traced : Traced Fault α) :
    Except BuildError α × Session :=
  (traced.result.mapError (Fault.report session.source), session.after traced)

/-- The expression of a parse tree. -/
def build (session : Session) (tree : Syntax.Node) : Except BuildError Expression × Session :=
  session.report (tree.build session.context 0)

/-- The predicate of a parse tree. -/
def buildPredicate (session : Session) (tree : Syntax.Node) :
    Except BuildError Predicate × Session :=
  session.report (tree.buildPredicate session.context 0)

/-- What the macro with a name makes of some arguments. -/
def expand (session : Session) (name : String) (arguments : List Expression) :
    Except ResolveError Expression × Session :=
  let traced := session.context.expand name arguments
  (traced.result, session.after traced)

end Session

end QueryExpr
