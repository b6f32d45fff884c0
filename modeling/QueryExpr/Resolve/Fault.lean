import QueryExpr.Diagnostic.BuildError
import QueryExpr.Resolve.Error

/-!
# Faults

Why a tree cannot be built, and the span at which. A fault becomes a build error when it is shown
against the text of the query.
-/

namespace QueryExpr

/-- Why a tree cannot be built. -/
inductive Cause where
  | resolve (error : ResolveError)
  /-- A quantifier where the options allow none. -/
  | quantifier
  /-- A downcast that is not dereferenced where the options ask for it. -/
  | bareTreat
  /-- An escape of a match that is neither a literal nor a parameter. -/
  | escape
  /-- A qualifier that a path cannot start with. -/
  | qualifier
  /-- Text that the grammar could not match. -/
  | unmatched (text : String)
  /-- An alternative that stands for a predicate and is none. -/
  | notPredicate (name : String)
  /-- An alternative of which there is no type. -/
  | typeOperand (name : String)
  /-- A path without qualifier and links. -/
  | emptyPath
  /-- A link without segments. -/
  | emptyLink
  /-- Nodes that are nested deeper than allowed. -/
  | nesting (limit : Nat)
  deriving DecidableEq

/-- Why a tree cannot be built, and the span at which. -/
structure Fault where
  cause : Cause
  span : Span
  deriving DecidableEq

namespace Cause

/-- The code of the error. -/
def code : Cause → ErrorCode
  | resolve error => error.code
  | quantifier => ⟨5⟩
  | bareTreat => ⟨6⟩
  | escape => ⟨13⟩
  | qualifier => ⟨10⟩
  | unmatched _ => ⟨16⟩
  | notPredicate _ | typeOperand _ | emptyPath | emptyLink => ⟨200⟩
  | nesting _ => BuildError.nestingCode

/-- The class of the error with its message. -/
def complaint : Cause → Complaint
  | resolve error =>
    match error with
    | .expansion cause => .argument error.message cause
    | .frameBound _ => .internal error.message
    | _ => .query error.message
  | quantifier =>
    .query "The use of quantifiers is not allowed in the context of the expression"
  | bareTreat =>
    .query ("A top level treat expression is not allowed. "
      ++ "Consider to further dereference the expression")
  | escape =>
    .query ("Only a character literal or parameter expression is allowed as escape character "
      ++ "in like predicate")
  | qualifier => .query "A qualified path must start with a path element"
  | unmatched _ => .query "Parsing failed"
  | notPredicate name =>
    .internal ("Expected a predicate but " ++ name ++ " produced an expression")
  | typeOperand name => .internal ("TYPE expects a path or parameter, got " ++ name)
  | emptyPath => .internal "Path without qualifier and subpath"
  | emptyLink => .internal "Empty subpath"
  | nesting limit => .nesting limit

end Cause

namespace Fault

/-- A fault as it is shown against the text of the query. Text that the grammar could not match is
shown as the tree holds it. -/
def report (source : String) (fault : Fault) : BuildError :=
  let error := BuildError.ofSpan fault.cause.code fault.cause.complaint fault.span source
  match fault.cause with
  | .unmatched text => { error with expression := text }
  | _ => error

end Fault

end QueryExpr
