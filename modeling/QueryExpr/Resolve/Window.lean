import QueryExpr.Expression.Basic
import QueryExpr.Resolve.Error

/-!
# Windows and orderings

The window of a call from its `OVER` clause and filter, and the checks of frames and orderings.
-/

namespace QueryExpr

/-- An `OVER` clause whose expressions are built. -/
inductive WindowClause where
  | named (name : String)
  | inline (name : Option String) (partitionBy : List Expression) (orderBy : List OrderItem)
      (frame : Option (Frame Expression))

namespace Window

/-- The window of a call. Without an `OVER` clause there is one, without a name, if there is a
filter or the function is a window function. -/
def ofClause (clause : Option WindowClause) (filter : Option Predicate) (kind : FunctionKind) :
    Option Window :=
  match clause with
  | some (.inline name partitionBy orderBy frame) =>
    some ⟨name, partitionBy, orderBy, filter, frame⟩
  | some (.named name) => some (minimal (some name) filter)
  | none => if filter.isSome ∨ kind = .window then some (minimal none filter) else none

end Window

namespace Frame

variable {α : Type}

/-- A frame, unless it starts at the last or ends at the first row of all. -/
def check (frame : Frame α) : Except ResolveError (Frame α) :=
  if frame.start.isUnboundedFollowing then .error (.frameBound .startUnboundedFollowing)
  else if frame.stop.any Bound.isUnboundedPreceding then
    .error (.frameBound .endUnboundedPreceding)
  else .ok frame

end Frame

namespace OrderItem

/-- An item of an ordering. It ascends and puts nulls last unless written otherwise, and must not
name a collation. -/
def ofWritten (expression : Expression) (descending : Bool) (nulls : Option NullsOrder)
    (collation : Option String) : Except ResolveError OrderItem :=
  if collation.isSome then .error .collation
  else .ok ⟨expression, !descending, nulls == some .first⟩

end OrderItem

end QueryExpr
