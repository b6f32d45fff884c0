import QueryExpr.Keyword

/-!
# Window frames

The `ROWS`, `RANGE` or `GROUPS` clause of a window. Parse trees and built expressions share its
shape and differ only in what an offset is.
-/

namespace QueryExpr

/-- Where a window frame starts or ends. -/
inductive Bound (α : Type) where
  | unboundedPreceding
  | preceding (offset : α)
  | currentRow
  | following (offset : α)
  | unboundedFollowing

/-- A window frame. Its end is left out unless it is written with `BETWEEN`. -/
structure Frame (α : Type) where
  mode : FrameMode
  start : Bound α
  stop : Option (Bound α)
  exclusion : Option FrameExclusion

namespace Bound

variable {α : Type}

/-- The written name of a bound, without its offset. -/
def tag : Bound α → String
  | unboundedPreceding => "UnboundedPreceding"
  | preceding _ => "Preceding"
  | currentRow => "CurrentRow"
  | following _ => "Following"
  | unboundedFollowing => "UnboundedFollowing"

/-- Bounds at which no frame can start. -/
def isUnboundedFollowing : Bound α → Bool
  | unboundedFollowing => true
  | _ => false

/-- Bounds at which no frame can end. -/
def isUnboundedPreceding : Bound α → Bool
  | unboundedPreceding => true
  | _ => false

end Bound

end QueryExpr
