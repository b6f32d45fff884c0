/-!
# Keywords

The small enumerations of the query language that parse trees and expressions share: operators,
quantifiers, sides, frame modes and number kinds. Every enumeration is `Tagged`: each of its values
has one written name, and `Tagged.ofTag?` reads that name back.
-/

namespace QueryExpr

/-- An enumeration whose values each have a written name. -/
class Tagged (α : Type) where
  /-- Every value, in declaration order. -/
  values : List α
  /-- The written name of a value. -/
  tag : α → String

namespace Tagged

/-- The value with the given written name; names are case sensitive. -/
def ofTag? {α : Type} [Tagged α] (name : String) : Option α :=
  (values (α := α)).find? fun value => tag value == name

end Tagged

/-- Kind of a numeric literal, given by its suffix. -/
inductive NumericKind where
  | integer
  | long
  | bigInteger
  | float
  | double
  | bigDecimal
  deriving DecidableEq

namespace NumericKind

/-- Whole-number kinds. -/
def isIntegral : NumericKind → Bool
  | integer | long | bigInteger => true
  | float | double | bigDecimal => false

/-- The tags of the kinds of numbers. -/
instance : Tagged NumericKind where
  values := [integer, long, bigInteger, float, double, bigDecimal]
  tag
    | integer => "Integer"
    | long => "Long"
    | bigInteger => "BigInteger"
    | float => "Float"
    | double => "Double"
    | bigDecimal => "BigDecimal"

end NumericKind

/-- Kind of a date or time literal. -/
inductive TemporalKind where
  | date
  | time
  | timestamp
  deriving DecidableEq

/-- The tags of the kinds of dates and times. -/
instance : Tagged TemporalKind where
  values := [.date, .time, .timestamp]
  tag
    | .date => "Date"
    | .time => "Time"
    | .timestamp => "Timestamp"

/-- Binary arithmetic on built expressions. -/
inductive ArithmeticOp where
  | addition
  | subtraction
  | multiplication
  | division
  deriving DecidableEq

namespace ArithmeticOp

/-- The sign written between the operands. -/
def symbol : ArithmeticOp → String
  | addition => "+"
  | subtraction => "-"
  | multiplication => "*"
  | division => "/"

/-- The tags of the arithmetic operators. -/
instance : Tagged ArithmeticOp where
  values := [addition, subtraction, multiplication, division]
  tag
    | addition => "Addition"
    | subtraction => "Subtraction"
    | multiplication => "Multiplication"
    | division => "Division"

end ArithmeticOp

/-- Comparisons of built predicates; inequality is a negated `eq`. -/
inductive ComparisonOp where
  | eq
  | lt
  | le
  | gt
  | ge
  deriving DecidableEq

namespace ComparisonOp

/-- The sign written between the operands. -/
def symbol : ComparisonOp → String
  | eq => "="
  | lt => "<"
  | le => "<="
  | gt => ">"
  | ge => ">="

/-- The tags of the comparison operators, among which there is none for an inequality. -/
instance : Tagged ComparisonOp where
  values := [eq, lt, le, gt, ge]
  tag
    | eq => "Eq"
    | lt => "Lt"
    | le => "Le"
    | gt => "Gt"
    | ge => "Ge"

end ComparisonOp

/-- Comparison signs as written in a query. -/
inductive ComparisonSign where
  | eq
  | ne
  | lt
  | le
  | gt
  | ge
  deriving DecidableEq

/-- The tags of the comparison signs. -/
instance : Tagged ComparisonSign where
  values := [.eq, .ne, .lt, .le, .gt, .ge]
  tag
    | .eq => "Eq"
    | .ne => "Ne"
    | .lt => "Lt"
    | .le => "Le"
    | .gt => "Gt"
    | .ge => "Ge"

/-- Quantifier of a built comparison; `one` is a plain comparison. -/
inductive Quantifier where
  | one
  | any
  | all
  deriving DecidableEq

/-- The tags of the quantifiers of a comparison. -/
instance : Tagged Quantifier where
  values := [.one, .any, .all]
  tag
    | .one => "One"
    | .any => "Any"
    | .all => "All"

/-- Quantifier words as written in a query; `SOME` is another word for `ANY`. -/
inductive QuantifierWord where
  | any
  | some
  | all
  deriving DecidableEq

/-- The tags of the quantifiers as they are written. -/
instance : Tagged QuantifierWord where
  values := [.any, .some, .all]
  tag
    | .any => "Any"
    | .some => "Some"
    | .all => "All"

/-- Connectives of compound predicates. -/
inductive BooleanOp where
  | and
  | or
  deriving DecidableEq

/-- The tags of the connectives. -/
instance : Tagged BooleanOp where
  values := [.and, .or]
  tag
    | .and => "And"
    | .or => "Or"

/-- The ends of a text that `TRIM` works on. -/
inductive TrimSide where
  | leading
  | trailing
  | both
  deriving DecidableEq

/-- The tags of the sides that are trimmed. -/
instance : Tagged TrimSide where
  values := [.leading, .trailing, .both]
  tag
    | .leading => "Leading"
    | .trailing => "Trailing"
    | .both => "Both"

/-- What the bounds of a window frame count. -/
inductive FrameMode where
  | rows
  | range
  | groups
  deriving DecidableEq

/-- The tags of the modes of a frame. -/
instance : Tagged FrameMode where
  values := [.rows, .range, .groups]
  tag
    | .rows => "Rows"
    | .range => "Range"
    | .groups => "Groups"

/-- Rows that a window frame leaves out. -/
inductive FrameExclusion where
  | currentRow
  | group
  | ties
  | noOthers
  deriving DecidableEq

/-- The tags of the exclusions from a frame. -/
instance : Tagged FrameExclusion where
  values := [.currentRow, .group, .ties, .noOthers]
  tag
    | .currentRow => "CurrentRow"
    | .group => "Group"
    | .ties => "Ties"
    | .noOthers => "NoOthers"

/-- Where an ordering puts nulls. -/
inductive NullsOrder where
  | first
  | last
  deriving DecidableEq

/-- The tags of the places of nulls in an ordering. -/
instance : Tagged NullsOrder where
  values := [.first, .last]
  tag
    | .first => "First"
    | .last => "Last"

/-- How a call or a path reaches into a collection. -/
inductive CollectionAccess where
  | mapKey
  | mapValue
  | mapEntry
  | listIndex
  deriving DecidableEq

/-- The tags of the ways into a collection. -/
instance : Tagged CollectionAccess where
  values := [.mapKey, .mapValue, .mapEntry, .listIndex]
  tag
    | .mapKey => "MapKey"
    | .mapValue => "MapValue"
    | .mapEntry => "MapEntry"
    | .listIndex => "ListIndex"

/-- Kind of a registered function; it decides which clauses a call may carry. -/
inductive FunctionKind where
  | scalar
  | deterministic
  | aggregate
  | orderedSetAggregate
  | window
  deriving DecidableEq

/-- The tags of the kinds of functions. -/
instance : Tagged FunctionKind where
  values := [.scalar, .deterministic, .aggregate, .orderedSetAggregate, .window]
  tag
    | .scalar => "SCALAR"
    | .deterministic => "DETERMINISTIC"
    | .aggregate => "AGGREGATE"
    | .orderedSetAggregate => "ORDERED_SET_AGGREGATE"
    | .window => "WINDOW"

/-- Optional clauses of a function call, in the order in which they are checked. -/
inductive Clause where
  | distinct
  | withinGroup
  | filter
  | window
  deriving DecidableEq

/-- The tags of the clauses of a call, as they are written. -/
instance : Tagged Clause where
  values := [.distinct, .withinGroup, .filter, .window]
  tag
    | .distinct => "DISTINCT"
    | .withinGroup => "WITHIN GROUP"
    | .filter => "FILTER"
    | .window => "OVER"

end QueryExpr
