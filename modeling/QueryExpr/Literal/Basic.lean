import QueryExpr.Calendar.Basic
import QueryExpr.Keyword
import QueryExpr.Number.Decimal

/-!
# Literals

Values that stand in a built expression. A number keeps its text with its sign and suffix; its
decimal value is read from the text on demand.
-/

namespace QueryExpr

/-- A numeric literal: its text with sign and suffix, and its kind. -/
structure NumericLiteral where
  text : String
  kind : NumericKind
  deriving DecidableEq

namespace NumericLiteral

/-- The suffixes of two letters. -/
def longSuffixes : List (List Char) :=
  [['B', 'I'], ['b', 'i'], ['B', 'D'], ['b', 'd']]

/-- The text without the letters at its end that give its kind: one suffix of two letters, or else
every letter for a long, float or double number. -/
def withoutSuffix (text : List Char) : List Char :=
  if longSuffixes.any fun suffix => suffix.isSuffixOf text then text.dropLast.dropLast
  else (text.reverse.dropWhile fun c => ['l', 'L', 'f', 'F', 'd', 'D'].contains c).reverse

/-- The decimal value, if the text is a number that fits. -/
def decimal? (literal : NumericLiteral) : Option Decimal :=
  Decimal.read? (withoutSuffix literal.text.toList)

/-- The literal of a written number, to which a minus sign before it is added. -/
def ofWritten (text : String) (kind : NumericKind) (negative : Bool) : NumericLiteral :=
  ⟨if negative then "-" ++ text else text, kind⟩

end NumericLiteral

/-- A constant of a registered enum type, with its position among the constants. -/
structure EnumValue where
  typeName : String
  constant : String
  ordinal : Nat
  deriving DecidableEq

/-- A registered entity with the text it was resolved from. -/
structure EntityLiteral where
  entityName : String
  typeName : String
  writtenText : String
  deriving DecidableEq

/-- A literal value. -/
inductive Literal where
  | null
  | boolean (value : Bool)
  | string (text : String)
  | numeric (number : NumericLiteral)
  | timestamp (value : Timestamp)
  | date (value : Date)
  | time (value : Time)
  /-- An enum constant with the text it was resolved from. -/
  | enum (value : EnumValue) (writtenText : String)
  | entityType (entity : EntityLiteral)
  deriving DecidableEq

end QueryExpr
