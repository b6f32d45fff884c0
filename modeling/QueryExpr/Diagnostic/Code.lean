import QueryExpr.Number.Digits

/-!
# Error codes

Codes 1 to 99 are for errors in the query, 100 to 199 for failing macros, 200 to 299 for trees that
break the grammar and for limits.
-/

namespace QueryExpr

/-- The code of an error. -/
structure ErrorCode where
  number : Nat
  deriving DecidableEq

namespace ErrorCode

/-- A code as it is shown, with at least four digits. -/
def display (code : ErrorCode) : String :=
  "JPQL" ++ Digits.text 4 code.number

/-- Codes for errors in the query. -/
def isQuery (code : ErrorCode) : Bool :=
  1 ≤ code.number && code.number < 100

/-- Codes for failing macros. -/
def isArgument (code : ErrorCode) : Bool :=
  100 ≤ code.number && code.number < 200

/-- Codes for broken trees and limits. -/
def isInternal (code : ErrorCode) : Bool :=
  200 ≤ code.number && code.number < 300

/-- A short description of what a code stands for. -/
def description (code : ErrorCode) : String :=
  match code.number with
  | 1 => "Invalid use of DISTINCT"
  | 2 => "Invalid use of WITHIN GROUP"
  | 3 => "Invalid use of FILTER"
  | 4 => "Invalid use of OVER"
  | 5 => "Quantified predicate not allowed"
  | 6 => "Top level treat expression not allowed"
  | 7 => "Collations are not supported"
  | 8 => "Unresolved function or macro"
  | 9 => "Invalid literal"
  | 10 => "Invalid expression shape"
  | 11 => "Disallowed use of OUTER"
  | 12 => "Unknown enum constant"
  | 13 => "Invalid LIKE escape character"
  | 14 => "Invalid date/time literal"
  | 15 => "Invalid string escape sequence"
  | 16 => "Parsing failed"
  | 100 => "Macro application failed"
  | 200 => "Internal invariant violated"
  | 201 => "Expression nesting too deep"
  | _ => "Unknown error"

/-- Advice on an error, for the codes that have some. -/
def help? (code : ErrorCode) : Option String :=
  match code.number with
  | 5 => some "ANY, SOME and ALL are only allowed where subquery quantifiers are supported"
  | 6 => some "Consider to further dereference the expression"
  | 8 => some "Register the function kind or the macro before building"
  | 200 => some "The syntax tree does not match the builder contract"
  | _ => none

end ErrorCode

end QueryExpr
