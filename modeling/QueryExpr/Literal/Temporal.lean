import QueryExpr.Calendar.Reader
import QueryExpr.Literal.Basic
import QueryExpr.Resolve.Error

/-!
# Date and time literals

The readers of the quoted bodies of date and time literals. The usual one drops the quotes and the
blanks inside them and reads the ISO forms.
-/

namespace QueryExpr

/-- How the quoted body of a date or time literal is read. -/
abbrev TemporalReader := TemporalKind → String → Except ResolveError Literal

namespace Temporal

/-- A text without its first and last character, if it has both. -/
def unquote? : List Char → Option (List Char)
  | _ :: c :: rest => some (c :: rest).dropLast
  | _ => none

/-- The literal of a kind that a text holds. -/
def read? (kind : TemporalKind) (text : List Char) : Option Literal :=
  match kind with
  | .date => (Calendar.readDate? text).map .date
  | .time => (Calendar.readTime? text).map .time
  | .timestamp => (Calendar.readTimestamp? text).map .timestamp

/-- The reader of the ISO forms. -/
def iso : TemporalReader := fun kind body =>
  match (unquote? body.toList).bind fun text => read? kind (Blank.trim text) with
  | some value => .ok value
  | none => .error (.invalidTemporal kind body)

/-- The reader that takes a body, with its quotes, for a string. -/
def raw : TemporalReader := fun _ body =>
  .ok (.string body)

end Temporal

end QueryExpr
