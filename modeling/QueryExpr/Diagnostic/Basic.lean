import QueryExpr.Diagnostic.Code
import QueryExpr.Json.Basic
import QueryExpr.Source.Span
import QueryExpr.Terminal.Style

/-!
# Diagnostics

What is told about an error: its code, a message, the query text it is about, where that stands, and
advice.
-/

namespace QueryExpr

open Terminal (paint)

/-- What is told about an error. -/
structure Diagnostic where
  code : ErrorCode
  message : String
  /-- The query text in question, which may be empty. -/
  expression : String
  location : Option Location
  help : Option String

namespace Location

/-- The JSON form of a location. -/
def toJson (location : Location) : Json :=
  .object [("line", .natural location.line), ("column", .natural location.column),
    ("offset", .natural location.offset), ("length", .natural location.length)]

end Location

namespace Diagnostic

/-- The JSON form of a diagnostic. -/
def toJson (diagnostic : Diagnostic) : Json :=
  .object [("severity", .string "Error"), ("code", .natural diagnostic.code.number),
    ("message", .string diagnostic.message), ("expression", .string diagnostic.expression),
    ("location", (diagnostic.location.map Location.toJson).getD .null),
    ("help", .stringOrNull diagnostic.help)]

/-- A diagnostic on one line. -/
def display (diagnostic : Diagnostic) : String :=
  "error: " ++ diagnostic.code.display ++ " - " ++ diagnostic.message
    ++ (match diagnostic.location with
      | some location => " at " ++ location.display
      | none => "")

/-- A diagnostic for a terminal: its head, and a line each for the place, the text and the advice
that it has. -/
def render (color : Bool) (diagnostic : Diagnostic) : String :=
  paint color .boldRed "error" ++ "[" ++ diagnostic.code.display ++ "]: "
    ++ paint color .bold diagnostic.message
    ++ (match diagnostic.location with
      | some location => "\n  " ++ paint color .blue "-->" ++ " " ++ location.display
      | none => "")
    ++ (if diagnostic.expression = "" then ""
      else "\n   " ++ paint color .blue "|" ++ " " ++ diagnostic.expression)
    ++ (match diagnostic.help with
      | some help => "\n   " ++ paint color .green "help:" ++ " " ++ help
      | none => "")

end Diagnostic

/-- A note for a terminal. -/
def renderNote (color : Bool) (note : String) : String :=
  paint color .boldCyan "Note:" ++ " " ++ note

end QueryExpr
