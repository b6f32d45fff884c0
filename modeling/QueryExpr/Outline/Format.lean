import QueryExpr.Json.Printer
import QueryExpr.Keyword
import QueryExpr.Outline.Printer

/-!
# Output formats

The forms in which a value can be printed: its dump, and its JSON form in one line or indented.
-/

namespace QueryExpr

/-- A form in which a value is printed. -/
inductive Format where
  | dump
  | compact
  | indented
  deriving DecidableEq

/-- The tags of the forms, as they are given on the command line. -/
instance : Tagged Format where
  values := [.dump, .compact, .indented]
  tag
    | .dump => "debug"
    | .compact => "json"
    | .indented => "pretty"

/-- A value printed in a form. -/
def Format.render (format : Format) (outline : Outline) : String :=
  match format with
  | dump => outline.dump
  | compact => outline.toJson.print
  | indented => outline.toJson.printIndented

end QueryExpr
