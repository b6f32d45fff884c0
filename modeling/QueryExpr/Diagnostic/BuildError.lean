import QueryExpr.Diagnostic.Basic

/-!
# Build errors

The errors of a build as they are reported. Each class of errors has a range of codes. Every report
has the query text it is about, and its location where there is one.
-/

namespace QueryExpr

/-- The class of a build error with its message. -/
inductive Complaint where
  /-- Something the query must not say. -/
  | query (message : String)
  /-- A macro that failed, with the reason it gave. -/
  | argument (message cause : String)
  /-- A tree that the grammar does not produce. -/
  | internal (message : String)
  /-- Nodes that are nested deeper than allowed. -/
  | nesting (limit : Nat)
  deriving DecidableEq

/-- The report of a build error. -/
structure BuildError where
  code : ErrorCode
  complaint : Complaint
  /-- The query text in question. -/
  expression : String
  location : Option Location

namespace Complaint

/-- The message in the text of an error. -/
def message : Complaint → String
  | query message | argument message _ | internal message => message
  | nesting limit => "expression nesting exceeds the limit of " ++ toString limit

/-- The message in a diagnostic, which adds the reason that a macro gave. -/
def diagnosticMessage : Complaint → String
  | query message | internal message => message
  | argument message cause => message ++ ": " ++ cause
  | nesting limit => "Expression nesting exceeds the limit of " ++ toString limit

end Complaint

namespace BuildError

/-- The code of errors about nesting. -/
def nestingCode : ErrorCode := ⟨201⟩

/-- A report about the text of a span. -/
def ofSpan (code : ErrorCode) (complaint : Complaint) (span : Span) (source : String) :
    BuildError :=
  ⟨code, complaint, span.text source, some (span.location source)⟩

/-- An error on one line. -/
def display (error : BuildError) : String :=
  error.code.display ++ ": " ++ error.complaint.message ++ ": " ++ error.expression

/-- Whether an error is about what the query says. -/
def isQuery (error : BuildError) : Bool :=
  match error.complaint with
  | .query _ => true
  | _ => false

/-- The diagnostic of an error. -/
def diagnostic (error : BuildError) : Diagnostic :=
  ⟨error.code, error.complaint.diagnosticMessage, error.expression, error.location,
    error.code.help?⟩

end BuildError

end QueryExpr
