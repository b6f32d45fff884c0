import QueryExpr.Diagnostic.Code
import QueryExpr.Keyword

/-!
# Resolution errors

Why a literal, a name or a call cannot be resolved. The place in the query is added later.
-/

namespace QueryExpr

/-- The two bounds that a frame cannot have. -/
inductive MisplacedBound where
  | startUnboundedFollowing
  | endUnboundedPreceding
  deriving DecidableEq

/-- Why something cannot be resolved. -/
inductive ResolveError where
  /-- A clause that a function must not carry. -/
  | illegalClause (clause : Clause)
  | outerNotAllowed
  /-- A call of something that is neither a function nor a macro. -/
  | unresolved (name : String)
  /-- A macro that failed with a message. -/
  | expansion (message : String)
  /-- A name that is neither an enum constant nor an entity. -/
  | invalidLiteral (text : String)
  | unknownEnumConstant (typeName constant : String)
  /-- A call or predicate that needs a path. -/
  | pathRequired (name : String)
  | missingArgument (name : String)
  /-- A passed-through call whose first argument does not name a function. -/
  | invalidFunctionName
  /-- An escape in a string literal. -/
  | invalidEscape (escape : String)
  | invalidTemporal (kind : TemporalKind) (text : String)
  | collation
  | frameBound (bound : MisplacedBound)
  deriving DecidableEq

namespace MisplacedBound

/-- A misplaced bound as it is reported. -/
def description : MisplacedBound → String
  | startUnboundedFollowing => "UNBOUNDED FOLLOWING as frame start"
  | endUnboundedPreceding => "UNBOUNDED PRECEDING as frame end"

end MisplacedBound

/-- The code for a clause that a function must not carry. -/
def Clause.code : Clause → ErrorCode
  | distinct => ⟨1⟩
  | withinGroup => ⟨2⟩
  | filter => ⟨3⟩
  | window => ⟨4⟩

namespace ResolveError

/-- The code of an error. -/
def code : ResolveError → ErrorCode
  | illegalClause clause => clause.code
  | outerNotAllowed => ⟨11⟩
  | unresolved _ => ⟨8⟩
  | expansion _ => ⟨100⟩
  | invalidLiteral _ => ⟨9⟩
  | unknownEnumConstant .. => ⟨12⟩
  | pathRequired _ | missingArgument _ | invalidFunctionName => ⟨10⟩
  | invalidEscape _ => ⟨15⟩
  | invalidTemporal .. => ⟨14⟩
  | collation => ⟨7⟩
  | frameBound _ => ⟨200⟩

/-- The message of an error. -/
def message : ResolveError → String
  | illegalClause clause => "Invalid use of " ++ Tagged.tag clause ++ " for function"
  | outerNotAllowed => "Invalid disallowed use of OUTER"
  | unresolved name => "No function or macro with the name '" ++ name ++ "' could be found"
  | expansion _ => "Could not apply the macro for the expression"
  | invalidLiteral text => "Invalid literal '" ++ text ++ "'"
  | unknownEnumConstant typeName constant =>
    "Enum type '" ++ typeName ++ "' has no constant '" ++ constant ++ "'"
  | pathRequired name => "Function '" ++ name ++ "' requires a path argument"
  | missingArgument name => "Function '" ++ name ++ "' requires an argument"
  | invalidFunctionName => "The first argument of FUNCTION must be a string literal"
  | invalidEscape escape => "Malformed unicode escape '" ++ escape ++ "' in string literal"
  | invalidTemporal kind text => "Invalid " ++ Tagged.tag kind ++ " literal '" ++ text ++ "'"
  | collation => "Collations are not yet supported"
  | frameBound bound => "Unexpected frame bound " ++ bound.description

end ResolveError

end QueryExpr
