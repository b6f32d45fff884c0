import QueryExpr.Literal.Temporal
import QueryExpr.Registry.Entity
import QueryExpr.Registry.Enum
import QueryExpr.Registry.Function
import QueryExpr.Registry.Macros

/-!
# Contexts

What a build reads besides the parse tree: the registries of names, the options, and the reader of
date and time literals.
-/

namespace QueryExpr

/-- The switches and limits of a build. -/
structure Options where
  /-- The least number of segments of a name that is tried as an enum constant in a path. -/
  minEnumSegments : Nat
  /-- The least number of segments of a name that is tried as an entity under an index. A single
  segment is always tried. -/
  minEntitySegments : Nat
  allowOuter : Bool
  allowQuantifiers : Bool
  /-- Whether a path may be a downcast that is not dereferenced. -/
  allowBareTreat : Bool
  /-- How deep nodes may nest. -/
  maxDepth : Nat
  deriving DecidableEq

/-- The options unless others are given. -/
def Options.standard : Options where
  minEnumSegments := 2
  minEntitySegments := 2
  allowOuter := false
  allowQuantifiers := true
  allowBareTreat := true
  maxDepth := 512

/-- The names that a query can use. -/
structure Registries where
  functions : FunctionRegistry
  enums : EnumRegistry
  entities : EntityRegistry
  macros : MacroRegistry

namespace Registries

/-- No names. -/
def empty : Registries :=
  ⟨.empty, .empty, .empty, .empty⟩

/-- The names of the standard functions. -/
def standard : Registries :=
  { empty with functions := .standard }

end Registries

/-- What a build reads besides the parse tree. -/
structure Context where
  registries : Registries
  options : Options
  temporal : TemporalReader

end QueryExpr
