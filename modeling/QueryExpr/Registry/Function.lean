import QueryExpr.Keyword
import QueryExpr.Registry.Table
import QueryExpr.Text.Case

/-!
# Functions

The functions that the language itself defines, and the kinds of those that are registered. Both are
looked up by the lower case of their name.
-/

namespace QueryExpr

/-- How a function of the language is resolved. -/
inductive Builtin where
  /-- The current date or time; arguments are ignored. -/
  | moment
  /-- The outer join of a path, which an option has to allow. -/
  | outer
  /-- A plain call of a scalar function. -/
  | scalar
  | trim
  | size
  /-- Access to a collection. -/
  | access (access : CollectionAccess)
  | typeOf
  /-- A call of a function of the database by its name. -/
  | passthrough
  deriving DecidableEq

namespace Builtin

/-- The names of the functions of the language, in the order in which they are listed. -/
def names : List String :=
  ["current_date", "current_time", "current_timestamp", "outer", "concat", "substring", "lower",
   "upper", "length", "locate", "abs", "sqrt", "mod", "coalesce", "nullif", "trim", "size", "index",
   "key", "value", "entry", "type", "function"]

/-- The function of the language with a name in lower case. -/
def ofName? : String → Option Builtin
  | "current_date" | "current_time" | "current_timestamp" => some moment
  | "outer" => some outer
  | "concat" | "substring" | "lower" | "upper" | "length" | "locate" | "abs" | "sqrt" | "mod"
  | "coalesce" | "nullif" => some scalar
  | "trim" => some trim
  | "size" => some size
  | "index" => some (access .listIndex)
  | "key" => some (access .mapKey)
  | "value" => some (access .mapValue)
  | "entry" => some (access .mapEntry)
  | "type" => some typeOf
  | "function" => some passthrough
  | _ => none

end Builtin

/-- Kinds of registered functions by the lower case of their name, in the order of registration. -/
structure FunctionRegistry where
  kinds : Table FunctionKind

namespace FunctionRegistry

/-- No functions. -/
def empty : FunctionRegistry :=
  ⟨.empty⟩

/-- Register a function, or replace the kind of one that is registered. -/
def register (registry : FunctionRegistry) (name : String) (kind : FunctionKind) :
    FunctionRegistry :=
  ⟨registry.kinds.insert (Case.lower name) kind⟩

/-- The kind registered under a name in lower case. -/
def kind? (registry : FunctionRegistry) (name : String) : Option FunctionKind :=
  registry.kinds.get? name

/-- The registered functions in order. -/
def toList (registry : FunctionRegistry) : List (String × FunctionKind) :=
  registry.kinds.entries

/-- The number of registered functions. -/
def size (registry : FunctionRegistry) : Nat :=
  registry.toList.length

/-- Register several functions of one kind. -/
def registerAll (registry : FunctionRegistry) (kind : FunctionKind) (names : List String) :
    FunctionRegistry :=
  names.foldl (fun registry name => registry.register name kind) registry

/-- The aggregates of the standard registry. -/
def standardAggregates : List String :=
  ["count", "sum", "avg", "min", "max", "every", "bool_and", "bool_or"]

/-- The ordered-set aggregates of the standard registry. -/
def standardOrderedSetAggregates : List String :=
  ["percentile_cont", "percentile_disc", "mode", "listagg", "string_agg"]

/-- The window functions of the standard registry. -/
def standardWindows : List String :=
  ["row_number", "rank", "dense_rank", "percent_rank", "cume_dist", "ntile", "lag", "lead",
   "first_value", "last_value", "nth_value"]

/-- The registry with the usual aggregates and window functions. -/
def standard : FunctionRegistry :=
  ((empty.registerAll .aggregate standardAggregates).registerAll .orderedSetAggregate
    standardOrderedSetAggregates).registerAll .window standardWindows

end FunctionRegistry

end QueryExpr
