import QueryExpr.Registry.Function
import QueryExpr.Terminal.Style

/-!
# Listing functions

The functions of the language and the registered functions with their kinds, as lines for a
terminal.
-/

namespace QueryExpr.FunctionRegistry

open Terminal (paint)

/-- A name with blanks up to the column of kinds; longer names are kept whole. -/
def column (name : String) : String :=
  name ++ String.ofList (List.replicate (24 - name.length) ' ')

/-- A line of the listing. -/
def line (text : String) : String :=
  text ++ "\n"

/-- The functions of the language, then the registered functions in the order of registration. -/
def listing (color : Bool) (registry : FunctionRegistry) : String :=
  let builtins := Builtin.names.map fun name => line ("  " ++ name)
  let registered := registry.toList.map fun (name, kind) =>
    line ("  " ++ column name ++ " " ++ paint color .cyan (Tagged.tag kind))
  line (paint color .bold "Built-in functions:") ++ String.join builtins
    ++ line (paint color .bold "Registered functions:") ++ String.join registered

end QueryExpr.FunctionRegistry
