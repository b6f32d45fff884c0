import QueryExpr.Expression.Basic
import QueryExpr.Outline.Printer
import QueryExpr.Registry.Table
import QueryExpr.Text.Case

/-!
# Macros

A macro makes an expression of the arguments of a call, or fails with a message. Macros are
registered under the upper case of their name. The stock macros are those a configuration can name.
-/

namespace QueryExpr

/-- What a macro makes of its arguments. -/
abbrev Expansion := List Expression → Except String Expression

/-- Macros by the upper case of their name. -/
structure MacroRegistry where
  expansions : Table Expansion

namespace MacroRegistry

/-- No macros. -/
def empty : MacroRegistry :=
  ⟨.empty⟩

/-- Register a macro. -/
def register (registry : MacroRegistry) (name : String) (expansion : Expansion) : MacroRegistry :=
  ⟨registry.expansions.insert (Case.upper name) expansion⟩

/-- The macro registered under a name in upper case. -/
def get? (registry : MacroRegistry) (name : String) : Option Expansion :=
  registry.expansions.get? name

/-- Whether a macro is registered under a name in upper case. -/
def contains (registry : MacroRegistry) (name : String) : Bool :=
  registry.expansions.contains name

/-- The names of the macros in the order of their code points. -/
def sortedNames (registry : MacroRegistry) : List String :=
  registry.expansions.names.mergeSort fun a b => decide (a ≤ b)

/-- The registry as it is shown: its names in quotes. -/
def describe (registry : MacroRegistry) : String :=
  let quoted := registry.sortedNames.map Outline.quote
  "MacroRegistry \x7b macros: ["
    ++ String.ofList (List.intercalate [',', ' '] quoted) ++ "] \x7d"

end MacroRegistry

/-- Macros that a configuration can name. -/
inductive StockMacro where
  /-- The root of a view, or a path with `root` appended. -/
  | viewRoot
  /-- A named parameter. -/
  | parameter (name : String)
  /-- A failure. -/
  | fail (message : String)
  /-- The first argument. -/
  | first
  /-- The concatenation of the arguments. -/
  | concat
  /-- The type of a property. -/
  | typeOf (property : String)
  /-- A path of properties. -/
  | path (name : String)
  /-- A string literal. -/
  | string (text : String)
  /-- The literal for truth. -/
  | truth
  /-- The negated existence of a property. -/
  | notExists (property : String)

namespace StockMacro

/-- What a stock macro makes of its arguments. -/
def expand : StockMacro → Expansion
  | viewRoot, [] => .ok (.property "root")
  | viewRoot, [.path steps] => .ok (.path (steps.append [.property "root"]))
  | viewRoot, _ => .error "VIEW_ROOT expects at most one path"
  | parameter name, _ => .ok (.parameter (.named name))
  | fail message, _ => .error message
  | first, [] => .error "FIRST expects an argument"
  | first, argument :: _ => .ok argument
  | concat, arguments => .ok (.call Expression.concatName arguments)
  | typeOf property, _ => .ok (.typeOf (.property property))
  | path name, _ => .ok (.dotted name)
  | string text, _ => .ok (.string text)
  | truth, _ => .ok (.literal (.boolean true))
  | notExists property, _ => .ok (.predicate ⟨.existence (.property property), true⟩)

end StockMacro

end QueryExpr
