import QueryExpr.Registry.Table

/-!
# Aliases

Second names of registered types. An alias leads to a type while one type alone claims it. Once a
second type claims it, it leads nowhere and never will again.
-/

namespace QueryExpr

/-- Types by alias, and the aliases that were claimed twice. -/
structure Aliases (α : Type) where
  targets : Table α
  ambiguous : List String

namespace Aliases

variable {α : Type}

/-- No aliases. -/
def empty : Aliases α :=
  ⟨.empty, []⟩

/-- The type that an alias leads to. -/
def get? (aliases : Aliases α) (name : String) : Option α :=
  aliases.targets.get? name

/-- Let a type claim an alias; `same` tells whether two values are the same type. -/
def claim (aliases : Aliases α) (same : α → α → Bool) (name : String) (target : α) : Aliases α :=
  if aliases.ambiguous.contains name then aliases
  else
    match aliases.targets.get? name with
    | some holder =>
      if same holder target then { aliases with targets := aliases.targets.insert name target }
      else ⟨aliases.targets.erase name, name :: aliases.ambiguous⟩
    | none => { aliases with targets := aliases.targets.insert name target }

end Aliases

end QueryExpr
