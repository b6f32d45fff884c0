import QueryExpr.Literal.Basic
import QueryExpr.Registry.Alias
import QueryExpr.Text.Dotted

/-!
# Enum types

The enum types whose constants a query can name. A type is found by its full name, and by its simple
name unless another type has the same one. Constants of literal types are written inline; constants
of all others become bound parameters.
-/

namespace QueryExpr

/-- An enum type with its constants in order. -/
structure EnumType where
  name : String
  constants : List String
  deriving DecidableEq

namespace EnumType

/-- The name after the last dot. -/
def simpleName (type : EnumType) : String :=
  Dotted.simpleName type.name

/-- The constant of a name, with the first position at which it stands. -/
def value? (type : EnumType) (constant : String) : Option EnumValue :=
  (type.constants.findIdx? (· == constant)).map fun ordinal => ⟨type.name, constant, ordinal⟩

end EnumType

/-- The registered enum types. -/
structure EnumRegistry where
  types : Table EnumType
  simpleNames : Aliases EnumType
  /-- The names of types that were registered as literal. -/
  literalNames : List String

namespace EnumRegistry

/-- No enum types. -/
def empty : EnumRegistry :=
  ⟨.empty, .empty, []⟩

/-- Register a type. A type that has no simple name of its own claims no alias. -/
def register (registry : EnumRegistry) (type : EnumType) : EnumRegistry :=
  { registry with
    types := registry.types.insert type.name type
    simpleNames :=
      if type.simpleName = type.name then registry.simpleNames
      else registry.simpleNames.claim (fun a b => a.name == b.name) type.simpleName type }

/-- Register a type as literal. -/
def registerLiteral (registry : EnumRegistry) (type : EnumType) : EnumRegistry :=
  { registry with literalNames := type.name :: registry.literalNames }.register type

/-- The type with a full name, or else with a simple name. -/
def get? (registry : EnumRegistry) (name : String) : Option EnumType :=
  (registry.types.get? name).or (registry.simpleNames.get? name)

/-- Whether the constants of a type are written inline. -/
def isLiteral (registry : EnumRegistry) (type : EnumType) : Bool :=
  registry.literalNames.contains type.name

end EnumRegistry

end QueryExpr
