import QueryExpr.Registry.Alias

/-!
# Entities

The entities that a query can name. An entity is found by its name, and by the name of its type
unless another entity has the same one.
-/

namespace QueryExpr

/-- An entity with the full name of its type. -/
structure EntityType where
  name : String
  typeName : String
  deriving DecidableEq

/-- The registered entities. -/
structure EntityRegistry where
  entities : Table EntityType
  typeNames : Aliases EntityType

namespace EntityRegistry

/-- No entities. -/
def empty : EntityRegistry :=
  ⟨.empty, .empty⟩

/-- Register an entity. -/
def register (registry : EntityRegistry) (entity : EntityType) : EntityRegistry :=
  { entities := registry.entities.insert entity.name entity
    typeNames :=
      if entity.typeName = entity.name then registry.typeNames
      else registry.typeNames.claim (fun a b => a.name == b.name) entity.typeName entity }

/-- The entity with a name, or else the one with a type of that name. -/
def get? (registry : EntityRegistry) (name : String) : Option EntityType :=
  (registry.entities.get? name).or (registry.typeNames.get? name)

end EntityRegistry

end QueryExpr
