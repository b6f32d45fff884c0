import QueryExpr.Json.Reader
import QueryExpr.Json.Record
import QueryExpr.Resolve.Context

/-!
# Configurations

A configuration holds options and the names to register. Every part of its JSON form can be left
out.
-/

namespace QueryExpr

open Json (Decoder asBoolean asNatural asString asList asTag areReadableMembers)

namespace Options

/-- The options that a JSON value gives; those left out are the standard ones. -/
def ofJson? : Decoder Options := fun json => do
  let [enums, entities, outer, quantifiers, bareTreat, depth] ← json.slots?
    ["min_enum_segment_count", "min_entity_segment_count", "allow_outer",
      "allow_quantified_predicates", "allow_object_expression", "max_depth"] | none
  return {
    minEnumSegments := ← enums.orDefault asNatural standard.minEnumSegments
    minEntitySegments := ← entities.orDefault asNatural standard.minEntitySegments
    allowOuter := ← outer.orDefault asBoolean standard.allowOuter
    allowQuantifiers := ← quantifiers.orDefault asBoolean standard.allowQuantifiers
    allowBareTreat := ← bareTreat.orDefault asBoolean standard.allowBareTreat
    maxDepth := ← depth.orDefault asNatural standard.maxDepth }

/-- The JSON form of some options. -/
def toJson (options : Options) : Json :=
  .object [("min_enum_segment_count", .natural options.minEnumSegments),
    ("min_entity_segment_count", .natural options.minEntitySegments),
    ("allow_outer", .boolean options.allowOuter),
    ("allow_quantified_predicates", .boolean options.allowQuantifiers),
    ("allow_object_expression", .boolean options.allowBareTreat),
    ("max_depth", .natural options.maxDepth)]

end Options

namespace EntityType

/-- The entity that a JSON value gives. -/
def ofJson? : Decoder EntityType := fun json => do
  let [name, typeName] ← json.slots? ["name", "type_name"] | none
  return ⟨← name.required asString, ← typeName.required asString⟩

/-- The JSON form of an entity. -/
def toJson (entity : EntityType) : Json :=
  .object [("name", .string entity.name), ("type_name", .string entity.typeName)]

end EntityType

/-- An enum type to register. -/
structure EnumEntry where
  type : EnumType
  /-- Whether the type is registered as literal. -/
  isLiteral : Bool

namespace EnumEntry

/-- The enum type that a JSON object gives. Unlike other records it must not be an array, and the
members that are ignored have to be readable as well. -/
def ofJson? : Decoder EnumEntry
  | .object members => do
    guard (areReadableMembers members)
    let [name, constants, literal] ←
      (Json.object members).slots? ["name", "constants", "literal"] | none
    return ⟨⟨← name.required asString, ← constants.required (asList asString)⟩,
      ← literal.orDefault asBoolean false⟩
  | _ => none

/-- The JSON form of an enum type to register. -/
def toJson (entry : EnumEntry) : Json :=
  .object [("name", .string entry.type.name), ("constants", .strings entry.type.constants),
    ("literal", .boolean entry.isLiteral)]

end EnumEntry

/-- Options and the names to register on top of the standard functions. -/
structure Config where
  options : Options
  functions : Table FunctionKind
  enums : List EnumEntry
  entities : List EntityType

namespace Config

/-- The configuration that adds nothing. -/
def standard : Config :=
  ⟨.standard, .empty, [], []⟩

/-- The functions that a JSON object gives; the last kind of a repeated name counts. -/
def functionsOfJson? : Decoder (Table FunctionKind)
  | .object members => do
    let entries ← members.mapM fun (name, kind) => do return (name, ← asTag kind)
    return .ofList entries
  | _ => none

/-- The configuration that a JSON value gives. -/
def ofJson? : Decoder Config := fun json => do
  let [options, functions, enums, entities] ←
    json.slots? ["options", "functions", "enums", "entities"] | none
  return {
    options := ← options.orDefault Options.ofJson? standard.options
    functions := ← functions.orDefault functionsOfJson? standard.functions
    enums := ← enums.orDefault (asList EnumEntry.ofJson?) standard.enums
    entities := ← entities.orDefault (asList EntityType.ofJson?) standard.entities }

/-- The configuration that a JSON text gives. -/
def ofText? (text : String) : Option Config :=
  (Json.readLimited? text).bind ofJson?

/-- The JSON form of a configuration. -/
def toJson (config : Config) : Json :=
  .object [("options", config.options.toJson),
    ("functions", .object (config.functions.entries.map fun (name, kind) => (name, .ofTag kind))),
    ("enums", .array (config.enums.map EnumEntry.toJson)),
    ("entities", .array (config.entities.map EntityType.toJson))]

/-- The functions of a configuration on top of the standard ones. -/
def functionRegistry (config : Config) : FunctionRegistry :=
  config.functions.entries.foldl (fun registry (name, kind) => registry.register name kind)
    .standard

/-- The enum types of a configuration. -/
def enumRegistry (config : Config) : EnumRegistry :=
  config.enums.foldl (fun registry entry =>
    if entry.isLiteral then registry.registerLiteral entry.type else registry.register entry.type)
    .empty

/-- The entities of a configuration. -/
def entityRegistry (config : Config) : EntityRegistry :=
  config.entities.foldl EntityRegistry.register .empty

/-- The names that a configuration registers; it has no macros. -/
def registries (config : Config) : Registries :=
  ⟨config.functionRegistry, config.enumRegistry, config.entityRegistry, .empty⟩

/-- The context of a configuration, with the usual reader of dates and times. -/
def context (config : Config) : Context :=
  ⟨config.registries, config.options, Temporal.iso⟩

end Config

end QueryExpr
