import QueryExpr.Resolve.Context

/-!
# Names

What a dotted name means: a constant of an enum type, an entity, or a path of properties.
-/

namespace QueryExpr.Context

/-- The expression of an enum constant: a literal if the type is written inline, and otherwise a
parameter named by the text with underscores for dots. -/
def enumExpression (context : Context) (type : EnumType) (value : EnumValue) (text : String) :
    Expression :=
  if context.registries.enums.isLiteral type then .literal (.enum value text)
  else .parameter (.bound (Dotted.underscored text) value)

/-- The enum constant that a text names. The part before the last dot has to name an enum type; then
the part after it has to name a constant of that type. -/
def enumConstant? (context : Context) (text : String) :
    Except ResolveError (Option Expression) :=
  match Dotted.owner? text with
  | none => .ok none
  | some (owner, constant) =>
    match context.registries.enums.get? owner with
    | none => .ok none
    | some type =>
      match type.value? constant with
      | some value => .ok (some (context.enumExpression type value text))
      | none => .error (.unknownEnumConstant type.name constant)

/-- The entity that a text names. -/
def entity? (context : Context) (text : String) : Option EntityLiteral :=
  (context.registries.entities.get? text).map fun entity => ⟨entity.name, entity.typeName, text⟩

/-- The enum constant that the first segments of a path name, if there are enough of them. -/
def leadingConstant? (context : Context) (segments : List String) :
    Except ResolveError (Option Expression) :=
  if segments.length < context.options.minEnumSegments then .ok none
  else context.enumConstant? (Dotted.join segments)

/-- The enum constant, or else the entity, that a name has to be. -/
def constant (context : Context) (segments : List String) : Except ResolveError Expression :=
  let text := Dotted.join segments
  match context.enumConstant? text with
  | .error error => .error error
  | .ok (some expression) => .ok expression
  | .ok none =>
    match context.entity? text with
    | some entity => .ok (.literal (.entityType entity))
    | none => .error (.invalidLiteral text)

/-- A single identifier: an entity, or else a property. -/
def identifier (context : Context) (name : String) : Expression :=
  match context.entity? name with
  | some entity => .literal (.entityType entity)
  | none => .property name

/-- The entity that the first segments of a path name under an index, if there is just one segment
or enough of them. -/
def indexedEntity? (context : Context) (segments : List String) : Option EntityLiteral :=
  if segments.length < context.options.minEntitySegments ∧ segments.length ≠ 1 then none
  else context.entity? (Dotted.join segments)

/-- The other side of a comparison with a type: a path of properties that names an entity becomes
that entity. -/
def typeComparand (context : Context) (expression : Expression) : Expression :=
  match expression with
  | .path path =>
    match path.dotted?.bind context.entity? with
    | some entity => .literal (.entityType entity)
    | none => expression
  | _ => expression

end QueryExpr.Context
