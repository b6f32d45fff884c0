import QueryExpr.Frame
import QueryExpr.Source.Span

/-!
# Parse trees

The trees that a grammar of the query language hands over. A node is one alternative of the grammar
with the span of the query text it was read from. Alternatives of one shape share a constructor and
differ in an operator.
-/

namespace QueryExpr.Syntax

/-- Alternatives without operands. -/
inductive Atom where
  | null
  | boolean (value : Bool)
  /-- A string literal with its delimiters. -/
  | string (raw : String)
  /-- A number with its suffix; `negative` for a minus sign before it. -/
  | numeric (text : String) (kind : NumericKind) (negative : Bool)
  /-- A date or time with its quotes. -/
  | temporal (kind : TemporalKind) (body : String)
  | namedParameter (name : String)
  | positionalParameter (position : String)
  /-- A dotted name that has to be an enum constant or an entity. -/
  | constant (segments : List String)
  /-- One of the functions for the current date or time, as written. -/
  | temporalFunction (name : String)
  /-- Identifiers between dots, without index and qualifier. -/
  | subpath (segments : List String)
  /-- An alias selected as an object. -/
  | object (name : String)
  | identifier (name : String)
  /-- Text that the grammar could not match. -/
  | unmatched (text : String)
  deriving DecidableEq

/-- Alternatives with one operand. -/
inductive UnaryOp where
  | grouped
  | plus
  | minus
  | outer
  | existence (negated : Bool)
  | isNull (negated : Bool)
  | isEmpty (negated : Bool)
  deriving DecidableEq

/-- Alternatives with a left and a right operand that are expressions. -/
inductive BinaryOp where
  | concatenation
  | multiply
  | divide
  | modulo
  | add
  | subtract
  | comparison (sign : ComparisonSign)
  | quantified (sign : ComparisonSign) (word : Option QuantifierWord)
  deriving DecidableEq

/-- What a path is written for. -/
inductive PathRole where
  /-- A path as an expression. -/
  | plain
  /-- A downcast of the path to an entity. -/
  | treat (entityName : String)
  | value
  | key
  | entry
  deriving DecidableEq

/-- What a list of arguments is applied to, other than a function. -/
inductive Head where
  /-- The construction of an instance of a class. -/
  | constructor (className : List String)
  /-- A macro where a path may stand. -/
  | expansion (name : String)
  deriving DecidableEq

mutual

/-- An alternative of the grammar with its span. -/
structure Node where
  kind : Kind
  span : Span

/-- The alternatives of the grammar. -/
inductive Kind where
  | atom (atom : Atom)
  | unary (op : UnaryOp) (operand : Node)
  | binary (op : BinaryOp) (left right : Node)
  /-- `AND` or `OR` between predicates. -/
  | connective (op : BooleanOp) (left right : Node)
  /-- `NOT` before a predicate. -/
  | negation (operand : Node)
  | typeOf (operand : Node)
  | between (negated : Bool) (operand low high : Node)
  | like (negated : Bool) (operand pattern : Node) (escape : Option Node)
  /-- An `IN`; `parenthesized` if its items are written in parentheses. -/
  | inList (negated : Bool) (operand : Node) (items : List Node) (parenthesized : Bool)
  | simpleCase (operand : Node) (branches : List Branch) (otherwise : Option Node)
  | searchedCase (branches : List Branch) (otherwise : Option Node)
  | trim (side : Option TrimSide) (character : Option Node) (operand : Node)
  /-- A call of `COUNT`; without an argument it counts rows. -/
  | count (distinct : Bool) (argument filter : Option Node) (window : Option Over)
  | call (call : Call)
  | path (role : PathRole) (path : Path)
  | memberOf (negated : Bool) (element : Node) (collection : Path)
  | applied (head : Head) (arguments : List Node)

/-- A branch of a case alternative. -/
structure Branch where
  condition : Node
  result : Node

/-- A path: an optional qualifier, and links between dots. -/
structure Path where
  qualifier : Option Node
  links : List Link

/-- Identifiers between dots, with an optional index on the last one. -/
structure Link where
  segments : List String
  index : Option Node

/-- A function call with its clauses. -/
structure Call where
  name : String
  distinct : Bool
  arguments : List Node
  withinGroup : Option (List OrderItem)
  filter : Option Node
  window : Option Over

/-- An `OVER` clause: the name of a window, or a window of its own. -/
inductive Over where
  | named (name : String)
  | inline (name : Option String) (partitionBy : List Node) (orderBy : List OrderItem)
      (frame : Option (Frame Node))

/-- An item of an ordering. -/
structure OrderItem where
  expression : Node
  descending : Bool
  nulls : Option NullsOrder
  collation : Option String
  span : Span

end

/-- The name of an alternative without operands. -/
def Atom.name : Atom → String
  | null => "Null"
  | boolean _ => "Boolean"
  | string _ => "StringLiteral"
  | numeric .. => "Numeric"
  | temporal .. => "TemporalLiteral"
  | namedParameter _ => "NamedParameter"
  | positionalParameter _ => "PositionalParameter"
  | constant _ => "EntityTypeOrEnumLiteral"
  | temporalFunction _ => "TemporalFunction"
  | subpath _ => "SimpleSubpath"
  | object _ => "ObjectSelect"
  | identifier _ => "Identifier"
  | unmatched _ => "Error"

/-- The name of an alternative with one operand. -/
def UnaryOp.name : UnaryOp → String
  | grouped => "Grouped"
  | plus => "UnaryPlus"
  | minus => "UnaryMinus"
  | outer => "OuterPath"
  | existence _ => "Exists"
  | isNull _ => "IsNull"
  | isEmpty _ => "IsEmpty"

/-- The name of an alternative with two operands. -/
def BinaryOp.name : BinaryOp → String
  | concatenation => "Concatenation"
  | multiply | divide | modulo => "Multiplicative"
  | add | subtract => "Additive"
  | comparison _ => "Comparison"
  | quantified .. => "QuantifiedComparison"

/-- The name of the alternative that a path is written for. -/
def PathRole.name : PathRole → String
  | plain => "Path"
  | treat _ => "TreatPath"
  | value => "ValuePath"
  | key => "MapKeyPath"
  | entry => "MapEntrySelect"

/-- The name of the alternative that applies something other than a function. -/
def Head.name : Head → String
  | constructor _ => "Constructor"
  | expansion _ => "MacroPath"

/-- The name of an alternative. -/
def Kind.name : Kind → String
  | atom leaf => leaf.name
  | unary op _ => op.name
  | binary op _ _ => op.name
  | connective op _ _ => Tagged.tag op
  | negation _ => "Negated"
  | typeOf _ => "EntityType"
  | between .. => "Between"
  | like .. => "Like"
  | inList .. => "In"
  | simpleCase .. => "SimpleCase"
  | searchedCase .. => "GeneralCase"
  | trim .. => "Trim"
  | count .. => "Count"
  | call _ => "FunctionInvocation"
  | path role _ => role.name
  | memberOf .. => "MemberOf"
  | applied head _ => head.name

/-- A node that was not read from a query text. -/
def Kind.node (kind : Kind) : Node :=
  ⟨kind, Span.empty⟩

/-- The same node with another span. -/
def Node.located (node : Node) (start stop : Nat) : Node :=
  { node with span := ⟨start, stop⟩ }

end QueryExpr.Syntax
