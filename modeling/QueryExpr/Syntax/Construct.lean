import QueryExpr.Syntax.Basic
import QueryExpr.Text.Dotted

/-!
# Constructing parse trees

Parse trees put together by hand. Names are given as dotted text, and every node has an empty span.
-/

namespace QueryExpr.Syntax

namespace Link

/-- Identifiers between dots. -/
def dotted (name : String) : Link :=
  ⟨Dotted.segments name, none⟩

/-- Identifiers between dots with an index on the last one. -/
def indexed (name : String) (index : Node) : Link :=
  ⟨Dotted.segments name, some index⟩

end Link

namespace Path

/-- A path from its dotted text. -/
def dotted (name : String) : Path :=
  ⟨none, [Link.dotted name]⟩

end Path

namespace Node

/-- A path of links. -/
def ofLinks (links : List Link) : Node :=
  (Kind.path .plain ⟨none, links⟩).node

/-- A path from its dotted text. -/
def dottedPath (name : String) : Node :=
  (Kind.path .plain (Path.dotted name)).node

/-- A path with a qualifier. -/
def qualifiedPath (qualifier : Node) (links : List Link) : Node :=
  (Kind.path .plain ⟨some qualifier, links⟩).node

/-- Identifiers between dots, without index and qualifier. -/
def subpath (name : String) : Node :=
  (Kind.atom (.subpath (Dotted.segments name))).node

/-- A single identifier. -/
def identifier (name : String) : Node :=
  (Kind.atom (.identifier name)).node

/-- A path written for a downcast or a collection access. -/
def pathFor (role : PathRole) (name : String) : Node :=
  (Kind.path role (Path.dotted name)).node

/-- An alias selected as an object. -/
def object (name : String) : Node :=
  (Kind.atom (.object name)).node

/-- A macro where a path may stand. -/
def expansion (name : String) (arguments : List Node) : Node :=
  (Kind.applied (.expansion name) arguments).node

/-- The construction of an instance of a class. -/
def construction (className : String) (arguments : List Node) : Node :=
  (Kind.applied (.constructor (Dotted.segments className)) arguments).node

/-- The null literal. -/
def null : Node :=
  (Kind.atom .null).node

/-- A boolean literal. -/
def boolean (value : Bool) : Node :=
  (Kind.atom (.boolean value)).node

/-- A string literal with its delimiters. -/
def string (raw : String) : Node :=
  (Kind.atom (.string raw)).node

/-- A number without a sign. -/
def numeric (text : String) (kind : NumericKind) : Node :=
  (Kind.atom (.numeric text kind false)).node

/-- A date or time from its text without quotes. -/
def temporal (kind : TemporalKind) (body : String) : Node :=
  (Kind.atom (.temporal kind ("'" ++ body ++ "'"))).node

/-- A named parameter. -/
def namedParameter (name : String) : Node :=
  (Kind.atom (.namedParameter name)).node

/-- A positional parameter. -/
def positionalParameter (position : String) : Node :=
  (Kind.atom (.positionalParameter position)).node

/-- A dotted name that has to be an enum constant or an entity. -/
def constant (name : String) : Node :=
  (Kind.atom (.constant (Dotted.segments name))).node

/-- A type expression. -/
def typeOf (operand : Node) : Node :=
  (Kind.typeOf operand).node

/-- An alternative with one operand. -/
def unary (op : UnaryOp) (operand : Node) : Node :=
  (Kind.unary op operand).node

/-- An alternative with two operands. -/
def binary (op : BinaryOp) (left right : Node) : Node :=
  (Kind.binary op left right).node

/-- `AND` or `OR` between predicates. -/
def connective (op : BooleanOp) (left right : Node) : Node :=
  (Kind.connective op left right).node

/-- `NOT` before a predicate. -/
def negation (operand : Node) : Node :=
  (Kind.negation operand).node

/-- A call without clauses. -/
def call (name : String) (arguments : List Node) : Node :=
  (Kind.call ⟨name, false, arguments, none, none, none⟩).node

/-- A call with clauses. -/
def invoke (call : Call) : Node :=
  (Kind.call call).node

/-- A call of `COUNT` without clauses. -/
def count (argument : Option Node) : Node :=
  (Kind.count false argument none none).node

/-- A comparison with a subquery alias. -/
def quantified (left : Node) (sign : ComparisonSign) (word : Option QuantifierWord)
    (name : String) : Node :=
  (Kind.binary (.quantified sign word) left (identifier name)).node

/-- A test whether a subquery has a result. -/
def existence (name : String) : Node :=
  (Kind.unary (.existence false) (identifier name)).node

/-- A test for membership in a collection. -/
def memberOf (element : Node) (collection : String) : Node :=
  (Kind.memberOf false element (Path.dotted collection)).node

/-- A test against two limits. -/
def between (operand low high : Node) : Node :=
  (Kind.between false operand low high).node

/-- A match against a pattern. -/
def like (operand pattern : Node) (escape : Option Node) : Node :=
  (Kind.like false operand pattern escape).node

/-- A test for membership in items written in parentheses. -/
def inItems (operand : Node) (items : List Node) : Node :=
  (Kind.inList false operand items true).node

/-- A test for membership in a single item without parentheses. -/
def inItem (operand item : Node) : Node :=
  (Kind.inList false operand [item] false).node

/-- Text that the grammar could not match. -/
def unmatched (text : String) : Node :=
  (Kind.atom (.unmatched text)).node

end Node

end QueryExpr.Syntax
