import QueryExpr.Frame
import QueryExpr.Literal.Basic
import QueryExpr.Text.Dotted

/-!
# Expressions

What a build makes of a parse tree: expressions and predicates with all names resolved. A path has
at least one element. A predicate holds as written or negated; inequality is a negated equality.
-/

namespace QueryExpr

/-- A query parameter. A positional one is named by its position. -/
structure Parameter where
  name : String
  /-- The enum constant the parameter is bound to, if it stands for one. -/
  value : Option EnumValue
  /-- Set if the parameter is the whole right side of an `IN`. -/
  collectionValued : Bool
  deriving DecidableEq

/-- What an index is applied to: a property, or an entity type. -/
inductive IndexBase where
  | property (name : String)
  | entity (entity : EntityLiteral)
  deriving DecidableEq

mutual

/-- An expression. -/
inductive Expression where
  | path (path : Path)
  | parameter (parameter : Parameter)
  | literal (literal : Literal)
  /-- A function call, which may have a `WITHIN GROUP` ordering and a window. -/
  | function (name : String) (arguments : List Expression) (orderBy : List OrderItem)
      (window : Option Window)
  /-- An aggregate call without a window. -/
  | aggregate (distinct : Bool) (name : String) (arguments : List Expression)
      (orderBy : List OrderItem) (filter : Option Predicate)
  | arithmetic (left : Expression) (op : ArithmeticOp) (right : Expression)
  /-- Unary minus. -/
  | minus (operand : Expression)
  /-- A downcast to an entity. -/
  | treat (operand : Expression) (entityName : String)
  /-- The type of an entity. -/
  | typeOf (operand : Expression)
  /-- The key, value, entry or index of a collection. -/
  | collection (access : CollectionAccess) (path : Path)
  | trim (side : TrimSide) (character : Option Expression) (operand : Expression)
  | simpleCase (operand : Expression) (branches : List Branch) (otherwise : Option Expression)
  | searchedCase (branches : List Branch) (otherwise : Option Expression)
  | predicate (predicate : Predicate)

/-- A chain of elements such as `c.owner.name`, with at least one. -/
structure Path where
  first : PathElement
  rest : List PathElement
  /-- Set for the path of a collection access. -/
  collectionQualified : Bool
  /-- Set for the path of `SIZE`, `IS EMPTY` and `MEMBER OF`. -/
  usedInCollectionFunction : Bool

/-- One step of a path. -/
inductive PathElement where
  | property (name : String)
  | indexed (base : IndexBase) (index : Expression)
  | treat (operand : Expression) (entityName : String)
  | collection (access : CollectionAccess) (path : Path)

/-- A branch of a case expression; the condition of a searched case is a predicate. -/
structure Branch where
  condition : Expression
  result : Expression

/-- An item of an ordering. -/
structure OrderItem where
  expression : Expression
  ascending : Bool
  nullsFirst : Bool

/-- The window of a function call. -/
structure Window where
  /-- The name of a named window, or of the base of an inline one. -/
  name : Option String
  partitionBy : List Expression
  orderBy : List OrderItem
  filter : Option Predicate
  frame : Option (Frame Expression)

/-- A predicate that holds as written, or negated. -/
structure Predicate where
  kind : PredicateKind
  negated : Bool

/-- What a predicate says before negation. -/
inductive PredicateKind where
  | comparison (op : ComparisonOp) (left right : Expression) (quantifier : Quantifier)
  | between (operand low high : Expression)
  /-- A match against a pattern; matches are case sensitive. -/
  | like (operand pattern : Expression) (escape : Option Expression)
  | inList (operand : Expression) (items : List Expression)
  | isNull (operand : Expression)
  | isEmpty (collection : Path)
  | memberOf (element : Expression) (collection : Path)
  | existence (operand : Expression)
  /-- A conjunction or disjunction of any number of predicates. -/
  | compound (op : BooleanOp) (children : List Predicate)
  | boolean (value : Bool)

end

namespace PathElement

/-- The name of a property. -/
def propertyName? : PathElement → Option String
  | property name => some name
  | _ => none

/-- The element form of a downcast or a collection access. -/
def ofExpression? : Expression → Option PathElement
  | .treat operand entityName => some (.treat operand entityName)
  | .collection access path => some (.collection access path)
  | _ => none

end PathElement

namespace Path

/-- The elements of a path. -/
def elements (path : Path) : List PathElement :=
  path.first :: path.rest

/-- The path with the given elements, if there are any. -/
def ofElements? : List PathElement → Option Path
  | [] => none
  | first :: rest => some ⟨first, rest, false, false⟩

/-- The path of some properties, if there are any. -/
def ofProperties? (names : List String) : Option Path :=
  ofElements? (names.map .property)

/-- The path of one property. -/
def property (name : String) : Path :=
  ⟨.property name, [], false, false⟩

/-- The path of the properties of a dotted name. -/
def dotted (name : String) : Path :=
  (ofProperties? (Dotted.segments name)).getD (property name)

/-- A path with some further elements. -/
def append (path : Path) (elements : List PathElement) : Path :=
  { path with rest := path.rest ++ elements }

/-- The number of elements. -/
def size (path : Path) : Nat :=
  path.rest.length + 1

/-- The dotted text of a path of properties only. -/
def dotted? (path : Path) : Option String :=
  (path.elements.mapM PathElement.propertyName?).map Dotted.join

/-- Paths whose only element is a downcast. -/
def isSingleTreat (path : Path) : Bool :=
  match path.first, path.rest with
  | .treat _ _, [] => true
  | _, _ => false

/-- Only an empty list makes no path. -/
theorem ofElements?_eq_none_iff {elements : List PathElement} :
    ofElements? elements = none ↔ elements = [] := by
  cases elements <;> simp [ofElements?]

/-- A path that is made of elements has these elements. -/
theorem elements_ofElements? {elements : List PathElement} {path : Path}
    (h : ofElements? elements = some path) : path.elements = elements := by
  cases elements with
  | nil => simp [ofElements?] at h
  | cons first rest => simp only [ofElements?, Option.some.injEq] at h; subst h; rfl

/-- The elements of a longer path are those of the path with the new ones behind. -/
@[simp] theorem elements_append (path : Path) (elements : List PathElement) :
    (path.append elements).elements = path.elements ++ elements := by
  simp [append, Path.elements]

/-- The size of a path is the number of its elements. -/
@[simp] theorem length_elements (path : Path) : path.elements.length = path.size := by
  simp [elements, size]

end Path

namespace Predicate

/-- A predicate that holds as written. -/
def positive (kind : PredicateKind) : Predicate :=
  ⟨kind, false⟩

/-- The negation of a predicate. A second negation does not cancel the first: the predicate becomes
the only child of a conjunction, which is negated. -/
def negate (predicate : Predicate) : Predicate :=
  if predicate.negated then ⟨.compound .and [predicate], true⟩
  else { predicate with negated := true }

/-- The connective of a compound predicate. -/
def connective? (predicate : Predicate) : Option BooleanOp :=
  match predicate.kind with
  | .compound op _ => some op
  | _ => none

/-- The conjunction or disjunction of two predicates. It extends a left side that is a compound of
the same connective and not negated. -/
def join (op : BooleanOp) (left right : Predicate) : Predicate :=
  match left with
  | ⟨.compound leftOp children, false⟩ =>
    if leftOp = op then positive (.compound op (children ++ [right]))
    else positive (.compound op [left, right])
  | left => positive (.compound op [left, right])

/-- The predicate of a written comparison. -/
def ofSign (sign : ComparisonSign) (left right : Expression) (quantifier : Quantifier) :
    Predicate :=
  match sign with
  | .eq => ⟨.comparison .eq left right quantifier, false⟩
  | .ne => ⟨.comparison .eq left right quantifier, true⟩
  | .lt => ⟨.comparison .lt left right quantifier, false⟩
  | .le => ⟨.comparison .le left right quantifier, false⟩
  | .gt => ⟨.comparison .gt left right quantifier, false⟩
  | .ge => ⟨.comparison .ge left right quantifier, false⟩

end Predicate

namespace Parameter

/-- A parameter without a value. -/
def named (name : String) : Parameter :=
  ⟨name, none, false⟩

/-- A parameter bound to an enum constant. -/
def bound (name : String) (value : EnumValue) : Parameter :=
  ⟨name, some value, false⟩

/-- Parameters named by a position. -/
def isPositional (parameter : Parameter) : Bool :=
  parameter.name ≠ "" && parameter.name.toList.all Char.isDigit

end Parameter

namespace Window

/-- A window that has at most a name and a filter. -/
def minimal (name : Option String) (filter : Option Predicate) : Window :=
  ⟨name, [], [], filter, none⟩

end Window

namespace Expression

/-- A call without clauses. -/
def call (name : String) (arguments : List Expression) : Expression :=
  function name arguments [] none

/-- A string literal. -/
def string (text : String) : Expression :=
  literal (.string text)

/-- The path of one property. -/
def property (name : String) : Expression :=
  path (Path.property name)

/-- The path of the properties of a dotted name. -/
def dotted (name : String) : Expression :=
  path (Path.dotted name)

/-- The name of concatenation calls. -/
def concatName : String := "CONCAT"

/-- Whether a function name is the name of concatenation, in any case of its ASCII letters. -/
def isConcatName (name : String) : Bool :=
  name.toList.map Char.toUpper == concatName.toList

/-- A concatenation whose left side is no concatenation call. -/
def prepend (left right : Expression) : Expression :=
  match right with
  | function name arguments orderBy window =>
    if isConcatName name then function name (left :: arguments) orderBy window
    else call concatName [left, right]
  | _ => call concatName [left, right]

/-- The concatenation of two expressions. A concatenation call on the left takes the right side as
its last argument, else one on the right takes the left side as its first. -/
def concatenate (left right : Expression) : Expression :=
  match left with
  | function name arguments orderBy window =>
    if isConcatName name then function name (arguments ++ [right]) orderBy window
    else prepend left right
  | _ => prepend left right

/-- Literals and parameters. -/
def isLiteralOrParameter : Expression → Bool
  | literal _ | parameter _ => true
  | _ => false

/-- A type expression, whose other side in a comparison names an entity. -/
def isTypeOf : Expression → Bool
  | typeOf _ => true
  | _ => false

/-- A downcast that is not dereferenced. -/
def isBareTreat : Expression → Bool
  | path steps => steps.isSingleTreat
  | treat _ _ => true
  | _ => false

end Expression

end QueryExpr
