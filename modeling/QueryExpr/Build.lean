import QueryExpr.Literal.Quoted
import QueryExpr.Resolve.Call
import QueryExpr.Resolve.Fault
import QueryExpr.Resolve.Name
import QueryExpr.Syntax.Basic

/-!
# Building expressions

From a parse tree to an expression. Operands are built from left to right, clause after clause as
they are written, and the first fault ends the build. Every node that is built counts towards the
nesting; the path of a downcast, of a collection access or of a type does not count by itself.
-/

namespace QueryExpr.Syntax

/-- An outcome of resolution, with its error placed at a span. -/
def place {α : Type} (span : Span) (traced : Traced ResolveError α) : Traced Fault α :=
  traced.mapError fun error => ⟨.resolve error, span⟩

/-- The predicate that a node was built to. A boolean literal is a predicate as well. -/
def asPredicate (node : Node) (built : Expression) : Except Fault Predicate :=
  match built with
  | .predicate predicate => .ok predicate
  | .literal (.boolean value) => .ok (.positive (.boolean value))
  | _ => .error ⟨.notPredicate node.kind.name, node.span⟩

/-- The path that was built for something that needs one. -/
def asPath (span : Span) (name : String) (built : Expression) : Except Fault QueryExpr.Path :=
  match built with
  | .path path => .ok path
  | _ => .error ⟨.resolve (.pathRequired name), span⟩

/-- The expression of an alternative without operands. -/
def Atom.build (context : Context) (leaf : Atom) : Except Cause Expression :=
  match leaf with
  | null => .ok (.literal .null)
  | boolean value => .ok (.literal (.boolean value))
  | string raw =>
    match Quoted.decode raw with
    | .ok text => .ok (.string text)
    | .error escape => .error (.resolve (.invalidEscape escape))
  | numeric text kind negative => .ok (.literal (.numeric (.ofWritten text kind negative)))
  | temporal kind body =>
    ((context.temporal kind body).map Expression.literal).mapError .resolve
  | namedParameter name | positionalParameter name => .ok (.parameter (.named name))
  | constant segments => (context.constant segments).mapError .resolve
  | temporalFunction name => .ok (.call name [])
  | subpath segments =>
    match context.leadingConstant? segments with
    | .error error => .error (.resolve error)
    | .ok (some expression) => .ok expression
    | .ok none =>
      match QueryExpr.Path.ofProperties? segments with
      | some path => .ok (.path path)
      | none => .error .emptyLink
  | object name | identifier name => .ok (context.identifier name)
  | unmatched text => .error (.unmatched text)

/-- The expression of an alternative with one operand. -/
def UnaryOp.build (op : UnaryOp) (span : Span) (operand : Expression) : Except Fault Expression :=
  match op with
  | grouped | plus => .ok operand
  | minus => .ok (.minus operand)
  | outer => .ok (.call "OUTER" [operand])
  | existence negated => .ok (.predicate ⟨.existence operand, negated⟩)
  | isNull negated => .ok (.predicate ⟨.isNull operand, negated⟩)
  | isEmpty negated => do
    let path ← asPath span "IS EMPTY" operand
    return .predicate ⟨.isEmpty { path with usedInCollectionFunction := true }, negated⟩

/-- Reject a quantifier where the options allow none. -/
def BinaryOp.permit (op : BinaryOp) (options : Options) (span : Span) : Except Fault Unit :=
  match op with
  | quantified _ (some _) =>
    if options.allowQuantifiers then .ok () else .error ⟨.quantifier, span⟩
  | _ => .ok ()

/-- The quantifier of a word. -/
def quantifierOf : Option QuantifierWord → Quantifier
  | none => .one
  | some .any | some .some => .any
  | some .all => .all

/-- Comparisons for equality or inequality. -/
def isEquality : ComparisonSign → Bool
  | .eq | .ne => true
  | .lt | .le | .gt | .ge => false

/-- The comparison of two expressions. Where a side of an equality is a type, the other side can
name an entity. -/
def compare (context : Context) (sign : ComparisonSign) (left right : Expression) : Expression :=
  let right :=
    if isEquality sign ∧ left.isTypeOf then context.typeComparand right else right
  let left :=
    if isEquality sign ∧ right.isTypeOf then context.typeComparand left else left
  .predicate (.ofSign sign left right .one)

/-- The expression of an alternative with two operands. -/
def BinaryOp.build (op : BinaryOp) (context : Context) (left right : Expression) : Expression :=
  match op with
  | concatenation => .concatenate left right
  | multiply => .arithmetic left .multiplication right
  | divide => .arithmetic left .division right
  | modulo => .call "MOD" [left, right]
  | add => .arithmetic left .addition right
  | subtract => .arithmetic left .subtraction right
  | comparison sign => compare context sign left right
  | quantified sign word => .predicate (.ofSign sign left right (quantifierOf word))

/-- Items of a membership test of which a single parameter stands for a collection. -/
def markCollection : List Expression → List Expression
  | [.parameter parameter] => [.parameter { parameter with collectionValued := true }]
  | items => items

/-- Whether the items of a membership test are a single item that may stand for a collection: one
without parentheses that is not a call. -/
def isBareItem (items : List Node) (parenthesized : Bool) : Bool :=
  match items with
  | [item] =>
    match item.kind with
    | .call _ => false
    | _ => !parenthesized
  | _ => false

/-- The membership test of an expression in some items. -/
def membership (context : Context) (negated bare : Bool) (operand : Expression)
    (items : List Expression) : Expression :=
  let items := if bare then markCollection items else items
  let items := if operand.isTypeOf then items.map context.typeComparand else items
  .predicate ⟨.inList operand items, negated⟩

/-- The expression of a path written for something. -/
def PathRole.build (role : PathRole) (options : Options) (span : Span) (built : Expression) :
    Except Fault Expression :=
  match role with
  | plain =>
    if built.isBareTreat ∧ ¬ options.allowBareTreat then .error ⟨.bareTreat, span⟩ else .ok built
  | treat entityName =>
    match PathElement.ofExpression? built with
    | some element => .ok (.treat (.path ⟨element, [], false, false⟩) entityName)
    | none => .ok (.treat built entityName)
  | value => do
    return .collection .mapValue (← asPath span "VALUE" built)
  | key => do
    return .collection .mapKey { ← asPath span "KEY" built with collectionQualified := true }
  | entry => do
    return .collection .mapEntry (← asPath span "ENTRY" built)

/-- The path that a qualifier starts. -/
def startPath (qualifier : Node) (built : Expression) : Except Fault QueryExpr.Path :=
  match PathElement.ofExpression? built with
  | some element => .ok ⟨element, [], false, false⟩
  | none =>
    match built with
    | .path path => .ok path
    | _ => .error ⟨.qualifier, qualifier.span⟩

/-- Reject a link without segments. -/
def checkLink (span : Span) (segments : List String) : Except Fault Unit :=
  if segments.isEmpty then .error ⟨.emptyLink, span⟩ else .ok ()

/-- The elements of a link: a property for each segment, with the index, if any, on the last. -/
def linkElements (segments : List String) (index : Option Expression) : List PathElement :=
  match index, segments.getLast? with
  | some index, some last =>
    segments.dropLast.map .property ++ [.indexed (.property last) index]
  | _, _ => segments.map .property

/-- The elements of the first link of a path without qualifier, which under an index can be an
entity. -/
def leadingElements (context : Context) (segments : List String) (index : Option Expression) :
    List PathElement :=
  match index, context.indexedEntity? segments with
  | some index, some entity => [.indexed (.entity entity) index]
  | _, _ => linkElements segments index

/-- The enum constant that a path without qualifier is. Only a link without index can be one. -/
def leadingConstant? (context : Context) (span : Span) (segments : List String)
    (index : Option Node) : Except Fault (Option Expression) :=
  if index.isSome then .ok none
  else (context.leadingConstant? segments).mapError fun error => ⟨.resolve error, span⟩

/-- The path of some elements. -/
def ofElements (span : Span) (elements : List PathElement) : Except Fault Expression :=
  match QueryExpr.Path.ofElements? elements with
  | some path => .ok (.path path)
  | none => .error ⟨.emptyLink, span⟩

mutual

/-- The expression of a node that is nested in `depth` others. -/
def Node.build (context : Context) (depth : Nat) : Node → Traced Fault Expression
  | ⟨kind, span⟩ =>
    if context.options.maxDepth ≤ depth then
      .fail ⟨.nesting context.options.maxDepth, span⟩
    else kind.build context (depth + 1) span

/-- The expression of an alternative with the given span. -/
def Kind.build (context : Context) (depth : Nat) (span : Span) :
    Kind → Traced Fault Expression
  | .atom leaf => (leaf.build context).mapError fun cause => (⟨cause, span⟩ : Fault)
  | .unary op operand => do
    op.build span (← operand.build context depth)
  | .binary op left right => do
    op.permit context.options span
    let builtLeft ← left.build context depth
    let builtRight ← right.build context depth
    return op.build context builtLeft builtRight
  | .connective op left right => do
    let builtLeft ← asPredicate left (← left.build context depth)
    let builtRight ← asPredicate right (← right.build context depth)
    return .predicate (.join op builtLeft builtRight)
  | .negation operand => do
    let built ← asPredicate operand (← operand.build context depth)
    return .predicate built.negate
  | .typeOf ⟨.path .plain path, pathSpan⟩ => do
    return .typeOf (← path.build context depth pathSpan)
  | .typeOf operand =>
    match operand.kind with
    | .atom (.namedParameter _) | .atom (.positionalParameter _) => do
      return .typeOf (← operand.build context depth)
    | kind => .fail ⟨.typeOperand kind.name, operand.span⟩
  | .between negated operand low high => do
    let operand ← operand.build context depth
    let low ← low.build context depth
    let high ← high.build context depth
    return .predicate ⟨.between operand low high, negated⟩
  | .like negated operand pattern escape => do
    let escape ← buildOption context depth escape
    if escape.any (!·.isLiteralOrParameter) then
      Traced.fail ⟨.escape, span⟩
    else
      let operand ← operand.build context depth
      let pattern ← pattern.build context depth
      return .predicate ⟨.like operand pattern escape, negated⟩
  | .inList negated operand items parenthesized => do
    let operand ← operand.build context depth
    let built ← buildAll context depth items
    return membership context negated (isBareItem items parenthesized) operand built
  | .simpleCase operand branches otherwise => do
    let operand ← operand.build context depth
    let branches ← buildBranches context depth branches
    return .simpleCase operand branches (← buildOption context depth otherwise)
  | .searchedCase branches otherwise => do
    let branches ← buildSearched context depth branches
    return .searchedCase branches (← buildOption context depth otherwise)
  | .trim side character operand => do
    let character ← buildOption context depth character
    let operand ← operand.build context depth
    return .trim (side.getD .both) character operand
  | .count distinct argument filter window => do
    let argument ← buildOption context depth argument
    let filter ← buildFilter context depth filter
    let window ← buildOver context depth span window
    place span
      (Invocation.resolve context ⟨"COUNT", distinct, argument.toList, none, filter, window⟩)
  | .call call => call.build context depth span
  | .path role path => do
    role.build context.options span (← path.build context depth span)
  | .memberOf negated element collection => do
    let element ← element.build context depth
    let path ← asPath span "MEMBER OF" (← collection.build context depth span)
    return .predicate ⟨.memberOf element { path with usedInCollectionFunction := true }, negated⟩
  | .applied (.constructor className) arguments => do
    return .call ("NEW " ++ Dotted.join className) (← buildAll context depth arguments)
  | .applied (.expansion name) arguments => do
    place span (context.expand name (← buildAll context depth arguments))

/-- The expressions of some nodes. -/
def buildAll (context : Context) (depth : Nat) : List Node → Traced Fault (List Expression)
  | [] => return []
  | node :: rest => do
    let built ← node.build context depth
    return built :: (← buildAll context depth rest)

/-- The expression of an optional node. -/
def buildOption (context : Context) (depth : Nat) :
    Option Node → Traced Fault (Option Expression)
  | none => return none
  | some node => return some (← node.build context depth)

/-- The predicate of an optional filter. -/
def buildFilter (context : Context) (depth : Nat) : Option Node → Traced Fault (Option Predicate)
  | none => return none
  | some node => do
    return some (← asPredicate node (← node.build context depth))

/-- The branches of a simple case. -/
def buildBranches (context : Context) (depth : Nat) :
    List Branch → Traced Fault (List QueryExpr.Branch)
  | [] => return []
  | ⟨condition, result⟩ :: rest => do
    let condition ← condition.build context depth
    let result ← result.build context depth
    return ⟨condition, result⟩ :: (← buildBranches context depth rest)

/-- The branches of a searched case, whose conditions are predicates. -/
def buildSearched (context : Context) (depth : Nat) :
    List Branch → Traced Fault (List QueryExpr.Branch)
  | [] => return []
  | ⟨condition, result⟩ :: rest => do
    let predicate ← asPredicate condition (← condition.build context depth)
    let result ← result.build context depth
    return ⟨.predicate predicate, result⟩ :: (← buildSearched context depth rest)

/-- The expression of a path. A path without qualifier can be an enum constant. -/
def Path.build (context : Context) (depth : Nat) (span : Span) : Path → Traced Fault Expression
  | ⟨none, []⟩ => .fail ⟨.emptyPath, span⟩
  | ⟨none, ⟨segments, index⟩ :: links⟩ => do
    checkLink span segments
    match ← leadingConstant? context span segments index with
    | some constant => return constant
    | none =>
      let index ← buildOption context depth index
      let elements ← buildLinks context depth span links
      ofElements span (leadingElements context segments index ++ elements)
  | ⟨some qualifier, []⟩ => qualifier.build context depth
  | ⟨some qualifier, ⟨segments, index⟩ :: links⟩ => do
    let path ← startPath qualifier (← qualifier.build context depth)
    checkLink span segments
    let index ← buildOption context depth index
    let elements ← buildLinks context depth span links
    return .path (path.append (linkElements segments index ++ elements))

/-- The elements of some links. -/
def buildLinks (context : Context) (depth : Nat) (span : Span) :
    List Link → Traced Fault (List PathElement)
  | [] => return []
  | ⟨segments, index⟩ :: rest => do
    checkLink span segments
    let index ← buildOption context depth index
    return linkElements segments index ++ (← buildLinks context depth span rest)

/-- The expression of a function call. -/
def Call.build (context : Context) (depth : Nat) (span : Span) : Call → Traced Fault Expression
  | ⟨name, distinct, arguments, withinGroup, filter, window⟩ => do
    let arguments ← buildAll context depth arguments
    let withinGroup ← buildGroup context depth withinGroup
    let filter ← buildFilter context depth filter
    let window ← buildOver context depth span window
    place span
      (Invocation.resolve context ⟨name, distinct, arguments, withinGroup, filter, window⟩)

/-- An optional ordering. -/
def buildGroup (context : Context) (depth : Nat) :
    Option (List OrderItem) → Traced Fault (Option (List QueryExpr.OrderItem))
  | none => return none
  | some items => return some (← buildItems context depth items)

/-- The items of an ordering. -/
def buildItems (context : Context) (depth : Nat) :
    List OrderItem → Traced Fault (List QueryExpr.OrderItem)
  | [] => return []
  | ⟨expression, descending, nulls, collation, span⟩ :: rest => do
    let built ← expression.build context depth
    let item ← place span
      (.ofExcept (QueryExpr.OrderItem.ofWritten built descending nulls collation))
    return item :: (← buildItems context depth rest)

/-- An optional `OVER` clause. -/
def buildOver (context : Context) (depth : Nat) (span : Span) :
    Option Over → Traced Fault (Option WindowClause)
  | none => return none
  | some (.named name) => return some (.named name)
  | some (.inline name partitionBy orderBy frame) => do
    let partitionBy ← buildAll context depth partitionBy
    let orderBy ← buildItems context depth orderBy
    let frame ← buildFrame context depth span frame
    return some (.inline name partitionBy orderBy frame)

/-- An optional frame. -/
def buildFrame (context : Context) (depth : Nat) (span : Span) :
    Option (Frame Node) → Traced Fault (Option (Frame Expression))
  | none => return none
  | some ⟨mode, start, stop, exclusion⟩ => do
    let start ← buildBound context depth start
    let stop ← buildStop context depth stop
    return some (← place span (.ofExcept (Frame.check ⟨mode, start, stop, exclusion⟩)))

/-- The end of a frame. -/
def buildStop (context : Context) (depth : Nat) :
    Option (Bound Node) → Traced Fault (Option (Bound Expression))
  | none => return none
  | some bound => return some (← buildBound context depth bound)

/-- The bound of a frame. -/
def buildBound (context : Context) (depth : Nat) : Bound Node → Traced Fault (Bound Expression)
  | .unboundedPreceding => return .unboundedPreceding
  | .preceding offset => return .preceding (← offset.build context depth)
  | .currentRow => return .currentRow
  | .following offset => return .following (← offset.build context depth)
  | .unboundedFollowing => return .unboundedFollowing

end

/-- The predicate of a node that is nested in `depth` others. -/
def Node.buildPredicate (context : Context) (depth : Nat) (node : Node) :
    Traced Fault Predicate := do
  asPredicate node (← node.build context depth)

end QueryExpr.Syntax
