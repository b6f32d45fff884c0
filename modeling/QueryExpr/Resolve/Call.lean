import QueryExpr.Resolve.Context
import QueryExpr.Resolve.Traced
import QueryExpr.Resolve.Window

/-!
# Calls

What a function call means. The functions of the language come first, then the registered functions,
whose kind decides which clauses a call may carry, and last the macros.
-/

namespace QueryExpr

/-- A call whose arguments and clauses are built. -/
structure Invocation where
  /-- The name as written. -/
  name : String
  distinct : Bool
  arguments : List Expression
  withinGroup : Option (List OrderItem)
  filter : Option Predicate
  window : Option WindowClause

/-- What the macro with a name makes of some arguments. -/
def Context.expand (context : Context) (name : String) (arguments : List Expression) :
    Traced ResolveError Expression :=
  match context.registries.macros.get? (Case.upper name) with
  | some expansion =>
    .expanded (Case.upper name) ((expansion arguments).mapError .expansion)
  | none => .fail (.unresolved name)

namespace Invocation

/-- A call without clauses. -/
def plain (name : String) (arguments : List Expression) : Invocation :=
  ⟨name, false, arguments, none, none, none⟩

/-- Whether a call carries a clause. -/
def carries (call : Invocation) : Clause → Bool
  | .distinct => call.distinct
  | .withinGroup => call.withinGroup.isSome
  | .filter => call.filter.isSome
  | .window => call.window.isSome

/-- Reject the first of some clauses that a call carries. -/
def forbid (call : Invocation) (clauses : List Clause) : Except ResolveError Unit :=
  match clauses.find? call.carries with
  | some clause => .error (.illegalClause clause)
  | none => .ok ()

/-- Reject a call that carries any clause. -/
def forbidAll (call : Invocation) : Except ResolveError Unit :=
  call.forbid (Tagged.values (α := Clause))

/-- The arguments of a call over a window, to which `DISTINCT` is added in front as a string. -/
def windowedArguments (call : Invocation) : List Expression :=
  if call.distinct then .string "DISTINCT" :: call.arguments else call.arguments

/-- The call over a window as a function of some name. -/
def windowed (call : Invocation) (name : String) (kind : FunctionKind) : Expression :=
  .function name call.windowedArguments (call.withinGroup.getD [])
    (Window.ofClause call.window call.filter kind)

/-- The name prefix of aggregates over a window. -/
def windowPrefix : String := "window_"

/-- A call of a function of some kind. -/
def ofKind (call : Invocation) (kind : FunctionKind) : Except ResolveError Expression :=
  match kind with
  | .aggregate => do
    call.forbid [.withinGroup]
    if call.window.isNone ∧ call.filter.isNone then
      return .aggregate call.distinct call.name call.arguments [] none
    return call.windowed (windowPrefix ++ Case.lower call.name) kind
  | .orderedSetAggregate =>
    if call.window.isNone then
      return .aggregate call.distinct call.name call.arguments (call.withinGroup.getD [])
        call.filter
    else return call.windowed call.name kind
  | .window => do
    call.forbid [.withinGroup]
    return call.windowed call.name kind
  | .scalar | .deterministic => do
    call.forbidAll
    return .call call.name call.arguments

/-- The first argument. -/
def firstArgument (call : Invocation) : Except ResolveError Expression :=
  match call.arguments with
  | [] => .error (.missingArgument call.name)
  | argument :: _ => .ok argument

/-- The first argument, which has to be a path. -/
def firstPath (call : Invocation) : Except ResolveError Path := do
  match ← call.firstArgument with
  | .path path => return path
  | _ => .error (.pathRequired call.name)

/-- The kind of the function that a passed-through call names. Other names are left to the database
as they are written. -/
def passedKind (context : Context) (call : Invocation) : Except ResolveError FunctionKind :=
  match call.arguments with
  | .literal (.string name) :: _ =>
    .ok ((context.registries.functions.kind? (Case.lower name)).getD .deterministic)
  | _ => .error .invalidFunctionName

/-- A call of a function of the language. -/
def ofBuiltin (context : Context) (call : Invocation) (builtin : Builtin) :
    Except ResolveError Expression :=
  match builtin with
  | .moment => do
    call.forbidAll
    return .call call.name []
  | .outer =>
    if context.options.allowOuter then do
      call.forbidAll
      return .call call.name call.arguments
    else .error .outerNotAllowed
  | .scalar => do
    call.forbidAll
    return .call call.name call.arguments
  | .trim => do
    call.forbidAll
    return .trim .both none (← call.firstArgument)
  | .size => do
    call.forbidAll
    let path ← call.firstPath
    return .call call.name
      (.path { path with usedInCollectionFunction := true } :: call.arguments.tail)
  | .access access => do
    call.forbidAll
    let path ← call.firstPath
    return .collection access { path with collectionQualified := true }
  | .typeOf => do
    call.forbidAll
    return .typeOf (← call.firstArgument)
  | .passthrough => do
    call.forbid [.distinct]
    call.ofKind (← call.passedKind context)

/-- What a call means. -/
def resolve (context : Context) (call : Invocation) : Traced ResolveError Expression :=
  match Builtin.ofName? (Case.lower call.name) with
  | some builtin => .ofExcept (call.ofBuiltin context builtin)
  | none =>
    match context.registries.functions.kind? (Case.lower call.name) with
    | some kind => .ofExcept (call.ofKind kind)
    | none => do
      call.forbidAll
      context.expand call.name call.arguments

end Invocation

end QueryExpr
