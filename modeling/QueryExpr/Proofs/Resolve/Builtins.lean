import QueryExpr.Proofs.Resolve.Naming

/-!
# Functions of the language

The functions of the language are listed, and a call of a name is resolved as one of them exactly if
the lower case of the name is in the list. What is registered makes no difference to such a call: a
call of a listed function reads the options alone, and one that is passed through also the kind of
the function that it is passed to. By `Invocation.resolve_listed` registered functions and macros
are asked for all other names, and for no others.
-/

namespace QueryExpr

variable {name : String}

/-- Only one function of the language passes its calls through. -/
lemma Builtin.ofName?_eq_passthrough : ofName? name = some .passthrough ↔ name = "function" := by
  constructor
  · intro h
    unfold ofName? at h
    split at h <;> simp_all
  · rintro rfl
    rfl

/-- The same context with other kinds of functions and other macros. -/
def Context.withCalls (context : Context) (functions : FunctionRegistry) (macros : MacroRegistry) :
    Context :=
  { context with registries := { context.registries with functions, macros } }

namespace Invocation

variable {call : Invocation} {context other : Context}

/-- A function of the language reads the options of a context, and one that passes a call through
the kind of the function that the call names. -/
lemma ofBuiltin_congr {builtin : Builtin} (options : other.options = context.options)
    (passed : builtin = .passthrough → call.passedKind other = call.passedKind context) :
    call.ofBuiltin other builtin = call.ofBuiltin context builtin := by
  cases builtin with
  | outer => rw [ofBuiltin, options, ofBuiltin]
  | passthrough => rw [ofBuiltin, passed rfl, ofBuiltin]
  | _ => rfl

/-- A call of a listed function reads the options, and at most the kind that it is passed through
with. -/
lemma resolve_congr (listed : Case.lower call.name ∈ Builtin.names)
    (options : other.options = context.options)
    (passed : Case.lower call.name = "function" →
      call.passedKind other = call.passedKind context) :
    call.resolve other = call.resolve context := by
  rw [resolve, resolve]
  cases named : Builtin.ofName? (Case.lower call.name) with
  | none => exact absurd listed (Builtin.ofName?_eq_none_iff.1 named)
  | some builtin =>
    refine congrArg Traced.ofExcept (ofBuiltin_congr options ?_)
    rintro rfl
    exact passed (Builtin.ofName?_eq_passthrough.1 named)

/-- A call of a listed function expands no macro. -/
lemma macros_of_listed (listed : Case.lower call.name ∈ Builtin.names) :
    (call.resolve context).macros = [] := by
  rw [resolve]
  cases named : Builtin.ofName? (Case.lower call.name) with
  | none => exact absurd listed (Builtin.ofName?_eq_none_iff.1 named)
  | some builtin => rfl

/-- The kind that a call is passed through with is that of the function that it names. -/
lemma passedKind_congr
    (same : ∀ passed rest, call.arguments = .literal (.string passed) :: rest →
      other.registries.functions.kind? (Case.lower passed) =
        context.registries.functions.kind? (Case.lower passed)) :
    call.passedKind other = call.passedKind context := by
  unfold passedKind
  split
  · next passed rest named => rw [same passed rest named]
  · rfl

/-- A plain call of a name that is neither a function of the language nor a registered one is left
to the macros. -/
lemma resolve_plain_unregistered (unlisted : Case.lower name ∉ Builtin.names)
    (unregistered : context.registries.functions.kind? (Case.lower name) = none)
    (arguments : List Expression) :
    (plain name arguments).resolve context = context.expand name arguments := by
  have unnamed : Builtin.ofName? (Case.lower (plain name arguments).name) = none :=
    Builtin.ofName?_eq_none_iff.2 unlisted
  have unkinded :
      context.registries.functions.kind? (Case.lower (plain name arguments).name) = none :=
    unregistered
  rw [resolve, unnamed, unkinded]
  rfl

/-- A plain call of a registered scalar function is the call itself. -/
lemma resolve_plain_scalar (unlisted : Case.lower name ∉ Builtin.names)
    (registered : context.registries.functions.kind? (Case.lower name) = some .scalar)
    (arguments : List Expression) :
    (plain name arguments).resolve context = .pure (.call name arguments) := by
  have scalar : (plain name arguments).resolve context =
      .ofExcept ((plain name arguments).ofKind .scalar) := resolve_of_kind unlisted registered
  rw [scalar]
  rfl

end Invocation

/-- A function that is registered has the kind that it was last registered with. -/
lemma FunctionRegistry.kind?_register (registry : FunctionRegistry) (kind : FunctionKind)
    (key : String) : (registry.register name kind).kind? key =
      if key = Case.lower name then some kind else registry.kind? key :=
  Table.get?_insert ..

namespace Invocation

/-- A call of a listed function other than `FUNCTION` is the same whatever functions and macros are
registered, and expands no macro. A plain call of a name that is not listed fails if the name is not
registered either, and is a call of the function with these arguments once the name is registered
for a scalar function. So nothing that is registered under the name of a listed function takes its
calls: only `FUNCTION` asks for a registered kind, of the function that it is passed to. -/
theorem resolve_listed (name : String) :
    (Case.lower name ∈ Builtin.names → Case.lower name ≠ "function" →
      ∀ call : Invocation, call.name = name → ∀ (context : Context) functions macros,
        call.resolve (context.withCalls functions macros) = call.resolve context ∧
        (call.resolve context).macros = []) ∧
    (Case.lower name ∉ Builtin.names → ∀ (context : Context) arguments,
      (context.registries.functions.kind? (Case.lower name) = none →
        context.registries.macros.get? (Case.upper name) = none →
        (plain name arguments).resolve context = .fail (.unresolved name)) ∧
      ∀ macros, (plain name arguments).resolve
        (context.withCalls (context.registries.functions.register name .scalar) macros) =
          .pure (.call name arguments)) ∧
    (Case.lower name ∈ Builtin.names → ∀ call : Invocation, call.name = name →
      (Case.lower name = "function" → ∀ passed rest,
        call.arguments = .literal (.string passed) :: rest → Case.lower passed ≠ "function") →
      ∀ (context : Context) kind expansion,
        call.resolve (context.withCalls (context.registries.functions.register name kind)
          (context.registries.macros.register name expansion)) = call.resolve context) := by
  refine ⟨?listed, ?unlisted, ?shadowed⟩
  case listed =>
    rintro listed own call rfl context functions macros
    exact ⟨resolve_congr listed rfl fun same => absurd same own, macros_of_listed listed⟩
  case unlisted =>
    intro unlisted context arguments
    constructor
    · intro unregistered missing
      rw [resolve_plain_unregistered unlisted unregistered, Context.expand, missing]
    · intro macros
      refine resolve_plain_scalar unlisted ?_ arguments
      exact (FunctionRegistry.kind?_register ..).trans (if_pos rfl)
  case shadowed =>
    rintro listed call rfl elsewhere context kind expansion
    -- only a call that is passed through asks for a kind, and not for that of its own name
    refine resolve_congr listed rfl fun passes => passedKind_congr fun passed rest named => ?_
    refine (FunctionRegistry.kind?_register ..).trans (if_neg ?_)
    rw [passes]
    exact elsewhere passes passed rest named

/-- A listed function under whose name an aggregate and a macro are registered, and a name that is
not listed, first unregistered and then registered for a scalar function. -/
theorem resolve_listed_length :
    let context : Context := ⟨.standard, .standard, Temporal.iso⟩
    let x := Expression.property "x"
    let functions := context.registries.functions.register "Length" .aggregate
    let macros := context.registries.macros.register "Length" StockMacro.first.expand
    let scalar := context.registries.functions.register "soundex" .scalar
    ((plain "Length" [x]).resolve (context.withCalls functions macros)).result =
        .ok (.call "Length" [x]) ∧
      (plain "soundex" [x]).resolve context = .fail (.unresolved "soundex") ∧
      (plain "soundex" [x]).resolve (context.withCalls scalar macros) =
        .pure (.call "soundex" [x]) := by
  intro context x functions macros scalar
  have listed : Case.lower "Length" ∈ Builtin.names := by decide
  have unlisted : Case.lower "soundex" ∉ Builtin.names := by decide
  have unregistered : context.registries.functions.kind? (Case.lower "soundex") = none := by decide
  have own : Case.lower "Length" ≠ "function" := by decide
  have named : Builtin.ofName? (Case.lower (plain "Length" [x]).name) = some .scalar := by decide
  obtain ⟨same, -⟩ := (resolve_listed "Length").1 listed own (plain "Length" [x]) rfl context
    functions macros
  obtain ⟨fails, called⟩ := (resolve_listed "soundex").2.1 unlisted context [x]
  refine ⟨?_, fails unregistered rfl, called macros⟩
  rw [same, resolve, named]
  rfl

end Invocation

end QueryExpr
