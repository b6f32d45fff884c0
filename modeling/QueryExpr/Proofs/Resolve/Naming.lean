import QueryExpr.Proofs.Resolve.Clauses

/-!
# Calls under another name

What the call of a registered function has to do with its name and its arguments: they stand in the
result and decide nothing else, as `Invocation.Twins.ofKind` says of two calls with the same
clauses. So a function can be called by its own name or by the first argument of a call that is
passed through, and by `Invocation.resolve_passed` both come to the same.
-/

namespace QueryExpr

variable {context : Context}

/-- A clause and a filter determine one window only. -/
lemma Window.Determined.unique {filter clause} {window other : Window}
    (h : window.Determined filter clause) (h' : other.Determined filter clause) :
    window = other := by
  cases h with
  | absent => cases h'; rfl
  | named => cases h'; rfl
  | inline => cases h'; rfl

namespace Invocation

variable {call other : Invocation} {kind : FunctionKind} {name : String}

/-- Calls that differ at most in their names and their arguments. -/
structure Twins (call other : Invocation) : Prop where
  distinct : call.distinct = other.distinct
  withinGroup : call.withinGroup = other.withinGroup
  filter : call.filter = other.filter
  window : call.window = other.window

/-- What two calls are rendered as that differ at most in their names and their arguments. -/
inductive RenderedAlike (call other : Invocation) : Expression → Expression → Prop where
  | aggregate {orderBy filter} :
    RenderedAlike call other (.aggregate call.distinct call.name call.arguments orderBy filter)
      (.aggregate other.distinct other.name other.arguments orderBy filter)
  | plain {orderBy window} :
    RenderedAlike call other (.function call.name call.arguments orderBy window)
      (.function other.name other.arguments orderBy window)
  | windowed {orderBy window} :
    RenderedAlike call other (.function call.name call.windowedArguments orderBy window)
      (.function other.name other.windowedArguments orderBy window)
  | renamed {orderBy window} :
    RenderedAlike call other
      (.function (windowPrefix ++ Case.lower call.name) call.windowedArguments orderBy window)
      (.function (windowPrefix ++ Case.lower other.name) other.windowedArguments orderBy window)

/-- The arguments of a call over a window stand behind its distinct flag. -/
lemma windowedArguments_eq :
    (if call.distinct then [.string "DISTINCT"] else []) ++ call.arguments =
      call.windowedArguments := by
  unfold windowedArguments
  split <;> rfl

namespace Twins

variable (same : call.Twins other)
include same

/-- Calls that are twins carry the same clauses. -/
lemma carries_eq : call.carries = other.carries := by
  funext clause
  cases clause with
  | distinct => exact same.distinct
  | withinGroup => exact congrArg Option.isSome same.withinGroup
  | filter => exact congrArg Option.isSome same.filter
  | window => exact congrArg Option.isSome same.window

/-- Calls that are twins are refused for the same clause. -/
lemma forbid_eq (clauses : List Clause) : call.forbid clauses = other.forbid clauses := by
  rw [forbid, forbid, same.carries_eq]

/-- Calls that are twins are over a window together. -/
lemma isWindowed_iff : call.IsWindowed kind ↔ other.IsWindowed kind := by
  cases kind with
  | window | scalar | deterministic => exact .rfl
  | aggregate => simp only [IsWindowed, same.window, same.filter]
  | orderedSetAggregate => simp only [IsWindowed, same.window]

/-- Twins that are both rendered are rendered alike. -/
lemma rendered {e e'} (first : call.Renders kind e) (second : other.Renders kind e') :
    RenderedAlike call other e e' := by
  -- the kind and the clauses, which both calls share, decide which of the three shapes it is
  cases first with
  | plain scalar =>
    cases second with
    | plain => exact .plain
    | aggregate aggregate =>
      rcases scalar with rfl | rfl <;> rcases aggregate with h | h <;> cases h
    | windowed isWindowed => rcases scalar with rfl | rfl <;> cases isWindowed
  | aggregate aggregate unwindowed =>
    cases second with
    | plain scalar => rcases scalar with rfl | rfl <;> rcases aggregate with h | h <;> cases h
    | aggregate =>
      rw [same.withinGroup, same.filter]
      exact .aggregate
    | windowed isWindowed => exact absurd (same.isWindowed_iff.2 isWindowed) unwindowed
  | windowed isWindowed named arguments determined =>
    cases second with
    | plain scalar => rcases scalar with rfl | rfl <;> cases isWindowed
    | aggregate _ unwindowed => exact absurd (same.isWindowed_iff.1 isWindowed) unwindowed
    | windowed _ named' arguments' determined' =>
      rw [same.filter, same.window] at determined
      obtain rfl := determined.unique determined'
      rw [windowedArguments_eq] at arguments arguments'
      subst named named' arguments arguments'
      rw [same.withinGroup]
      split
      · exact .renamed
      · exact .windowed

/-- Functions of a kind refuse both of two calls with the same clauses, with the same error, or
render them alike. -/
lemma ofKind (kind : FunctionKind) :
    (∀ error, call.ofKind kind = .error error ↔ other.ofKind kind = .error error) ∧
      ∀ e, call.ofKind kind = .ok e →
        ∃ e', other.ofKind kind = .ok e' ∧ RenderedAlike call other e e' := by
  have refused (error) : call.ofKind kind = .error error ↔ other.ofKind kind = .error error := by
    rw [ofKind_eq_error, ofKind_eq_error, same.forbid_eq]
  refine ⟨refused, ?_⟩
  intro e made
  cases outcome : other.ofKind kind with
  | error error => cases made.symm.trans ((refused error).2 outcome)
  | ok e' => exact ⟨e', rfl, same.rendered (ofKind_renders made) (ofKind_renders outcome)⟩

end Twins

/-- The call of a function by its name as the first argument of a call that is passed through. -/
def passed (call : Invocation) (name : String) : Invocation :=
  { call with name, arguments := .string call.name :: call.arguments }

/-- What a passed call is rendered as beside the direct call of the function: the same node, with
the name of the function as a string before the other arguments. -/
inductive PassedAs (written name : String) : Expression → Expression → Prop where
  | aggregate {arguments orderBy filter} :
    PassedAs written name (.aggregate false written arguments orderBy filter)
      (.aggregate false name (.string written :: arguments) orderBy filter)
  | function {arguments orderBy window} :
    PassedAs written name (.function written arguments orderBy window)
      (.function name (.string written :: arguments) orderBy window)
  | windowed {arguments orderBy window} :
    PassedAs written name (.function ("window_" ++ Case.lower written) arguments orderBy window)
      (.function "window_function" (.string written :: arguments) orderBy window)

/-- A call is a twin of the call that passes it through. -/
lemma twins_passed : call.Twins (call.passed name) := ⟨rfl, rfl, rfl, rfl⟩

/-- Without a distinct flag, a call that is rendered like the passed one stands beside it with the
name before its arguments. -/
lemma RenderedAlike.passedAs {e e'} (passes : Case.lower name = "function")
    (plain : call.distinct = false) (alike : RenderedAlike call (call.passed name) e e') :
    PassedAs call.name name e e' := by
  obtain ⟨written, distinct, arguments, withinGroup, filter, window⟩ := call
  obtain rfl : distinct = false := plain
  cases alike with
  | aggregate => exact .aggregate
  | plain => exact .function
  | windowed => exact .function
  | renamed =>
    have named : windowPrefix ++ Case.lower name = "window_function" := by
      rw [passes]
      decide
    show PassedAs _ _ _ (.function (windowPrefix ++ Case.lower name) _ _ _)
    rw [named]
    exact .windowed

/-- A call of a registered function is what its kind makes of it. -/
lemma resolve_of_kind (unnamed : Case.lower call.name ∉ Builtin.names)
    (registered : context.registries.functions.kind? (Case.lower call.name) = some kind) :
    call.resolve context = .ofExcept (call.ofKind kind) := by
  rw [resolve, Builtin.ofName?_eq_none_iff.2 unnamed, registered]

/-- A passed call is one of the kind that is registered for the function it names. -/
lemma resolve_passed_eq (passes : Case.lower name = "function") :
    (call.passed name).resolve context = .ofExcept (do
      call.forbid [.distinct]
      (call.passed name).ofKind
        ((context.registries.functions.kind? (Case.lower call.name)).getD .deterministic)) := by
  have named : Builtin.ofName? (Case.lower (call.passed name).name) = some .passthrough := by
    show Builtin.ofName? (Case.lower name) = _
    rw [passes]
    rfl
  rw [resolve, named]
  rfl

/-- A deterministic function takes the calls without clauses. -/
lemma ofKind_deterministic_iff :
    (∃ e, call.ofKind .deterministic = .ok e) ↔ ∀ clause, ¬ call.carries clause := by
  have all : ∀ clause, clause ∈ FunctionKind.deterministic.forbidden := by
    intro clause
    cases clause <;> decide
  constructor
  · rintro ⟨e, made⟩ clause carried
    obtain ⟨error, failed⟩ := forbid_fails_iff.2 ⟨clause, all clause, carried⟩
    cases made.symm.trans (ofKind_eq_error.2 failed)
  · intro bare
    cases outcome : call.ofKind .deterministic with
    | ok e => exact ⟨e, rfl⟩
    | error error =>
      obtain ⟨clause, -, carried⟩ := forbid_fails_iff.1 ⟨error, ofKind_eq_error.1 outcome⟩
      exact absurd carried (bare clause)

/-- A call without `DISTINCT` is passed through like the direct call of the function that it names.
If no such function is registered, exactly the calls without clauses are. No macro is expanded. -/
theorem resolve_passed (passes : Case.lower name = "function") :
    (Case.lower call.name ∉ Builtin.names →
      (context.registries.functions.kind? (Case.lower call.name)).isSome →
      call.distinct = false →
      (∀ error, ((call.passed name).resolve context).result = .error error ↔
        (call.resolve context).result = .error error) ∧
      ∀ e, (call.resolve context).result = .ok e →
        ∃ e', ((call.passed name).resolve context).result = .ok e' ∧
          PassedAs call.name name e e') ∧
    (context.registries.functions.kind? (Case.lower call.name) = none →
      ((∃ e, ((call.passed name).resolve context).result = .ok e) ↔
        ∀ clause, ¬ call.carries clause)) ∧
    ((call.passed name).resolve context).macros = [] := by
  have same : call.Twins (call.passed name) := twins_passed
  rw [resolve_passed_eq passes]
  refine ⟨?_, ?_, rfl⟩
  · intro unnamed registered plain
    obtain ⟨kind, found⟩ := Option.isSome_iff_exists.1 registered
    have permitted : call.forbid [.distinct] = .ok () := forbid_ok.2 (by simp [carries, plain])
    rw [resolve_of_kind unnamed found, found, permitted]
    obtain ⟨refused, rendered⟩ := same.ofKind kind
    constructor
    · intro error
      exact (refused error).symm
    · intro e made
      obtain ⟨e', made', alike⟩ := rendered e made
      exact ⟨e', made', alike.passedAs passes plain⟩
  · intro unregistered
    -- a name that is not registered is passed through as that of a deterministic function
    rw [unregistered]
    constructor
    · rintro ⟨e, made⟩
      obtain ⟨_, -, made⟩ := except_bind_ok.1 made
      rw [same.carries_eq]
      exact ofKind_deterministic_iff.1 ⟨e, made⟩
    · intro bare
      have permitted : call.forbid [.distinct] = .ok () := forbid_ok.2 fun clause _ => bare clause
      rw [same.carries_eq] at bare
      obtain ⟨e, made⟩ := ofKind_deterministic_iff.2 bare
      exact ⟨e, except_bind_ok.2 ⟨(), permitted, made⟩⟩

/-- An aggregate with a filter, and a function that is not registered. -/
theorem resolve_passed_sum :
    let context : Context := ⟨.standard, .standard, Temporal.iso⟩
    let x := Expression.property "x"
    let filter := Predicate.positive (.isNull x)
    let window := Window.minimal none (some filter)
    let sum : Invocation := ⟨"Sum", false, [x], none, some filter, none⟩
    let soundex := plain "soundex" [x]
    (Case.lower "Function" = "function" ∧ Case.lower sum.name ∉ Builtin.names ∧
      context.registries.functions.kind? (Case.lower sum.name) = some .aggregate ∧
      context.registries.functions.kind? (Case.lower soundex.name) = none) ∧
    (∃ e', ((sum.passed "Function").resolve context).result = .ok e' ∧
      PassedAs "Sum" "Function" (.function "window_sum" [x] [] (some window)) e') ∧
    ∃ e, ((soundex.passed "Function").resolve context).result = .ok e := by
  intro context x filter window sum soundex
  have passes : Case.lower "Function" = "function" := by decide
  have unnamed : Case.lower sum.name ∉ Builtin.names := by decide
  have registered :
      context.registries.functions.kind? (Case.lower sum.name) = some .aggregate := by decide
  have unregistered : context.registries.functions.kind? (Case.lower soundex.name) = none := by
    decide
  have direct :
      (sum.resolve context).result = .ok (.function "window_sum" [x] [] (some window)) := by
    have written : "window_" ++ Case.lower "Sum" = "window_sum" := by decide
    rw [resolve_of_kind unnamed registered, ← written]
    rfl
  have isSome : (context.registries.functions.kind? (Case.lower sum.name)).isSome := by
    rw [registered]
    rfl
  have bare : ∀ clause, ¬ soundex.carries clause := by
    intro clause
    cases clause <;> exact Bool.false_ne_true
  refine ⟨⟨passes, unnamed, registered, unregistered⟩, ?_, ?_⟩
  · exact ((resolve_passed passes).1 unnamed isSome rfl).2 _ direct
  · exact ((resolve_passed passes).2.1 unregistered).2 bare

end Invocation

end QueryExpr
