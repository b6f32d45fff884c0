import QueryExpr.Proofs.Build.Faults

/-!
# Arguments of calls

What becomes of the arguments of a call. A function of the language that takes one argument or none
ignores the others, as `Builtin.kept` says; by `Invocation.resolve_kept` they make no difference. By
`Invocation.resolve_shows` nothing else is lost: the kept arguments stand in the result in the order
in which they are written.
-/

namespace QueryExpr

variable {context : Context}

/-- An expression with some arguments in their order. Paths are shown up to the flags that a
collection function sets, and a call over a window shows its arguments behind a `DISTINCT`. -/
inductive Expression.Shows : Expression → List Expression → Prop where
  | function {name arguments orderBy window} :
    Shows (.function name arguments orderBy window) arguments
  | distinct {name arguments orderBy window} :
    Shows (.function name (.string "DISTINCT" :: arguments) orderBy window) arguments
  | size {name path rest orderBy window} :
    Shows (.function name (.path { path with usedInCollectionFunction := true } :: rest) orderBy
      window) (.path path :: rest)
  | aggregate {distinct name arguments orderBy filter} :
    Shows (.aggregate distinct name arguments orderBy filter) arguments
  | trim {side operand} : Shows (.trim side none operand) [operand]
  | typeOf {operand} : Shows (.typeOf operand) [operand]
  | access {access path} :
    Shows (.collection access { path with collectionQualified := true }) [.path path]

/-- The arguments that a function of the language has a place for. -/
def Builtin.kept (builtin : Builtin) (arguments : List Expression) : List Expression :=
  match builtin with
  | moment => []
  | trim | typeOf | access _ => arguments.take 1
  | outer | scalar | size | passthrough => arguments

namespace Invocation

variable {call : Invocation} {e : Expression}

/-- The arguments of a call that its function has a place for. -/
def kept (call : Invocation) : List Expression :=
  match Builtin.ofName? (Case.lower call.name) with
  | some builtin => builtin.kept call.arguments
  | none => call.arguments

/-- A call has a first argument if its arguments start with it. -/
lemma firstArgument_ok : call.firstArgument = .ok e ↔ ∃ rest, call.arguments = e :: rest := by
  unfold firstArgument
  split
  · next none =>
    rw [none]
    exact ⟨nofun, nofun⟩
  · next argument rest some =>
    rw [some]
    constructor
    · intro h
      cases h
      exact ⟨rest, rfl⟩
    · rintro ⟨_, same⟩
      cases same
      rfl

/-- A call has a first path if its arguments start with that path. -/
lemma firstPath_ok {path} :
    call.firstPath = .ok path ↔ ∃ rest, call.arguments = .path path :: rest := by
  rw [← firstArgument_ok, firstPath, except_bind_ok]
  constructor
  · rintro ⟨argument, found, same⟩
    cases argument with
    | path => cases same; exact found
    | _ => cases same
  · intro found
    exact ⟨.path path, found, rfl⟩

/-- A call over a window shows its arguments. -/
lemma windowed_shows (name : String) (kind : FunctionKind) :
    (call.windowed name kind).Shows call.arguments := by
  unfold windowed windowedArguments
  split
  · exact .distinct
  · exact .function

/-- A function of any kind keeps all of its arguments. -/
lemma ofKind_shows {kind} (h : call.ofKind kind = .ok e) : e.Shows call.arguments := by
  cases kind with
  | aggregate =>
    obtain ⟨_, -, made⟩ := except_bind_ok.1 h
    split at made
    · cases made; exact .aggregate
    · cases made; exact windowed_shows _ _
  | orderedSetAggregate =>
    simp only [ofKind] at h
    split at h
    · cases h; exact .aggregate
    · cases h; exact windowed_shows _ _
  | window =>
    obtain ⟨_, -, made⟩ := except_bind_ok.1 h
    cases made
    exact windowed_shows _ _
  | scalar | deterministic =>
    obtain ⟨_, -, made⟩ := except_bind_ok.1 h
    cases made
    exact .function

/-- The result of a function of the language shows the arguments that it has a place for. -/
lemma ofBuiltin_shows {builtin} (h : call.ofBuiltin context builtin = .ok e) :
    e.Shows (builtin.kept call.arguments) := by
  cases builtin with
  | moment | scalar =>
    obtain ⟨_, -, made⟩ := except_bind_ok.1 h
    cases made
    exact .function
  | outer =>
    simp only [ofBuiltin] at h
    split at h
    · obtain ⟨_, -, made⟩ := except_bind_ok.1 h
      cases made
      exact .function
    · cases h
  | trim =>
    obtain ⟨_, -, made⟩ := except_bind_ok.1 h
    obtain ⟨operand, first, made⟩ := except_bind_ok.1 made
    obtain ⟨rest, same⟩ := firstArgument_ok.1 first
    cases made
    rw [same]
    exact .trim
  | typeOf =>
    obtain ⟨_, -, made⟩ := except_bind_ok.1 h
    obtain ⟨operand, first, made⟩ := except_bind_ok.1 made
    obtain ⟨rest, same⟩ := firstArgument_ok.1 first
    cases made
    rw [same]
    exact .typeOf
  | size =>
    obtain ⟨_, -, made⟩ := except_bind_ok.1 h
    obtain ⟨path, first, made⟩ := except_bind_ok.1 made
    obtain ⟨rest, same⟩ := firstPath_ok.1 first
    cases made
    rw [same]
    exact .size
  | access =>
    obtain ⟨_, -, made⟩ := except_bind_ok.1 h
    obtain ⟨path, first, made⟩ := except_bind_ok.1 made
    obtain ⟨rest, same⟩ := firstPath_ok.1 first
    cases made
    rw [same]
    exact .access
  | passthrough =>
    obtain ⟨_, -, made⟩ := except_bind_ok.1 h
    obtain ⟨kind, -, made⟩ := except_bind_ok.1 made
    exact ofKind_shows made

/-- The result of a function of the language has no place for an argument that is not kept. -/
lemma kept_of_shows {builtin} (h : call.ofBuiltin context builtin = .ok e)
    (shows : e.Shows call.arguments) : builtin.kept call.arguments = call.arguments := by
  -- the result has a fixed number of places, so showing the arguments tells how many there are
  cases builtin with
  | moment =>
    obtain ⟨_, -, made⟩ := except_bind_ok.1 h
    cases made
    generalize call.arguments = arguments at shows
    cases shows
    rfl
  | trim | typeOf =>
    obtain ⟨_, -, made⟩ := except_bind_ok.1 h
    obtain ⟨first, -, made⟩ := except_bind_ok.1 made
    cases made
    generalize call.arguments = arguments at shows
    cases shows
    rfl
  | access =>
    obtain ⟨_, -, made⟩ := except_bind_ok.1 h
    obtain ⟨first, -, made⟩ := except_bind_ok.1 made
    cases made
    generalize call.arguments = arguments at shows
    generalize { first with collectionQualified := true } = path at shows
    cases shows
    rfl
  | outer | scalar | size | passthrough => rfl

/-- A function of the language makes the same of a call without the arguments that are not kept. -/
lemma ofBuiltin_kept (builtin : Builtin) :
    { call with arguments := builtin.kept call.arguments }.ofBuiltin context builtin =
      call.ofBuiltin context builtin := by
  obtain ⟨name, distinct, arguments, withinGroup, filter, window⟩ := call
  cases builtin with
  | trim | typeOf | access => cases arguments <;> rfl
  | _ => rfl

/-- Arguments that are not kept make no difference. -/
theorem resolve_kept :
    { call with arguments := call.kept }.resolve context = call.resolve context := by
  unfold resolve kept
  cases Builtin.ofName? (Case.lower call.name) with
  | some builtin => exact congrArg Traced.ofExcept (ofBuiltin_kept builtin)
  | none => rfl

/-- The result of a call that is not left to the macros shows the arguments that are kept, and all
arguments only if they all are. -/
theorem resolve_shows (h : (call.resolve context).result = .ok e)
    (plain : context.macroName? call.name = none) :
    e.Shows call.kept ∧ (e.Shows call.arguments ↔ call.kept = call.arguments) := by
  suffices e.Shows call.kept ∧ (e.Shows call.arguments → call.kept = call.arguments) from
    ⟨this.1, this.2, fun all => all ▸ this.1⟩
  obtain ⟨builtin, named, made⟩ | ⟨kind, unnamed, -, made⟩ | ⟨called, -⟩ := resolve_ok h
  · rw [kept, named]
    exact ⟨ofBuiltin_shows made, kept_of_shows made⟩
  · rw [kept, unnamed]
    exact ⟨ofKind_shows made, fun _ => rfl⟩
  · cases plain.symm.trans called

/-- A distinct call over a window shows its arguments behind a `DISTINCT`. -/
theorem resolve_shows_distinct :
    let context : Context := ⟨.standard, .standard, Temporal.iso⟩
    let arguments := [Expression.dotted "c.name", .property "x"]
    let call : Invocation := ⟨"LAG", true, arguments, none, none, some (.named "w")⟩
    let e := Expression.function "LAG" (.string "DISTINCT" :: arguments) []
      (some (.minimal (some "w") none))
    context.macroName? call.name = none ∧ (call.resolve context).result = .ok e ∧
      e.Shows call.arguments := by
  intro context arguments call e
  have plain : context.macroName? call.name = none := by decide
  have unnamed : Builtin.ofName? (Case.lower call.name) = none := by decide
  have registered : context.registries.functions.kind? (Case.lower call.name) = some .window := by
    decide
  have resolved : (call.resolve context).result = .ok e := by
    rw [resolve, unnamed, registered]
    rfl
  have all : call.kept = call.arguments := by
    rw [kept, unnamed]
  exact ⟨plain, resolved, (resolve_shows resolved plain).2.2 all⟩

/-- A second argument of `TRIM` is lost. -/
theorem argument_lost :
    let context : Context := ⟨.empty, .standard, Temporal.iso⟩
    let call := plain "TRIM" [.dotted "c.name", .dotted "c.other"]
    let e := Expression.trim .both none (.dotted "c.name")
    context.macroName? call.name = none ∧ (call.resolve context).result = .ok e ∧
      ¬ e.Shows call.arguments := by
  refine ⟨by decide, rfl, fun shows => ?_⟩
  cases shows

end Invocation

end QueryExpr
