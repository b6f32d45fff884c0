import QueryExpr.Proofs.Resolve.Naming
import QueryExpr.Proofs.Text.Case

/-!
# Spelling of names

Names of functions and macros are looked up without regard to the case of their letters, and shown
as they are written. So by `Invocation.resolve_respelled` a call whose name is spelled another way
comes to the same but for the spelling, and so do a call that is passed through to a function whose
name is spelled another way, and the expansion of a macro.
-/

namespace QueryExpr

variable {context : Context} {name other : String}

/-- A written name, with another one in the place of a name. -/
def respell (name other written : String) : String :=
  if written = name then other else written

/-- A name gives way to the other one. -/
lemma respell_self : respell name other name = other := if_pos rfl

/-- A call of a name as a call of another one. -/
def Expression.respelled (name other : String) : Expression → Expression
  | .function written arguments orderBy window =>
    .function (respell name other written) arguments orderBy window
  | .aggregate distinct written arguments orderBy filter =>
    .aggregate distinct (respell name other written) arguments orderBy filter
  | e => e

/-- A call with another first argument. -/
def Expression.withFirst (e argument : Expression) : Expression :=
  match e with
  | .function written arguments orderBy window =>
    .function written (argument :: arguments.tail) orderBy window
  | .aggregate distinct written arguments orderBy filter =>
    .aggregate distinct written (argument :: arguments.tail) orderBy filter
  | e => e

/-- An error about a name as an error about another one. -/
def ResolveError.respelled (name other : String) : ResolveError → ResolveError
  | .unresolved written => .unresolved (respell name other written)
  | .pathRequired written => .pathRequired (respell name other written)
  | .missingArgument written => .missingArgument (respell name other written)
  | error => error

namespace Invocation

variable {call : Invocation} {clauses : List Clause}

/-- The call by another name. -/
def called (call : Invocation) (other : String) : Invocation :=
  { call with name := other }

/-- An outcome with a name spelled another way. -/
def respelled (name other : String) (outcome : Except ResolveError Expression) :
    Except ResolveError Expression :=
  (outcome.mapError (.respelled name other)).map (.respelled name other)

/-- A step that is respelled is respelled in both its halves. -/
lemma respelled_bind {α : Type} {r : Except ResolveError α}
    {f : α → Except ResolveError Expression} :
    respelled name other (r >>= f) =
      r.mapError (.respelled name other) >>= fun a => respelled name other (f a) := by
  cases r <;> rfl

/-- The name of a call does not decide which clauses it may carry. -/
lemma forbid_called : (call.called other).forbid clauses = call.forbid clauses := rfl

/-- A refusal for a clause does not show the name. -/
lemma forbid_respelled :
    (call.forbid clauses).mapError (.respelled name other) = call.forbid clauses := by
  unfold forbid
  split <;> rfl

/-- A refusal to pass a call through does not show the name. -/
lemma passedKind_respelled :
    (call.passedKind context).mapError (.respelled name other) = call.passedKind context := by
  unfold passedKind
  split <;> rfl

/-- A first argument is missed in the name that the call is made by. -/
lemma firstArgument_called :
    (call.called other).firstArgument =
      call.firstArgument.mapError (.respelled call.name other) := by
  have missing : ResolveError.missingArgument other =
      (ResolveError.missingArgument call.name).respelled call.name other :=
    congrArg _ respell_self.symm
  obtain ⟨written, distinct, arguments, withinGroup, filter, window⟩ := call
  cases arguments with
  | nil => exact congrArg Except.error missing
  | cons => rfl

/-- A first path is missed in the name that the call is made by. -/
lemma firstPath_called :
    (call.called other).firstPath = call.firstPath.mapError (.respelled call.name other) := by
  have required : ResolveError.pathRequired other =
      (ResolveError.pathRequired call.name).respelled call.name other :=
    congrArg _ respell_self.symm
  rw [firstPath, firstArgument_called, firstPath]
  cases call.firstArgument with
  | error error => rfl
  | ok e =>
    cases e with
    | path => rfl
    | _ => exact congrArg Except.error required

/-- The name of an aggregate over a window is longer than that of the aggregate. -/
lemma respell_windowPrefix (ascii : ∀ c ∈ name.toList, c.toNat < 128) :
    respell name other (windowPrefix ++ Case.lower name) = windowPrefix ++ Case.lower name := by
  apply if_neg
  intro h
  have length := congrArg String.length h
  have seven : windowPrefix.length = 7 := by decide
  rw [String.length_append, Case.length_lower ascii] at length
  omega

/-- Calls by two spellings of a name are rendered alike up to the spelling. -/
lemma RenderedAlike.respelled {e e'} (same : Case.Respelled call.name other)
    (alike : RenderedAlike call (call.called other) e e') : e' = e.respelled call.name other := by
  cases alike with
  | aggregate =>
    rw [Expression.respelled, respell_self]
    rfl
  | plain =>
    rw [Expression.respelled, respell_self]
    rfl
  | windowed =>
    rw [Expression.respelled, respell_self]
    rfl
  | renamed =>
    rw [Expression.respelled, respell_windowPrefix same.ascii, ← same.lower]
    rfl

/-- A registered function takes a call by another spelling up to the spelling. -/
lemma ofKind_called {kind} (same : Case.Respelled call.name other) :
    (call.called other).ofKind kind = respelled call.name other (call.ofKind kind) := by
  have twins : call.Twins (call.called other) := ⟨rfl, rfl, rfl, rfl⟩
  obtain ⟨refused, rendered⟩ := twins.ofKind kind
  cases outcome : call.ofKind kind with
  | error error =>
    -- what a kind refuses is a clause, and no name is shown
    obtain ⟨clause, -, rfl⟩ := forbid_eq_error.1 (ofKind_eq_error.1 outcome)
    exact (refused _).1 outcome
  | ok e =>
    obtain ⟨e', made, alike⟩ := rendered e outcome
    rw [made, alike.respelled same]
    rfl

/-- A plain call is respelled by its name alone. -/
lemma respelled_call {arguments} :
    respelled name other (pure (.call name arguments)) = pure (.call other arguments) := by
  show Except.ok (Expression.function (respell name other name) _ _ _) = _
  rw [respell_self]
  rfl

/-- A function of the language takes a call by another spelling up to the spelling. -/
lemma ofBuiltin_called {builtin} (same : Case.Respelled call.name other) :
    (call.called other).ofBuiltin context builtin =
      respelled call.name other (call.ofBuiltin context builtin) := by
  cases builtin with
  | moment | scalar =>
    simp only [ofBuiltin, forbidAll, respelled_bind, forbid_respelled, forbid_called]
    exact bind_congr fun _ => respelled_call.symm
  | outer =>
    simp only [ofBuiltin]
    split
    · simp only [forbidAll, respelled_bind, forbid_respelled, forbid_called]
      exact bind_congr fun _ => respelled_call.symm
    · rfl
  | trim | typeOf =>
    simp only [ofBuiltin, forbidAll, respelled_bind, forbid_respelled, forbid_called,
      firstArgument_called]
    rfl
  | size =>
    simp only [ofBuiltin, forbidAll, respelled_bind, forbid_respelled, forbid_called,
      firstPath_called]
    exact bind_congr fun _ => bind_congr fun _ => respelled_call.symm
  | access =>
    simp only [ofBuiltin, forbidAll, respelled_bind, forbid_respelled, forbid_called,
      firstPath_called]
    rfl
  | passthrough =>
    simp only [ofBuiltin, respelled_bind, forbid_respelled, forbid_called, passedKind_respelled]
    exact bind_congr fun _ => bind_congr fun _ => ofKind_called same

/-- Passed calls by two spellings are rendered alike up to the first argument. -/
lemma RenderedAlike.withFirst {e e'} (plain : call.distinct = false)
    (alike : RenderedAlike (call.passed name) ((call.called other).passed name) e e') :
    e' = e.withFirst (.string other) := by
  obtain ⟨written, distinct, arguments, withinGroup, filter, window⟩ := call
  obtain rfl : distinct = false := plain
  cases alike with
  | aggregate | plain | windowed | renamed => rfl

/-- A registered function takes a passed call by another spelling up to the first argument. -/
lemma ofKind_passed_called {kind} (plain : call.distinct = false) :
    ((call.called other).passed name).ofKind kind =
      ((call.passed name).ofKind kind).map (·.withFirst (.string other)) := by
  have twins : (call.passed name).Twins ((call.called other).passed name) := ⟨rfl, rfl, rfl, rfl⟩
  obtain ⟨refused, rendered⟩ := twins.ofKind kind
  cases outcome : (call.passed name).ofKind kind with
  | error error => exact (refused error).1 outcome
  | ok e =>
    obtain ⟨e', made, alike⟩ := rendered e outcome
    rw [made, alike.withFirst plain]
    rfl

/-- A passed call by another spelling is resolved alike up to the first argument. -/
lemma resolve_passed_called (same : Case.Respelled call.name other)
    (passes : Case.lower name = "function") :
    ((call.called other).passed name).resolve context =
      ⟨((call.passed name).resolve context).result.map (·.withFirst (.string other)),
        ((call.passed name).resolve context).macros⟩ := by
  have lower : Case.lower (call.called other).name = Case.lower call.name := same.lower
  rw [resolve_passed_eq passes, resolve_passed_eq passes, forbid_called, lower]
  cases permitted : call.forbid [.distinct] with
  | error error => rfl
  | ok _ =>
    have plain : call.distinct = false := by
      simpa [carries] using forbid_ok.1 permitted
    exact congrArg Traced.ofExcept (ofKind_passed_called plain)

end Invocation

/-- A macro is expanded by any spelling of its name, and missed in the given one. -/
lemma Context.expand_respelled (same : Case.Respelled name other) (arguments : List Expression) :
    context.expand other arguments =
      (context.expand name arguments).mapError (.respelled name other) := by
  unfold expand
  rw [same.upper]
  cases context.registries.macros.get? (Case.upper name) with
  | none =>
    show Traced.fail (ResolveError.unresolved other) =
      .fail (.unresolved (respell name other name))
    rw [respell_self]
  | some expansion =>
    show Traced.expanded _ ((expansion arguments).mapError _) =
      .expanded _ (((expansion arguments).mapError _).mapError _)
    cases expansion arguments <;> rfl

namespace Invocation

variable {call : Invocation}

/-- A call by another spelling is resolved alike up to the spelling, unless it is left to the
macros. -/
lemma resolve_called (same : Case.Respelled call.name other)
    (plain : context.macroName? call.name = none) :
    (call.called other).resolve context =
      ⟨respelled call.name other (call.resolve context).result, (call.resolve context).macros⟩ := by
  have lower : Case.lower (call.called other).name = Case.lower call.name := same.lower
  rw [resolve, resolve, lower]
  cases named : Builtin.ofName? (Case.lower call.name) with
  | some builtin => exact congrArg Traced.ofExcept (ofBuiltin_called same)
  | none =>
    cases registered : context.registries.functions.kind? (Case.lower call.name) with
    | some kind => exact congrArg Traced.ofExcept (ofKind_called same)
    | none => cases plain.symm.trans (if_pos ⟨named, registered⟩)

/-- A call that is left to the macros is respelled in its errors only. -/
lemma resolve_called_macro (same : Case.Respelled call.name other)
    (left : context.macroName? call.name ≠ none) :
    (call.called other).resolve context =
      (call.resolve context).mapError (.respelled call.name other) := by
  obtain ⟨unnamed, unregistered⟩ : Builtin.ofName? (Case.lower call.name) = none ∧
      context.registries.functions.kind? (Case.lower call.name) = none :=
    Classical.byContradiction fun known => left (if_neg known)
  have lower : Case.lower (call.called other).name = Case.lower call.name := same.lower
  rw [resolve, resolve, lower, unnamed, unregistered]
  show (liftM call.forbidAll >>= fun _ => context.expand other call.arguments) =
    Traced.mapError _ (liftM call.forbidAll >>= fun _ => context.expand call.name call.arguments)
  cases permitted : call.forbidAll with
  | error error =>
    obtain ⟨clause, -, rfl⟩ := forbid_eq_error.1 permitted
    rfl
  | ok _ =>
    rw [Context.expand_respelled same]
    rfl

/-- The letter case of a name makes no difference but to the name as it is shown: to the name of a
call, which is shown in the call and in errors about it, and not in what a macro makes of it; to the
name of a function that a call is passed through to, which is shown as its first argument; and to
the name of a macro. -/
theorem resolve_respelled (same : Case.Respelled name other) :
    (∀ call : Invocation, call.name = name →
      (context.macroName? name = none → (call.called other).resolve context =
        ⟨respelled name other (call.resolve context).result, (call.resolve context).macros⟩) ∧
      (context.macroName? name ≠ none → (call.called other).resolve context =
        (call.resolve context).mapError (.respelled name other))) ∧
    (∀ (call : Invocation) (passage : String), call.name = name →
      Case.lower passage = "function" → ((call.called other).passed passage).resolve context =
        ⟨((call.passed passage).resolve context).result.map (·.withFirst (.string other)),
          ((call.passed passage).resolve context).macros⟩) ∧
    ∀ arguments, context.expand other arguments =
      (context.expand name arguments).mapError (.respelled name other) := by
  refine ⟨?_, ?_, ?_⟩
  · rintro call rfl
    exact ⟨resolve_called same, resolve_called_macro same⟩
  · rintro call passage rfl passes
    exact resolve_passed_called same passes
  · exact Context.expand_respelled same

/-- An aggregate shows its name as it is spelled, also where it is passed through. -/
theorem resolve_respelled_sum :
    let context : Context := ⟨.standard, .standard, Temporal.iso⟩
    let x := Expression.property "x"
    let call : Invocation := plain "Sum" [x]
    let passed (name : String) := Expression.aggregate false "FUNCTION" [.string name, x] [] none
    Case.Respelled "Sum" "sUM" ∧ Case.lower "FUNCTION" = "function" ∧
      ((call.called "sUM").resolve context).result = .ok (.aggregate false "sUM" [x] [] none) ∧
      (((call.called "sUM").passed "FUNCTION").resolve context).result = .ok (passed "sUM") := by
  intro context x call passed
  have same : Case.Respelled "Sum" "sUM" := ⟨by simp, by simp, by decide⟩
  have passes : Case.lower "FUNCTION" = "function" := by decide
  have unnamed : Case.lower call.name ∉ Builtin.names := by decide
  have registered :
      context.registries.functions.kind? (Case.lower call.name) = some .aggregate := by decide
  have left : context.macroName? "Sum" = none := by decide
  obtain ⟨named, passage, -⟩ := @resolve_respelled context _ _ same
  refine ⟨same, passes, ?_, ?_⟩
  · rw [(named call rfl).1 left, resolve_of_kind unnamed registered]
    rfl
  · rw [passage call "FUNCTION" rfl passes, resolve_passed_eq passes, registered]
    rfl

end Invocation

end QueryExpr
