import QueryExpr.Proofs.Resolve.Arguments

/-!
# Clauses of calls

Which clauses a call of a registered function may carry, and where they stand in the result. The
kind of the function decides both: `FunctionKind.forbidden` lists the clauses that it refuses, and
`Invocation.Renders` says what it makes of a call that carries none of them. By
`Invocation.resolve_registered` these two are all that there is to such a call.
-/

namespace QueryExpr

variable {context : Context}

/-- What is listed and what is found are the same functions of the language. -/
lemma Builtin.ofName?_eq_none_iff {name : String} : ofName? name = none ↔ name ∉ names := by
  unfold ofName?
  split <;> simp_all [names]

/-- The clauses that functions of a kind refuse, in the order in which they are looked for. -/
def FunctionKind.forbidden : FunctionKind → List Clause
  | aggregate | window => [.withinGroup]
  | orderedSetAggregate => []
  | scalar | deterministic => [.distinct, .withinGroup, .filter, .window]

/-- A window that an `OVER` clause and a filter determine. -/
inductive Window.Determined (filter : Option Predicate) : Option WindowClause → Window → Prop where
  | absent : Determined filter none ⟨none, [], [], filter, none⟩
  | named {name} : Determined filter (some (.named name)) ⟨some name, [], [], filter, none⟩
  | inline {name partitionBy orderBy frame} :
    Determined filter (some (.inline name partitionBy orderBy frame))
      ⟨name, partitionBy, orderBy, filter, frame⟩

/-- A call that needs a window has the one that its clause and its filter determine. -/
lemma Window.ofClause_determined {clause filter} {kind : FunctionKind}
    (needed : clause.isSome ∨ filter.isSome ∨ kind = .window) :
    ∃ window, ofClause clause filter kind = some window ∧ window.Determined filter clause := by
  unfold ofClause
  cases clause with
  | none => exact ⟨_, if_pos (needed.resolve_left nofun), .absent⟩
  | some written =>
    cases written with
    | named => exact ⟨_, rfl, .named⟩
    | inline => exact ⟨_, rfl, .inline⟩

namespace Invocation

variable {call : Invocation}

/-- A call is one over a window: always for a window function, with a filter for an aggregate, and
with an `OVER` clause for every aggregate. -/
def IsWindowed (call : Invocation) : FunctionKind → Prop
  | .window => True
  | .aggregate => call.window.isSome ∨ call.filter.isSome
  | .orderedSetAggregate => call.window.isSome
  | .scalar | .deterministic => False

/-- What a function of some kind makes of a call: arguments and clauses stand in it as they are. -/
inductive Renders (call : Invocation) : FunctionKind → Expression → Prop where
  | plain {kind} : kind = .scalar ∨ kind = .deterministic →
    Renders call kind (.function call.name call.arguments [] none)
  | aggregate {kind} : kind = .aggregate ∨ kind = .orderedSetAggregate → ¬ call.IsWindowed kind →
    Renders call kind (.aggregate call.distinct call.name call.arguments
      (call.withinGroup.getD []) call.filter)
  | windowed {kind name arguments window} : call.IsWindowed kind →
    name = (if kind = .aggregate then "window_" ++ Case.lower call.name else call.name) →
    arguments = (if call.distinct then [.string "DISTINCT"] else []) ++ call.arguments →
    window.Determined call.filter call.window →
    Renders call kind (.function name arguments (call.withinGroup.getD []) (some window))

/-- Of some clauses the first that a call carries. -/
def IsFirst (call : Invocation) (clauses : List Clause) (clause : Clause) : Prop :=
  ∃ before after, clauses = before ++ clause :: after ∧ call.carries clause ∧
    ∀ other ∈ before, ¬ call.carries other

/-- A call passes if it carries none of the forbidden clauses. -/
lemma forbid_ok {clauses} :
    call.forbid clauses = .ok () ↔ ∀ clause ∈ clauses, ¬ call.carries clause := by
  rw [← List.find?_eq_none, forbid]
  split
  · next found => simp [found]
  · next none => simp [none]

/-- A call is refused for the first of the forbidden clauses that it carries. -/
lemma forbid_eq_error {clauses error} :
    call.forbid clauses = .error error ↔
      ∃ clause, call.IsFirst clauses clause ∧ error = .illegalClause clause := by
  constructor
  · intro h
    unfold forbid at h
    split at h
    · next clause found =>
      obtain ⟨carried, before, after, same, absent⟩ := List.find?_eq_some_iff_append.1 found
      cases h
      exact ⟨clause, ⟨before, after, same, carried, by simpa using absent⟩, rfl⟩
    · cases h
  · rintro ⟨clause, ⟨before, after, same, carried, absent⟩, rfl⟩
    have found : clauses.find? call.carries = some clause :=
      List.find?_eq_some_iff_append.2 ⟨carried, before, after, same, by simpa using absent⟩
    rw [forbid, found]

/-- Of a call over a window nothing is lost. -/
lemma windowed_renders {kind name} (isWindowed : call.IsWindowed kind)
    (named : name = if kind = .aggregate then "window_" ++ Case.lower call.name else call.name) :
    call.Renders kind (call.windowed name kind) := by
  have clauses : call.window.isSome ∨ call.filter.isSome ∨ kind = .window := by
    cases kind with
    | window => exact .inr (.inr rfl)
    | aggregate => exact isWindowed.imp_right .inl
    | orderedSetAggregate => exact .inl isWindowed
    | scalar | deterministic => exact isWindowed.elim
  obtain ⟨window, same, determined⟩ := Window.ofClause_determined clauses
  have arguments : call.windowedArguments =
      (if call.distinct then [.string "DISTINCT"] else []) ++ call.arguments := by
    unfold windowedArguments
    split <;> rfl
  rw [windowed, same]
  exact .windowed isWindowed named arguments determined

/-- A call is refused if it carries any of the forbidden clauses. -/
lemma forbid_fails_iff {clauses} :
    (∃ error, call.forbid clauses = .error error) ↔ ∃ clause ∈ clauses, call.carries clause := by
  constructor
  · rintro ⟨error, failed⟩
    obtain ⟨clause, ⟨before, after, rfl, carried, -⟩, -⟩ := forbid_eq_error.1 failed
    exact ⟨clause, List.mem_append_right _ (.head _), carried⟩
  · rintro ⟨clause, member, carried⟩
    cases outcome : call.forbid clauses with
    | ok _ => exact absurd carried (forbid_ok.1 outcome clause member)
    | error error => exact ⟨error, rfl⟩

/-- A call that passes where ordering within groups is forbidden has none. -/
lemma withinGroup_eq_none {clauses} (permitted : call.forbid clauses = .ok ())
    (member : Clause.withinGroup ∈ clauses) : call.withinGroup = none := by
  have absent : ¬ call.withinGroup.isSome := forbid_ok.1 permitted _ member
  simpa using absent

/-- A function of some kind refuses what it forbids. -/
lemma ofKind_eq_error {kind error} :
    call.ofKind kind = .error error ↔ call.forbid kind.forbidden = .error error := by
  cases kind with
  | aggregate =>
    refine except_bind_error.trans ⟨?_, .inl⟩
    rintro (failed | ⟨_, -, made⟩)
    · exact failed
    · split at made <;> cases made
  | orderedSetAggregate =>
    constructor
    · intro h
      simp only [ofKind] at h
      split at h <;> cases h
    · intro h
      cases h
  | window | scalar | deterministic =>
    refine except_bind_error.trans ⟨?_, .inl⟩
    rintro (failed | ⟨_, -, made⟩)
    · exact failed
    · cases made

/-- A function of some kind renders the calls that it does not refuse. -/
lemma ofKind_renders {kind e} (h : call.ofKind kind = .ok e) : call.Renders kind e := by
  cases kind with
  | aggregate =>
    have bare : call.window.isNone ∧ call.filter.isNone ↔ ¬ call.IsWindowed .aggregate := by
      simp [IsWindowed]
    obtain ⟨_, permitted, made⟩ := except_bind_ok.1 h
    split at made
    · next undressed =>
      cases made
      -- the aggregate has neither of the clauses that it shows as missing
      have ungrouped : call.withinGroup = none := withinGroup_eq_none permitted (.head _)
      have unfiltered : call.filter = none := Option.isNone_iff_eq_none.1 undressed.2
      have plain := Renders.aggregate (.inl rfl) (bare.1 undressed)
      rwa [ungrouped, unfiltered] at plain
    · next dressed =>
      cases made
      have isWindowed : call.IsWindowed .aggregate :=
        Classical.not_not.1 fun plain => dressed (bare.2 plain)
      exact windowed_renders isWindowed rfl
  | orderedSetAggregate =>
    simp only [ofKind] at h
    split at h
    · next none =>
      cases h
      exact .aggregate (.inr rfl) (by simpa [IsWindowed] using none)
    · next written =>
      cases h
      have isWindowed : call.IsWindowed .orderedSetAggregate := Option.isSome_iff_ne_none.2
        fun none => written (Option.isNone_iff_eq_none.2 none)
      exact windowed_renders isWindowed rfl
  | window =>
    obtain ⟨_, -, made⟩ := except_bind_ok.1 h
    cases made
    exact windowed_renders trivial rfl
  | scalar =>
    obtain ⟨_, -, made⟩ := except_bind_ok.1 h
    cases made
    exact .plain (.inl rfl)
  | deterministic =>
    obtain ⟨_, -, made⟩ := except_bind_ok.1 h
    cases made
    exact .plain (.inr rfl)

/-- A call of a registered function fails if it carries a clause that the kind of the function
forbids, for the first of them. It expands no macro, and without such a clause it is rendered. -/
theorem resolve_registered {kind} (unnamed : Case.lower call.name ∉ Builtin.names)
    (registered : context.registries.functions.kind? (Case.lower call.name) = some kind) :
    ((∃ error, (call.resolve context).result = .error error) ↔
      ∃ clause ∈ kind.forbidden, call.carries clause) ∧
    (∀ error, (call.resolve context).result = .error error →
      ∃ clause, call.IsFirst kind.forbidden clause ∧ error = .illegalClause clause) ∧
    (∀ e, (call.resolve context).result = .ok e → call.Renders kind e) ∧
    (call.resolve context).macros = [] := by
  have resolved : call.resolve context = .ofExcept (call.ofKind kind) := by
    rw [resolve, Builtin.ofName?_eq_none_iff.2 unnamed, registered]
  rw [resolved]
  refine ⟨?_, ?_, ?_, rfl⟩
  · have failed : (∃ error, call.ofKind kind = .error error) ↔
        ∃ error, call.forbid kind.forbidden = .error error := exists_congr fun _ => ofKind_eq_error
    exact failed.trans forbid_fails_iff
  · intro error failed
    exact forbid_eq_error.1 (ofKind_eq_error.1 failed)
  · exact fun e made => ofKind_renders made

/-- A call of an ordered-set aggregate with all clauses. -/
theorem resolve_registered_all :
    let context : Context := ⟨.standard, .standard, Temporal.iso⟩
    let x := Expression.property "x"
    let item : OrderItem := ⟨x, true, false⟩
    let filter := Predicate.positive (.isNull x)
    let call : Invocation :=
      ⟨"LISTAGG", true, [x], some [item], some filter, some (.inline (some "w") [x] [item] none)⟩
    let e := Expression.function "LISTAGG" [.string "DISTINCT", x] [item]
      (some ⟨some "w", [x], [item], some filter, none⟩)
    Case.lower call.name ∉ Builtin.names ∧
      context.registries.functions.kind? (Case.lower call.name) = some .orderedSetAggregate ∧
      (call.resolve context).result = .ok e ∧ call.Renders .orderedSetAggregate e := by
  intro context x item filter call e
  have unnamed : Case.lower call.name ∉ Builtin.names := by decide
  have registered :
      context.registries.functions.kind? (Case.lower call.name) = some .orderedSetAggregate := by
    decide
  have resolved : (call.resolve context).result = .ok e := by
    rw [resolve, Builtin.ofName?_eq_none_iff.2 unnamed, registered]
    rfl
  exact ⟨unnamed, registered, resolved, (resolve_registered unnamed registered).2.2.1 e resolved⟩

end Invocation

end QueryExpr
