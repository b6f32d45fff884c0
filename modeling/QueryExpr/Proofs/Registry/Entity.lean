import Mathlib.Data.List.Induction
import QueryExpr.Proofs.Registry.Alias
import QueryExpr.Registry.Entity

/-!
# Looking up entities

What a name means to a registry of entities, said of the entities that were registered and not of
how the registry keeps them. An entity that is registered again takes the place of the earlier one,
but it does not take back the name of a type that the earlier one had. So a name can lead to an
entity that is no longer found under its own name. By `EntityRegistry.lookup_agrees_iff` this is
what a look-up does if and only if it is by the name of a type that the entity has lost.
-/

namespace QueryExpr.EntityRegistry

/-- The registry after some entities were registered, one after another. -/
def ofHistory (history : List EntityType) : EntityRegistry :=
  history.foldl register empty

/-- What a name means where some entities were registered, one after another. -/
inductive Means (history : List EntityType) (name : String) (entity : EntityType) : Prop where
  /-- The last entity of just that name. -/
  | named : IsLast (·.name = name) history entity → Means history name entity
  /-- The last entity with a type of that name, if no entity has the name itself and all that ever
  had such a type are one. -/
  | typed : (∀ other ∈ history, other.name ≠ name) → IsLast (·.typeName = name) history entity →
    (∀ other ∈ history, other.typeName = name → other.name = entity.name) →
    Means history name entity

variable {history : List EntityType} {name : String} {entity : EntityType}

/-- What a name means is an entity of the history. -/
lemma Means.mem (means : Means history name entity) : entity ∈ history := by
  cases means with
  | named last => exact last.mem
  | typed _ last _ => exact last.mem

/-- The claims that some entities make on the names of their types. -/
def claims (history : List EntityType) : List (String × EntityType) :=
  Aliases.claimsOf EntityType.typeName EntityType.name history

/-- If no entity has a name itself, it is claimed by all that have a type of that name. -/
lemma valuesOf_claims (unnamed : ∀ other ∈ history, other.name ≠ name) :
    valuesOf name (claims history) = history.filter fun other => other.typeName = name := by
  rw [claims, Aliases.claimsOf, valuesOf_keyed, List.filter_filter]
  apply List.filter_congr
  intro other member
  by_cases typed : other.typeName = name
  · simp [typed, (unnamed other member).symm]
  · simp [typed]

/-- A history leaves a table of its entities by name and the aliases that its type names claimed. -/
lemma ofHistory_eq (history : List EntityType) :
    (ofHistory history).entities = Table.ofList (history.map fun entity => (entity.name, entity)) ∧
      (ofHistory history).typeNames = Aliases.ofClaims EntityType.name (claims history) := by
  -- a registration comes last, so the induction takes entities off the end of the history
  induction history using List.reverseRecOn with
  | nil => exact ⟨rfl, rfl⟩
  | append_singleton earlier entity ih =>
    obtain ⟨kept, claimed⟩ := ih
    have step : ofHistory (earlier ++ [entity]) = (ofHistory earlier).register entity := by
      rw [ofHistory, List.foldl_append]
      rfl
    rw [step, register, kept, claimed, claims, claims, Aliases.claimsOf_concat]
    constructor
    · rw [Table.ofList, Table.ofList, List.map_append, List.foldl_append]
      rfl
    · split
      · rfl
      · rw [Aliases.ofClaims, Aliases.ofClaims, List.foldl_append]
        rfl

/-- A look-up finds what the name means. -/
lemma get?_iff_means : (ofHistory history).get? name = some entity ↔ Means history name entity := by
  obtain ⟨kept, claimed⟩ := ofHistory_eq history
  rw [get?, kept, claimed, Table.get?_ofList, valuesOf_keyed, Option.or_eq_some_iff,
    getLast?_filter_iff, Aliases.get?_ofClaims]
  simp only [decide_eq_true_iff, List.getLast?_eq_none_iff, List.filter_eq_nil_iff]
  constructor
  · rintro (last | ⟨unnamed, one, last⟩)
    · exact .named last
    · -- all that have the type name claimed it, since it is the name of none
      rw [valuesOf_claims unnamed] at one last
      rw [getLast?_filter_iff] at last
      simp only [decide_eq_true_iff] at last
      refine .typed unnamed last fun other member typed => ?_
      have all := one other (List.mem_filter.2 ⟨member, decide_eq_true typed⟩)
      exact all entity (List.mem_filter.2 ⟨last.mem, decide_eq_true last.1⟩)
  · rintro (last | ⟨unnamed, last, one⟩)
    · exact .inl last
    · refine .inr ⟨unnamed, ?_⟩
      rw [valuesOf_claims unnamed, getLast?_filter_iff]
      simp only [decide_eq_true_iff]
      refine ⟨fun a ha b hb => ?_, last⟩
      obtain ⟨memberA, typedA⟩ := List.mem_filter.1 ha
      obtain ⟨memberB, typedB⟩ := List.mem_filter.1 hb
      have sameA := one a memberA (of_decide_eq_true typedA)
      exact sameA.trans (one b memberB (of_decide_eq_true typedB)).symm

/-- The name of an entity means the last one that was registered under it. -/
lemma exists_current (member : entity ∈ history) :
    ∃ current, (ofHistory history).get? entity.name = some current ∧
      IsLast (·.name = entity.name) history current := by
  have named : history.filter (fun other => other.name = entity.name) ≠ [] :=
    List.ne_nil_of_mem (List.mem_filter.2 ⟨member, decide_eq_true rfl⟩)
  obtain ⟨current, last⟩ := Option.isSome_iff_exists.1 (List.getLast?_isSome.2 named)
  rw [getLast?_filter_iff] at last
  simp only [decide_eq_true_iff] at last
  exact ⟨current, get?_iff_means.2 (.named last), last⟩

/-- An entity that is found under any name has a current registration, which is the last one of its
name and is found under it. This is the entity that was found, unless the look-up was by the name of
a type that the entity has no longer. -/
theorem lookup_agrees_iff (found : (ofHistory history).get? name = some entity) :
    ∃ current, (ofHistory history).get? entity.name = some current ∧
      IsLast (·.name = entity.name) history current ∧
      (current = entity ↔ name = entity.name ∨ current.typeName = name) := by
  have means := get?_iff_means.1 found
  obtain ⟨current, again, last⟩ := exists_current means.mem
  refine ⟨current, again, last, ?_⟩
  cases means with
  | named own =>
    obtain ⟨rfl, -⟩ := own
    have same : current = entity := Option.some.inj (again.symm.trans found)
    exact iff_of_true same (.inl rfl)
  | typed unnamed own _ =>
    obtain ⟨typed, -⟩ := own
    constructor
    · rintro rfl
      exact .inr typed
    · rintro (self | typed')
      · exact absurd self.symm (unnamed entity (get?_iff_means.1 found).mem)
      · -- an entity is its name and its type name
        have sameName : current.name = entity.name := last.1
        have sameType : current.typeName = entity.typeName := typed'.trans typed.symm
        cases current
        cases entity
        exact congr (congrArg EntityType.mk sameName) sameType

/-- An entity that was given another type is still found under the name of the first one. -/
theorem lookup_agrees_iff_replaced :
    let first : EntityType := ⟨"Cat", "com.a.Cat"⟩
    let second : EntityType := ⟨"Cat", "com.b.Cat"⟩
    let registry := ofHistory [first, ⟨"Dog", "com.a.Dog"⟩, second]
    registry.get? "com.a.Cat" = some first ∧ registry.get? first.name = some second ∧
      (second = first ↔ "com.a.Cat" = first.name ∨ second.typeName = "com.a.Cat") := by
  intro first second registry
  have found : registry.get? "com.a.Cat" = some first := by decide
  have again : registry.get? first.name = some second := by decide
  obtain ⟨current, same, -, agrees⟩ := lookup_agrees_iff found
  obtain rfl : current = second := Option.some.inj (same.symm.trans again)
  exact ⟨found, again, agrees⟩

/-- A look-up by the name of a type and one by the name of the entity that it finds need not
agree. -/
theorem replaced_entity_found :
    ¬ ∀ (history : List EntityType) (name : String) (entity : EntityType),
      (ofHistory history).get? name = some entity →
      (ofHistory history).get? entity.name = some entity := by
  intro agree
  have found : (ofHistory [⟨"Cat", "com.a.Cat"⟩, ⟨"Cat", "com.b.Cat"⟩]).get? "com.a.Cat" =
      some ⟨"Cat", "com.a.Cat"⟩ := by decide
  have again : (ofHistory [⟨"Cat", "com.a.Cat"⟩, ⟨"Cat", "com.b.Cat"⟩]).get? "Cat" =
      some ⟨"Cat", "com.b.Cat"⟩ := by decide
  have same := again.symm.trans (agree _ _ _ found)
  exact absurd same (by decide)

end QueryExpr.EntityRegistry
