import Mathlib.Data.List.Induction
import QueryExpr.Proofs.Registry.Alias
import QueryExpr.Registry.Enum

/-!
# Registered enum types

What holds of a registry however the types in it were registered. A type is kept under its own name,
and an alias leads to the current registration of the type that claims it, also after that type was
registered anew. So the constants that are found under a name are constants of the type that is
found under its full name.
-/

namespace QueryExpr

/-- A call that registers an enum type. -/
inductive EnumRegistration where
  | plain (type : EnumType)
  | literal (type : EnumType)

namespace EnumRegistry

/-- The registry after one more call. -/
def record (registry : EnumRegistry) : EnumRegistration → EnumRegistry
  | .plain type => registry.register type
  | .literal type => registry.registerLiteral type

/-- The registry after some calls, one after another. -/
def ofHistory (history : List EnumRegistration) : EnumRegistry :=
  history.foldl record empty

/-- The last call is made to the registry that the earlier ones left behind. -/
lemma ofHistory_concat (earlier : List EnumRegistration) (call : EnumRegistration) :
    ofHistory (earlier ++ [call]) = (ofHistory earlier).record call :=
  List.foldl_append

/-- Types are kept under their names, and aliases lead to types that are kept. -/
structure Coherent (registry : EnumRegistry) : Prop where
  named : ∀ name type, registry.types.get? name = some type → type.name = name
  current : ∀ name type, registry.simpleNames.get? name = some type →
    registry.types.get? type.name = some type ∧ type.simpleName = name ∧
      type.simpleName ≠ type.name
  dropped : registry.simpleNames.Dropped

namespace Coherent

variable {registry : EnumRegistry}

/-- A registry without types is coherent. -/
lemma empty : EnumRegistry.empty.Coherent where
  named _ _ := nofun
  current _ _ := nofun
  dropped := Aliases.dropped_empty

/-- The types of a registry with one more. -/
lemma named_insert (coherent : registry.Coherent) (type : EnumType) {name found}
    (h : (registry.types.insert type.name type).get? name = some found) : found.name = name := by
  rw [Table.get?_insert] at h
  split at h
  · next same =>
    cases h
    exact same.symm
  · exact coherent.named name found h

/-- An alias of another type leads where it led. -/
lemma current_insert (coherent : registry.Coherent) {type found : EnumType} {name}
    (h : registry.simpleNames.get? name = some found) (other : found.name ≠ type.name) :
    (registry.types.insert type.name type).get? found.name = some found ∧
      found.simpleName = name ∧ found.simpleName ≠ found.name := by
  rw [Table.get?_insert, if_neg other]
  exact coherent.current name found h

/-- A coherent registry stays coherent when a type is registered. -/
lemma register (coherent : registry.Coherent) (type : EnumType) :
    (registry.register type).Coherent := by
  unfold EnumRegistry.register
  by_cases own : type.simpleName = type.name
  · rw [if_pos own]
    refine ⟨fun _ _ => coherent.named_insert type, fun name found h => ?_, coherent.dropped⟩
    -- a type of the same name would have no alias either
    refine coherent.current_insert h fun same => ?_
    obtain ⟨-, -, aliased⟩ := coherent.current name found h
    rw [EnumType.simpleName, same] at aliased
    exact aliased own
  · rw [if_neg own]
    refine ⟨fun _ _ => coherent.named_insert type, fun name found h => ?_,
      coherent.dropped.claim _ _ _⟩
    by_cases claimed : name = type.simpleName
    · subst claimed
      obtain rfl := Aliases.get?_claim_self coherent.dropped h
      exact ⟨(Table.get?_insert ..).trans (if_pos rfl), rfl, own⟩
    · rw [Aliases.get?_claim_of_ne claimed] at h
      refine coherent.current_insert h fun same => claimed ?_
      obtain ⟨-, rfl, -⟩ := coherent.current name found h
      rw [EnumType.simpleName, EnumType.simpleName, same]

/-- One call keeps a registry coherent. -/
lemma record (coherent : registry.Coherent) (call : EnumRegistration) :
    (registry.record call).Coherent := by
  cases call with
  | plain type => exact coherent.register type
  | literal type =>
    have same : Coherent { registry with literalNames := type.name :: registry.literalNames } :=
      ⟨coherent.named, coherent.current, coherent.dropped⟩
    exact same.register type

/-- Every registry is coherent. -/
theorem ofHistory (history : List EnumRegistration) :
    (EnumRegistry.ofHistory history).Coherent := by
  induction history using List.reverseRecOn with
  | nil => exact empty
  | append_singleton earlier call ih =>
    rw [ofHistory_concat]
    exact ih.record call

/-- A type that is found under any name is found under its own. -/
lemma get?_name (coherent : registry.Coherent) {name : String} {type : EnumType}
    (h : registry.get? name = some type) : registry.get? type.name = some type := by
  have kept : registry.types.get? type.name = some type := by
    obtain found | ⟨-, found⟩ := Option.or_eq_some_iff.1 h
    · rwa [coherent.named name type found]
    · exact (coherent.current name type found).1
  exact Option.or_eq_some_iff.2 (.inl kept)

end Coherent

/-- A registered type has a constant, at the first position at which it stands. The type is written
inline or not. -/
def Holds (registry : EnumRegistry) (literal : Bool) (value : EnumValue) : Prop :=
  ∃ type, registry.get? value.typeName = some type ∧ type.name = value.typeName ∧
    type.constants[value.ordinal]? = some value.constant ∧
    (∀ earlier < value.ordinal, type.constants[earlier]? ≠ some value.constant) ∧
    registry.isLiteral type = literal

end EnumRegistry

/-- The value of a constant has its first position. -/
lemma EnumType.value?_eq_some {type : EnumType} {constant : String} {value : EnumValue}
    (h : type.value? constant = some value) :
    value.typeName = type.name ∧ value.constant = constant ∧
      type.constants[value.ordinal]? = some constant ∧
      ∀ earlier < value.ordinal, type.constants[earlier]? ≠ some constant := by
  obtain ⟨ordinal, found, rfl⟩ := Option.map_eq_some_iff.1 h
  obtain ⟨bound, here, before⟩ := List.findIdx?_eq_some_iff_getElem.1 found
  refine ⟨rfl, rfl, ?_, fun earlier less same => ?_⟩
  · exact List.getElem?_eq_some_iff.2 ⟨bound, beq_iff_eq.1 here⟩
  · obtain ⟨_, there⟩ := List.getElem?_eq_some_iff.1 same
    exact before earlier less (beq_iff_eq.2 there)

/-- What is found for a constant under any name of its type is a constant of the type that has the
name in the value. -/
lemma EnumRegistry.Coherent.holds {registry : EnumRegistry} (coherent : registry.Coherent)
    {name constant : String} {type : EnumType} {value : EnumValue}
    (found : registry.get? name = some type) (known : type.value? constant = some value) :
    registry.Holds (registry.isLiteral type) value := by
  obtain ⟨typeName, rfl, here, before⟩ := EnumType.value?_eq_some known
  exact ⟨type, typeName ▸ coherent.get?_name found, typeName.symm, here, before, rfl⟩

end QueryExpr
