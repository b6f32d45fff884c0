import QueryExpr.Proofs.Registry.Enum
import QueryExpr.Proofs.Text.Dotted

/-!
# Looking up enum types

What a name means to a registry, said of the types that were registered and not of how the registry
keeps them. `EnumRegistry.Means` gives the rule: the last type that was registered under just that
name, or else the one type whose dotted name ends in it. By `EnumRegistry.get?_iff_means` a look-up
follows the rule whatever was registered and in whatever order.
-/

namespace QueryExpr

/-- The type that a call registers. -/
def EnumRegistration.type : EnumRegistration → EnumType
  | plain type | literal type => type

/-- The name of a type is dotted, and ends in a simple name. -/
def EnumType.EndsIn (type : EnumType) (simple : String) : Prop :=
  ∃ owner, type.name = owner ++ "." ++ simple ∧ '.' ∉ simple.toList

/-- A name ends in the simple name that its type claims, unless it is that name itself. -/
lemma EnumType.endsIn_iff {type : EnumType} {simple : String} :
    type.EndsIn simple ↔ type.simpleName = simple ∧ type.simpleName ≠ type.name := by
  unfold EndsIn simpleName Dotted.simpleName
  cases split : Dotted.owner? type.name with
  | none =>
    refine iff_of_false (fun ⟨owner, dotted⟩ => ?_) fun h => h.2 rfl
    cases split.symm.trans (Dotted.owner?_eq_some_iff.2 dotted)
  | some parts =>
    obtain ⟨owner, last⟩ := parts
    obtain ⟨dotted, clean⟩ := Dotted.owner?_eq_some_iff.1 split
    constructor
    · rintro ⟨other, h⟩
      have parts := Option.some.inj (split.symm.trans (Dotted.owner?_eq_some_iff.2 h))
      refine ⟨congrArg Prod.snd parts, fun same => clean ?_⟩
      -- a last segment that is the whole name has the dot in it
      have whole : last = owner ++ "." ++ last := Eq.trans same dotted
      rw [whole]
      simp
    · rintro ⟨rfl, -⟩
      exact ⟨owner, dotted, clean⟩

/-- Whether the name of a type ends in a simple name is decided by comparing its simple name. -/
instance (type : EnumType) (simple : String) : Decidable (type.EndsIn simple) :=
  decidable_of_iff _ EnumType.endsIn_iff.symm

namespace EnumRegistry

/-- A type is found under its own name or under the last segment of it. -/
lemma Coherent.name_or_endsIn {registry : EnumRegistry} (coherent : registry.Coherent)
    {name : String} {type : EnumType} (found : registry.get? name = some type) :
    type.name = name ∨ type.EndsIn name := by
  obtain kept | ⟨-, claimed⟩ := Option.or_eq_some_iff.1 found
  · exact .inl (coherent.named name type kept)
  · obtain ⟨-, same, dotted⟩ := coherent.current name type claimed
    exact .inr (EnumType.endsIn_iff.2 ⟨same, dotted⟩)

/-- The names under which a type is found are of different lengths. -/
lemma Coherent.eq_of_length {registry : EnumRegistry} (coherent : registry.Coherent)
    {name other : String} {type type' : EnumType} (found : registry.get? name = some type)
    (found' : registry.get? other = some type') (same : type.name = type'.name)
    (length : name.length = other.length) : name = other := by
  have shorter {simple : String} {t : EnumType} (ends : t.EndsIn simple) :
      simple.length < t.name.length := by
    obtain ⟨owner, dotted, -⟩ := ends
    rw [dotted, String.length_append, String.length_append]
    have dot : ".".length = 1 := rfl
    omega
  -- a full name is longer than the simple name it ends in, so both are of one sort
  obtain rfl | ends := coherent.name_or_endsIn found
  · obtain rfl | ends' := coherent.name_or_endsIn found'
    · exact same
    · have less := shorter ends'
      rw [← same] at less
      omega
  · obtain rfl | ends' := coherent.name_or_endsIn found'
    · have less := shorter ends
      rw [same] at less
      omega
    · have simple := (EnumType.endsIn_iff.1 ends).1
      have simple' := (EnumType.endsIn_iff.1 ends').1
      rw [← simple, ← simple', EnumType.simpleName, EnumType.simpleName, same]

/-- The last of some types that has its name. -/
def Latest (types : List EnumType) (type : EnumType) : Prop :=
  ∃ earlier later, types = earlier ++ type :: later ∧ ∀ other ∈ later, other.name ≠ type.name

/-- What a name means where some types were registered, one after another. -/
inductive Means (types : List EnumType) (name : String) (type : EnumType) : Prop where
  /-- The last type of just that name. -/
  | named : Latest types type → type.name = name → Means types name type
  /-- The last registration of the one type whose dotted name ends in it, if no type has just that
  name. -/
  | shortened : (∀ other ∈ types, other.name ≠ name) → Latest types type → type.EndsIn name →
    (∀ other ∈ types, other.EndsIn name → other.name = type.name) → Means types name type

variable {types : List EnumType} {type : EnumType} {name : String}

/-- The last type of a name is one of the types. -/
lemma Latest.mem (latest : Latest types type) : type ∈ types := by
  obtain ⟨earlier, later, rfl, -⟩ := latest
  exact List.mem_append_right _ (.head _)

/-- The last type of a name. -/
lemma getLast?_named_iff :
    (types.filter fun other => other.name = name).getLast? = some type ↔
      Latest types type ∧ type.name = name := by
  rw [getLast?_filter_iff, IsLast, decide_eq_true_iff, and_comm]
  refine and_congr_left ?_
  rintro rfl
  simp only [Latest, decide_eq_true_iff, ne_eq]

/-- The claims that some types make on simple names. -/
def claims (types : List EnumType) : List (String × EnumType) :=
  (types.filter fun type => type.simpleName ≠ type.name).map fun type => (type.simpleName, type)

/-- One more type claims its simple name, unless that is its whole name. -/
lemma claims_concat (types : List EnumType) (type : EnumType) :
    claims (types ++ [type]) =
      if type.simpleName = type.name then claims types
      else claims types ++ [(type.simpleName, type)] :=
  Aliases.claimsOf_concat EnumType.simpleName EnumType.name types type

/-- The types that claim a simple name are those whose name ends in it. -/
lemma valuesOf_claims (types : List EnumType) (name : String) :
    valuesOf name (claims types) = types.filter fun type => type.EndsIn name := by
  rw [claims, valuesOf_keyed, List.filter_filter]
  congr 1
  funext type
  simp only [EnumType.endsIn_iff, Bool.decide_and]

/-- The last type that claims a simple name, where all that claim it are one. -/
lemma getLast?_claims_iff :
    Aliases.OneKey EnumType.name (valuesOf name (claims types)) ∧
        (valuesOf name (claims types)).getLast? = some type ↔
      Latest types type ∧ type.EndsIn name ∧
        ∀ other ∈ types, other.EndsIn name → other.name = type.name := by
  rw [valuesOf_claims, getLast?_filter_iff, IsLast]
  simp only [decide_eq_true_iff, Aliases.OneKey, List.mem_filter]
  constructor
  · rintro ⟨one, ends, earlier, later, rfl, none⟩
    have here : type ∈ earlier ++ type :: later := List.mem_append_right _ (.head _)
    refine ⟨⟨earlier, later, rfl, fun other member same => none other member ?_⟩, ends, ?_⟩
    · rwa [EnumType.EndsIn, same]
    · exact fun other member h => one other ⟨member, h⟩ type ⟨here, ends⟩
  · rintro ⟨⟨earlier, later, rfl, none⟩, ends, one⟩
    refine ⟨fun a ha b hb => (one a ha.1 ha.2).trans (one b hb.1 hb.2).symm, ends, ?_⟩
    refine ⟨earlier, later, rfl, fun other member h => none other member ?_⟩
    exact one other (List.mem_append_right _ (.tail _ member)) h

/-- A registration enters its type under the full name. -/
lemma types_record (registry : EnumRegistry) (call : EnumRegistration) :
    (registry.record call).types = registry.types.insert call.type.name call.type := by
  cases call <;> rfl

/-- A registration claims the simple name of its type, unless that is its whole name. -/
lemma simpleNames_record (registry : EnumRegistry) (call : EnumRegistration) :
    (registry.record call).simpleNames =
      if call.type.simpleName = call.type.name then registry.simpleNames
      else registry.simpleNames.claim (fun a b => a.name == b.name) call.type.simpleName
        call.type := by
  cases call <;> rfl

/-- The types and the claims that some calls leave behind. -/
lemma ofHistory_eq (history : List EnumRegistration) :
    let types := history.map EnumRegistration.type
    (ofHistory history).types = Table.ofList (types.map fun type => (type.name, type)) ∧
      (ofHistory history).simpleNames = Aliases.ofClaims EnumType.name (claims types) := by
  induction history using List.reverseRecOn with
  | nil => exact ⟨rfl, rfl⟩
  | append_singleton earlier call ih =>
    obtain ⟨kept, claimed⟩ := ih
    simp only [List.map_append, List.map_singleton]
    rw [ofHistory_concat, types_record, simpleNames_record, kept, claimed, claims_concat]
    constructor
    · rw [Table.ofList, Table.ofList, List.foldl_append]
      rfl
    · split
      · rfl
      · rw [Aliases.ofClaims, Aliases.ofClaims, List.foldl_append]
        rfl

/-- A look-up finds what the name means. -/
lemma get?_iff_means (history : List EnumRegistration) (name : String) (type : EnumType) :
    (ofHistory history).get? name = some type ↔
      Means (history.map EnumRegistration.type) name type := by
  obtain ⟨kept, claimed⟩ := ofHistory_eq history
  rw [get?, kept, claimed, Table.get?_ofList, valuesOf_keyed, Option.or_eq_some_iff,
    getLast?_named_iff, Aliases.get?_ofClaims, getLast?_claims_iff]
  generalize history.map EnumRegistration.type = types
  have unnamed : (types.filter fun type => type.name = name).getLast? = none ↔
      ∀ other ∈ types, other.name ≠ name := by
    simp
  rw [unnamed]
  constructor
  · rintro (⟨latest, same⟩ | ⟨none, latest, ends, one⟩)
    · exact .named latest same
    · exact .shortened none latest ends one
  · rintro (⟨latest, same⟩ | ⟨none, latest, ends, one⟩)
    · exact .inl ⟨latest, same⟩
    · exact .inr ⟨none, latest, ends, one⟩

/-- The same types, with those of one name in the same order. -/
def SameByName (types others : List EnumType) : Prop :=
  ∀ name, (types.filter fun type => type.name = name) = others.filter fun type => type.name = name

namespace SameByName

variable {others : List EnumType}

/-- Having the same types by name goes both ways. -/
lemma symm (same : SameByName types others) : SameByName others types :=
  fun name => (same name).symm

/-- Two types of different names can change places. -/
lemma swap {a b : EnumType} (earlier later : List EnumType) (differs : a.name ≠ b.name) :
    SameByName (earlier ++ a :: b :: later) (earlier ++ b :: a :: later) := by
  intro name
  rw [List.filter_append, List.filter_append, List.append_cancel_left_eq]
  by_cases first : a.name = name
  · have other : b.name ≠ name := fun h => differs (first.trans h.symm)
    simp [first, other]
  · by_cases second : b.name = name <;> simp [first, second]

/-- A type is among all types that are the same by name. -/
lemma mem (same : SameByName types others) (h : type ∈ types) : type ∈ others := by
  have filtered : type ∈ types.filter fun other => other.name = type.name :=
    List.mem_filter.2 ⟨h, decide_eq_true rfl⟩
  rw [same type.name] at filtered
  exact (List.mem_filter.1 filtered).1

/-- Types that are the same by name have the same last type of every name. -/
lemma latest (same : SameByName types others) (h : Latest types type) : Latest others type := by
  have last := getLast?_named_iff.2 ⟨h, rfl⟩
  rw [same type.name] at last
  exact (getLast?_named_iff.1 last).1

/-- A name means the same in whatever order types of different names were registered. -/
lemma means (same : SameByName types others) (h : Means types name type) :
    Means others name type := by
  cases h with
  | named latest here => exact .named (same.latest latest) here
  | shortened none latest ends one =>
    refine .shortened (fun other member => none other (same.symm.mem member)) (same.latest latest)
      ends fun other member => one other (same.symm.mem member)

end SameByName

/-- A name that is the simple name of two types only means a type of just that name. -/
lemma means_iff_of_shared {a b : EnumType} (memberA : a ∈ types) (memberB : b ∈ types)
    (endsA : a.EndsIn name) (endsB : b.EndsIn name) (differs : a.name ≠ b.name) :
    Means types name type ↔ Latest types type ∧ type.name = name := by
  constructor
  · rintro (⟨latest, same⟩ | ⟨-, -, -, one⟩)
    · exact ⟨latest, same⟩
    · exact absurd ((one a memberA endsA).trans (one b memberB endsB).symm) differs
  · exact fun ⟨latest, same⟩ => .named latest same

/-- A look-up is determined by what was registered: it finds what the name means by the types that
were registered. So a type is also found under its own name. A simple name that two types had once
is never that of one of them again, whatever is registered later: it only finds a type of just that
name. Calls for types of different names can be made in any order. -/
theorem lookup_determined (history : List EnumRegistration) (name : String) :
    let types := history.map EnumRegistration.type
    (∀ type, (ofHistory history).get? name = some type ↔ Means types name type) ∧
    (∀ type, (ofHistory history).get? name = some type →
      (ofHistory history).get? type.name = some type) ∧
    (∀ a ∈ types, ∀ b ∈ types, a.EndsIn name → b.EndsIn name → a.name ≠ b.name →
      ∀ later type, (ofHistory (history ++ later)).get? name = some type ↔
        Latest (types ++ later.map EnumRegistration.type) type ∧ type.name = name) ∧
    ∀ other, SameByName types (other.map EnumRegistration.type) →
      (ofHistory other).get? name = (ofHistory history).get? name := by
  intro types
  refine ⟨get?_iff_means history name, ?again, ?shared, ?order⟩
  case again => exact fun type found => (Coherent.ofHistory history).get?_name found
  case shared =>
    intro a memberA b memberB endsA endsB differs later type
    rw [get?_iff_means, List.map_append]
    exact means_iff_of_shared (List.mem_append_left _ memberA) (List.mem_append_left _ memberB)
      endsA endsB differs
  case order =>
    intro other same
    refine Option.ext fun type => ?_
    rw [get?_iff_means, get?_iff_means]
    exact ⟨same.symm.means, same.means⟩

/-- Two types of one simple name, and then a type that has just this name. -/
theorem lookup_determined_status :
    let first : EnumType := ⟨"com.a.Status", ["OPEN"]⟩
    let second : EnumType := ⟨"com.b.Status", ["CLOSED"]⟩
    let third : EnumType := ⟨"Status", ["NEW"]⟩
    let history := [EnumRegistration.literal first, .plain second]
    let turned := [EnumRegistration.plain second, .literal first]
    (ofHistory history).get? "Status" = none ∧
    (ofHistory (history ++ [.plain third])).get? "Status" = some third ∧
    (ofHistory turned).get? "Status" = (ofHistory history).get? "Status" := by
  intro first second third history turned
  obtain ⟨-, -, shared, order⟩ := lookup_determined history "Status"
  have alone :=
    shared first (.head _) second (.tail _ (.head _)) (by decide) (by decide) (by decide)
  refine ⟨by decide, (alone [.plain third] third).2 ⟨?_, rfl⟩, ?_⟩
  · exact ⟨[first, second], [], rfl, List.forall_mem_nil _⟩
  · exact order turned (SameByName.swap [] [] (by decide))

/-- A simple name that two types have leads nowhere, but a type that is registered later under just
that name is found. -/
theorem shared_name_found_again :
    ¬ ∀ (history later : List EnumRegistration) (name : String),
      (∃ a ∈ history.map EnumRegistration.type, ∃ b ∈ history.map EnumRegistration.type,
        a.EndsIn name ∧ b.EndsIn name ∧ a.name ≠ b.name) →
      (ofHistory (history ++ later)).get? name = none := by
  intro never
  have found : (ofHistory [.plain ⟨"com.a.Status", ["OPEN"]⟩, .plain ⟨"com.b.Status", ["CLOSED"]⟩,
      .plain ⟨"Status", ["NEW"]⟩]).get? "Status" = some ⟨"Status", ["NEW"]⟩ := by decide
  have lost := never [.plain ⟨"com.a.Status", ["OPEN"]⟩, .plain ⟨"com.b.Status", ["CLOSED"]⟩]
    [.plain ⟨"Status", ["NEW"]⟩] "Status" ⟨_, .head _, _, .tail _ (.head _), by decide⟩
  cases found.symm.trans lost

end EnumRegistry

end QueryExpr
