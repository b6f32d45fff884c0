import QueryExpr.Config
import QueryExpr.Proofs.Registry.Lookup
import QueryExpr.Resolve.Name

/-!
# How constants are written

A constant is written inline or bound to a parameter, as its type was registered. What the last call
for a type settles is which constants it has. But a type that was registered as literal once stays
literal, so the last call settles how the constants are written only if it is for a literal type
itself, or no earlier one was: `EnumRegistry.rendering_follows_last_iff`.
-/

namespace QueryExpr

/-- The call registers a type as literal. -/
def EnumRegistration.isLiteral : EnumRegistration → Bool
  | plain _ => false
  | literal _ => true

/-- The call for a type of a configuration. -/
def EnumEntry.registration (entry : EnumEntry) : EnumRegistration :=
  if entry.isLiteral then .literal entry.type else .plain entry.type

/-- A configuration registers its types one after another. -/
lemma Config.enumRegistry_eq (config : Config) :
    config.enumRegistry = .ofHistory (config.enums.map EnumEntry.registration) := by
  rw [enumRegistry, EnumRegistry.ofHistory, List.foldl_map]
  congr 1
  funext registry entry
  unfold EnumEntry.registration
  split <;> rfl

/-- The expression of a constant: a literal if it is written inline, and otherwise a parameter that
has its name from the text. -/
def EnumValue.written (value : EnumValue) (inline : Prop) [Decidable inline] (text : String) :
    Expression :=
  if inline then .literal (.enum value text) else .parameter (.bound (Dotted.underscored text) value)

/-- A constant is either written inline or not. -/
lemma EnumValue.written_eq_iff {value : EnumValue} {text : String} {inline other : Prop}
    [Decidable inline] [Decidable other] :
    value.written inline text = value.written other text ↔ (inline ↔ other) := by
  unfold written
  by_cases first : inline <;> by_cases second : other <;> simp [first, second]

/-- The value of a constant, with the first position at which the type has it. -/
lemma EnumType.value?_of_mem {type : EnumType} {constant : String}
    (h : constant ∈ type.constants) :
    type.value? constant = some ⟨type.name, constant, type.constants.idxOf constant⟩ := by
  have found : type.constants.findIdx? (· == constant) = some (type.constants.idxOf constant) :=
    List.findIdx?_eq_some_of_exists ⟨constant, h, beq_self_eq_true constant⟩
  rw [value?, found]
  rfl

/-- A type has no value for what is no constant of it. -/
lemma EnumType.value?_of_not_mem {type : EnumType} {constant : String}
    (h : constant ∉ type.constants) : type.value? constant = none := by
  rw [value?, Option.map_eq_none_iff, List.findIdx?_eq_none_iff]
  intro other member
  exact beq_false_of_ne fun same => h (same ▸ member)

namespace EnumRegistry

/-- Some call registered a type of a name as literal. -/
def EverLiteral (history : List EnumRegistration) (name : String) : Prop :=
  ∃ call ∈ history, call.type.name = name ∧ call.isLiteral

/-- Whether a history ever registers a type for literals is decided by going through it. -/
instance (history : List EnumRegistration) (name : String) : Decidable (EverLiteral history name) :=
  inferInstanceAs (Decidable (∃ call ∈ history, call.type.name = name ∧ call.isLiteral))

variable {history : List EnumRegistration} {name : String} {call : EnumRegistration}

/-- A call makes a type literal, or leaves it as it is. -/
lemma isLiteral_record (registry : EnumRegistry) (call : EnumRegistration) (type : EnumType) :
    (registry.record call).isLiteral type ↔
      registry.isLiteral type ∨ call.type.name = type.name ∧ call.isLiteral := by
  cases call with
  -- the names of literal types stay as they are, also if this call is for one of them
  | plain => exact (or_iff_left fun h => Bool.false_ne_true h.2).symm
  | literal other =>
    have grown : (registry.record (.literal other)).isLiteral type =
        (type.name == other.name || registry.isLiteral type) := List.contains_cons
    rw [grown, Bool.or_eq_true, beq_iff_eq, or_comm]
    exact or_congr_right ⟨fun same => ⟨same.symm, rfl⟩, fun h => h.1.symm⟩

/-- A type is literal if it ever was. -/
lemma isLiteral_ofHistory (history : List EnumRegistration) (type : EnumType) :
    (ofHistory history).isLiteral type ↔ EverLiteral history type.name := by
  induction history using List.reverseRecOn with
  | nil => exact iff_of_false Bool.false_ne_true nofun
  | append_singleton earlier call ih =>
    rw [ofHistory_concat, isLiteral_record, ih, EverLiteral, EverLiteral]
    simp only [List.mem_append, List.mem_singleton, or_and_right, exists_or, exists_eq_left]

/-- A type is found under its own name as the last call for it has it. -/
lemma get?_of_isLast (last : IsLast (·.type.name = name) history call) :
    (ofHistory history).get? name = some call.type := by
  obtain ⟨named, earlier, later, rfl, others⟩ := last
  rw [get?_iff_means, List.map_append, List.map_cons]
  refine .named ⟨_, _, rfl, ?_⟩ named
  intro other member
  obtain ⟨after, here, rfl⟩ := List.mem_map.1 member
  rw [named]
  exact others after here

/-- A type is as the last call for it has it under every name that it is found by. -/
lemma eq_of_isLast (last : IsLast (·.type.name = name) history call) {owner type}
    (found : (ofHistory history).get? owner = some type) (named : type.name = name) :
    type = call.type := by
  have own := (Coherent.ofHistory history).get?_name found
  rw [named, get?_of_isLast last] at own
  exact (Option.some.inj own).symm

/-- The last call is one of the calls, so it is for a literal type only if some call was. -/
lemma everLiteral_iff_of_isLast (last : IsLast (·.type.name = name) history call) :
    (EverLiteral history name ↔ call.isLiteral) ↔ (EverLiteral history name → call.isLiteral) :=
  ⟨Iff.mp, fun kept => ⟨kept, fun literal => ⟨call, last.mem, last.1, literal⟩⟩⟩

end EnumRegistry

namespace Context

variable {context : Context} {text owner constant : String} {type : EnumType}

/-- A constant is written inline just if its type is literal. -/
lemma enumExpression_eq (context : Context) (type : EnumType) (value : EnumValue) (text : String) :
    context.enumExpression type value text =
      value.written (context.registries.enums.isLiteral type) text := rfl

/-- A text that names a constant of a registered type stands for this constant. -/
lemma enumConstant?_of_mem (dotted : Dotted.owner? text = some (owner, constant))
    (found : context.registries.enums.get? owner = some type) (known : constant ∈ type.constants) :
    context.enumConstant? text = .ok (some (EnumValue.written
      ⟨type.name, constant, type.constants.idxOf constant⟩
      (context.registries.enums.isLiteral type) text)) := by
  simp only [enumConstant?, dotted, found, EnumType.value?_of_mem known, enumExpression_eq]

/-- A text that names a registered type is refused if the type does not have the constant. -/
lemma enumConstant?_of_not_mem (dotted : Dotted.owner? text = some (owner, constant))
    (found : context.registries.enums.get? owner = some type) (unknown : constant ∉ type.constants) :
    context.enumConstant? text = .error (.unknownEnumConstant type.name constant) := by
  simp only [enumConstant?, dotted, found, EnumType.value?_of_not_mem unknown]

end Context

/-- A type is found as the last call for it has it, with the constants of this call, whatever the
name is that it is found by. But its constants are written inline if any call for it was for a
literal type. So they are written as the last call has it if and only if this one is for a literal
type or none was. -/
theorem EnumRegistry.rendering_follows_last_iff {context : Context}
    {history : List EnumRegistration}
    (registered : context.registries.enums = .ofHistory history) {name : String}
    (occurs : ∃ call ∈ history, call.type.name = name) :
    ∃ last, IsLast (·.type.name = name) history last ∧
      context.registries.enums.get? name = some last.type ∧
      (context.registries.enums.isLiteral last.type ↔ EverLiteral history name) ∧
      (context.registries.enums.isLiteral last.type = last.isLiteral ↔
        (EverLiteral history name → last.isLiteral)) ∧
      ∀ owner type, context.registries.enums.get? owner = some type → type.name = name →
        type = last.type ∧ ∀ constant, '.' ∉ constant.toList →
          let text := owner ++ "." ++ constant
          let value : EnumValue := ⟨name, constant, last.type.constants.idxOf constant⟩
          (constant ∉ last.type.constants →
            context.enumConstant? text = .error (.unknownEnumConstant name constant)) ∧
          (constant ∈ last.type.constants →
            context.enumConstant? text =
              .ok (some (value.written (EverLiteral history name) text)) ∧
            (context.enumConstant? text = .ok (some (value.written last.isLiteral text)) ↔
              (EverLiteral history name → last.isLiteral))) := by
  obtain ⟨last, isLast⟩ := exists_isLast occurs
  have named : last.type.name = name := isLast.1
  have ever : context.registries.enums.isLiteral last.type ↔ EverLiteral history name := by
    rw [registered, isLiteral_ofHistory, named]
  refine ⟨last, isLast, registered ▸ get?_of_isLast isLast, ever, ?literal, ?found⟩
  case literal => rw [← everLiteral_iff_of_isLast isLast, ← ever, Bool.eq_iff_iff]
  case found =>
    intro owner type found same
    obtain rfl : type = last.type := eq_of_isLast isLast (registered ▸ found) same
    refine ⟨rfl, fun constant clean => ?_⟩
    intro text value
    have dotted : Dotted.owner? text = some (owner, constant) :=
      Dotted.owner?_eq_some_iff.2 ⟨rfl, clean⟩
    constructor
    · intro unknown
      rw [Context.enumConstant?_of_not_mem dotted found unknown, named]
    · intro known
      have written : context.enumConstant? text =
          .ok (some (value.written (EverLiteral history name) text)) := by
        rw [Context.enumConstant?_of_mem dotted found known, EnumValue.written_eq_iff.2 ever, named]
      refine ⟨written, ?_⟩
      rw [written, Except.ok.injEq, Option.some.injEq, EnumValue.written_eq_iff]
      exact everLiteral_iff_of_isLast isLast

/-- A type that a configuration has twice, first with a constant less and not as literal. -/
theorem EnumRegistry.rendering_follows_last_iff_color :
    let first : EnumType := ⟨"app.Color", ["RED"]⟩
    let second : EnumType := ⟨"app.Color", ["BLUE", "RED"]⟩
    let enums : List EnumEntry := [⟨first, false⟩, ⟨⟨"app.Size", ["S"]⟩, false⟩, ⟨second, true⟩]
    let context := Config.context { Config.standard with enums }
    let history := enums.map EnumEntry.registration
    let red := Expression.literal (.enum ⟨"app.Color", "RED", 1⟩ "Color.RED")
    context.registries.enums = .ofHistory history ∧
      (∃ call ∈ history, call.type.name = "app.Color") ∧
      context.registries.enums.get? "app.Color" = some second ∧
      context.registries.enums.isLiteral second ∧
      context.enumConstant? "Color.RED" = .ok (some red) ∧
      context.enumConstant? "Color.GREEN" = .error (.unknownEnumConstant "app.Color" "GREEN") := by
  intro first second enums context history red
  have registered : context.registries.enums = .ofHistory history := Config.enumRegistry_eq _
  have occurs : ∃ call ∈ history, call.type.name = "app.Color" := ⟨.plain first, .head _, rfl⟩
  have literal : EverLiteral history "app.Color" := by decide
  obtain ⟨last, -, own, ever, -, shown⟩ := rendering_follows_last_iff registered occurs
  have found : context.registries.enums.get? "Color" = some second := by decide
  obtain ⟨same, constants⟩ := shown "Color" second found rfl
  rw [← same] at own ever constants
  obtain ⟨unknown, -⟩ := constants "GREEN" (by decide)
  obtain ⟨-, known⟩ := constants "RED" (by decide)
  obtain ⟨written, -⟩ := known (by decide)
  refine ⟨registered, occurs, own, ever.2 literal, ?_, unknown (by decide)⟩
  rw [EnumValue.written, if_pos literal] at written
  exact written

/-- Constants stay inline after their type was registered once more, and not as literal. -/
theorem EnumRegistry.literal_type_stays :
    let first : EnumType := ⟨"app.Color", ["RED"]⟩
    let second : EnumType := ⟨"app.Color", ["RED", "GREEN"]⟩
    let calls := [EnumRegistration.literal first, .plain second]
    let enums := ofHistory calls
    let context : Context := ⟨{ Registries.empty with enums }, .standard, Temporal.iso⟩
    let green := Expression.literal (.enum ⟨"app.Color", "GREEN", 1⟩ "Color.GREEN")
    context.enumConstant? "Color.GREEN" = .ok (some green) ∧
      ¬ ∀ (history : List EnumRegistration) (name : String) (last : EnumRegistration),
        IsLast (·.type.name = name) history last →
          ∀ type, (ofHistory history).get? name = some type →
            ((ofHistory history).isLiteral type ↔ last.isLiteral) := by
  intro first second calls enums context green
  have last : IsLast (·.type.name = "app.Color") calls (.plain second) :=
    ⟨rfl, [.literal first], [], rfl, List.forall_mem_nil _⟩
  have literal : enums.isLiteral second := by decide
  constructor
  · have dotted : Dotted.owner? "Color.GREEN" = some ("Color", "GREEN") := by decide
    have found : context.registries.enums.get? "Color" = some second := by decide
    rw [Context.enumConstant?_of_mem dotted found (by decide), EnumValue.written, if_pos literal]
    rfl
  · intro follows
    have found : enums.get? "app.Color" = some second := by decide
    exact Bool.false_ne_true ((follows _ _ _ last second found).1 literal)

end QueryExpr
