import Mathlib.Data.List.Forall2
import Mathlib.Data.Option.Basic
import QueryExpr.Proofs.Json.Text

/-!
# Forms of JSON

A `Form` says which JSON values stand for one value of the library. The form of a record leaves the
order of its members open, lets fields that hold their default be left out, and lets members of
other names stand beside them.

A decoder `Reads` a form if it makes the same value of everything that has the form, and a JSON
value is a `Specimen` of a form if it has it and can be written as a text.
-/

namespace QueryExpr.Json

/-- The JSON values that stand for one value. -/
abbrev Form := Json → Prop

/-- The values that an object has under a name. -/
def valuesOf (name : String) (members : List (String × Json)) : List Json :=
  (members.filter fun member => member.1 == name).map Prod.snd

/-- A field of a record that holds some value. -/
structure Field where
  name : String
  form : Form
  /-- The value is the one that is read where the field is left out. -/
  isDefault : Prop

/-- An object holds a field once, or leaves it out as it may. -/
inductive Field.Held (field : Field) (members : List (String × Json)) : Prop where
  | given {value} : valuesOf field.name members = [value] → field.form value → Held field members
  | omitted : valuesOf field.name members = [] → field.isDefault → Held field members

namespace Form

/-- One JSON value only. -/
def exactly (json : Json) : Form :=
  fun written => written = json

/-- A choice with content. -/
def tagged (tag : String) (content : Form) : Form :=
  fun json => ∃ inner, json = .tagged tag inner ∧ content inner

/-- An array with items of the given forms. -/
def items (forms : List Form) : Form :=
  fun json => ∃ values, json = .array values ∧
    List.Forall₂ (fun form value => form value) forms values

/-- Null, or the form given. -/
def option : Option Form → Form
  | none => exactly .null
  | some form => form

/-- An object with the given fields, and perhaps with members of other names. -/
def record (fields : List Field) : Form :=
  fun json => ∃ members, json = .object members ∧ ∀ field ∈ fields, field.Held members

end Form

namespace Field

/-- A field that is never left out. -/
def required (name : String) (form : Form) : Field :=
  ⟨name, form, False⟩

/-- A truth value that is false by default. -/
def flag (name : String) (value : Bool) : Field :=
  ⟨name, .exactly (.boolean value), value = false⟩

/-- An optional value. -/
def option (name : String) (form : Option Form) : Field :=
  ⟨name, .option form, form = none⟩

/-- A list that is empty by default. -/
def list (name : String) (forms : List Form) : Field :=
  ⟨name, .items forms, forms = []⟩

end Field

variable {α β : Type} {decode : Decoder α} {form : Form} {a : α} {json : Json} {depth : Nat}
  {slot : Slot} {fields : List Field} {members : List (String × Json)} {name : String}

/-! ## Members of an object -/

/-- Members of a name are counted by the values that the object has under it. -/
lemma countName_eq (name : String) (members : List (String × Json)) :
    countName name members = (valuesOf name members).length := by
  rw [countName, valuesOf, List.length_map, List.countP_eq_length_filter]

/-- A lookup finds the first value that the object has under a name. -/
lemma lookup_eq (name : String) (members : List (String × Json)) :
    members.lookup name = (valuesOf name members).head? := by
  induction members with
  | nil => rfl
  | cons member members ih =>
    obtain ⟨other, value⟩ := member
    rw [List.lookup_cons, valuesOf, List.filter_cons, BEq.comm]
    cases other == name with
    | true => rfl
    | false => exact ih

/-- No member of an object is higher than all of them. -/
lemma height_le_of_mem {member : String × Json} (h : member ∈ members) :
    member.2.height ≤ heightMembers members := by
  induction members with
  | nil => cases h
  | cons first members ih =>
    obtain ⟨name, value⟩ := first
    rw [heightMembers]
    rcases List.mem_cons.1 h with rfl | later
    · exact Nat.le_max_left _ _
    · exact Nat.le_trans (ih later) (Nat.le_max_right _ _)

/-- A value that an object has under a name is that of a member. -/
lemma mem_of_valuesOf {value : Json} (h : value ∈ valuesOf name members) :
    ∃ member ∈ members, member.2 = value := by
  obtain ⟨member, mem, rfl⟩ := List.mem_map.1 h
  exact ⟨member, (List.mem_filter.1 mem).1, rfl⟩

/-- A name that is given once has one value. -/
lemma valuesOf_of_mem {member : String × Json} (distinct : (members.map Prod.fst).Nodup)
    (mem : member ∈ members) : valuesOf member.1 members = [member.2] := by
  induction members with
  | nil => cases mem
  | cons first members ih =>
    rw [List.map_cons, List.nodup_cons] at distinct
    obtain ⟨fresh, distinct⟩ := distinct
    rw [valuesOf]
    rcases List.mem_cons.1 mem with rfl | later
    · have others : members.filter (fun other => other.1 == member.1) = [] :=
        List.filter_eq_nil_iff.2 fun other there same =>
          fresh (eq_of_beq same ▸ List.mem_map_of_mem there)
      rw [List.filter_cons, if_pos (beq_self_eq_true member.1), others]
      rfl
    · have other : ¬ (first.1 == member.1) := fun same =>
        fresh (eq_of_beq same ▸ List.mem_map_of_mem later)
      rw [List.filter_cons, if_neg other]
      exact ih distinct later

/-! ## Decoders -/

/-- A decoder makes the same value of everything of a form that does not nest too deep. -/
def Reads (depth : Nat) (decode : Decoder α) (form : Form) (a : α) : Prop :=
  ∀ json, form json → json.height ≤ depth → decode json = some a

/-- A slot is filled with what a field holds. -/
inductive Fills (depth : Nat) (field : Field) : Slot → Prop where
  | given {value : Json} : field.form value → value.height ≤ depth →
    Fills depth field (.given value)
  | absent : field.isDefault → Fills depth field .absent

/-- A form of one JSON value is read if that value is. -/
lemma Reads.exactly (h : decode json = some a) : Reads depth decode (.exactly json) a := by
  rintro _ rfl _
  exact h

/-- What is read up to some depth is read up to a lower one. -/
lemma Reads.mono {lower : Nat} (reads : Reads depth decode form a) (le : lower ≤ depth) :
    Reads lower decode form a :=
  fun json written low => reads json written (Nat.le_trans low le)

/-- A choice with content, whose decoder makes something of what is read of the content. -/
lemma Reads.tagged {inner : Decoder β} {tag : String} {b : β} (reads : Reads depth inner form b)
    (made : ∀ json, inner json = some b → decode (.tagged tag json) = some a) :
    Reads depth decode (.tagged tag form) a := by
  rintro _ ⟨json, rfl, written⟩ low
  refine made json (reads json written ?_)
  simp only [Json.tagged, height, heightMembers] at low
  omega

/-- The items of an array are read one by one. -/
lemma Reads.items {forms : List Form} {values : List α}
    (reads : List.Forall₂ (Reads depth decode) forms values) :
    Reads depth (asList decode) (.items forms) values := by
  rintro _ ⟨jsons, rfl, written⟩ low
  rw [height] at low
  have inner : heightItems jsons ≤ depth := Nat.le_of_succ_le low
  clear low
  rw [asList]
  -- the height of the array bounds that of each item, which is kept apart for the induction
  induction reads generalizing jsons with
  | nil =>
    cases written
    rfl
  | cons first _ ih =>
    cases written with
    | cons here others =>
      rw [heightItems, Nat.max_le] at inner
      rw [List.mapM_cons, first _ here inner.1, ih _ others inner.2]
      rfl

/-- An optional value whose form is made of the value. -/
lemma Reads.option {formOf : α → Form} (reads : ∀ a, Reads depth decode (formOf a) a) :
    (value : Option α) → Option.Rel (Reads depth decode) (value.map formOf) value
  | none => .none
  | some a => .some (reads a)

/-- An enumeration whose values are told apart by their written names. -/
class LawfulTagged (α : Type) [Tagged α] : Prop where
  ofTag?_tag (value : α) : Tagged.ofTag? (Tagged.tag value) = some value

/-- Kinds of numbers are told apart by their tags. -/
instance : LawfulTagged NumericKind := ⟨fun value => by cases value <;> rfl⟩

/-- Kinds of dates and times are told apart by their tags. -/
instance : LawfulTagged TemporalKind := ⟨fun value => by cases value <;> rfl⟩

/-- Comparison signs are told apart by their tags. -/
instance : LawfulTagged ComparisonSign := ⟨fun value => by cases value <;> rfl⟩

/-- Quantifiers are told apart by their tags. -/
instance : LawfulTagged QuantifierWord := ⟨fun value => by cases value <;> rfl⟩

/-- Trimmed sides are told apart by their tags. -/
instance : LawfulTagged TrimSide := ⟨fun value => by cases value <;> rfl⟩

/-- Modes of frames are told apart by their tags. -/
instance : LawfulTagged FrameMode := ⟨fun value => by cases value <;> rfl⟩

/-- Exclusions from frames are told apart by their tags. -/
instance : LawfulTagged FrameExclusion := ⟨fun value => by cases value <;> rfl⟩

/-- Places of nulls are told apart by their tags. -/
instance : LawfulTagged NullsOrder := ⟨fun value => by cases value <;> rfl⟩

/-- A choice is read from its tag. -/
lemma Reads.tag [Tagged α] [LawfulTagged α] (value : α) :
    Reads depth asTag (.exactly (ofTag value)) value :=
  .exactly (LawfulTagged.ofTag?_tag value)

/-- A text is read from the string of it. -/
lemma Reads.string (text : String) : Reads depth asString (.exactly (.string text)) text :=
  .exactly rfl

/-- An array of strings is decoded to their texts. -/
lemma asList_strings (texts : List String) : asList asString (.strings texts) = some texts := by
  rw [Json.strings, asList, List.mapM_map]
  exact List.mapM_pure.trans (congrArg some (List.map_id texts))

/-- Texts are read from the array of their strings. -/
lemma Reads.strings (texts : List String) :
    Reads depth (asList asString) (.exactly (.strings texts)) texts :=
  .exactly (asList_strings texts)

/-! ### Slots of a record -/

/-- A field that is held has one member of its name at most. -/
lemma Field.Held.countName_le {field : Field} (h : field.Held members) :
    countName field.name members ≤ 1 := by
  rw [countName_eq]
  cases h with
  | given found _ => simp only [found, List.length_singleton, Nat.le_refl]
  | omitted found _ => simp only [found, List.length_nil, Nat.zero_le]

/-- What stands for a field in the members of an object. -/
lemma Field.Held.fills {field : Field} (h : field.Held members)
    (low : heightMembers members ≤ depth) :
    Fills depth field (match members.lookup field.name with
      | some value => .given value
      | none => .absent) := by
  rw [lookup_eq]
  cases h with
  | @given value found written =>
    rw [found]
    obtain ⟨member, mem, rfl⟩ := mem_of_valuesOf (found ▸ List.mem_singleton_self value)
    exact .given written (Nat.le_trans (height_le_of_mem mem) low)
  | omitted found isDefault =>
    rw [found]
    exact .absent isDefault

/-- A record has a height. -/
lemma Form.height_pos (written : Form.record fields json) : 0 < json.height := by
  obtain ⟨members, rfl, -⟩ := written
  exact Nat.succ_pos _

/-- The slots of a record are filled with its fields. -/
lemma Form.record_slots (written : Form.record fields json) (low : json.height ≤ depth + 1) :
    ∃ slots, json.slots? (fields.map Field.name) = some slots ∧
      List.Forall₂ (Fills depth) fields slots := by
  obtain ⟨members, rfl, held⟩ := written
  rw [height] at low
  have once : (fields.map Field.name).all fun name => countName name members ≤ 1 := by
    rw [List.all_map, List.all_eq_true]
    exact fun field mem => decide_eq_true (held field mem).countName_le
  refine ⟨_, if_pos once, ?_⟩
  rw [List.map_map, List.forall₂_map_right_iff, List.forall₂_same]
  exact fun field mem => (held field mem).fills (Nat.le_of_succ_le_succ low)

/-- A value is made of the slots of a record, whatever they are filled with. -/
def Makes (depth : Nat) : List Field → (List Slot → Option α) → α → Prop
  | [], make, a => make [] = some a
  | field :: fields, make, a =>
    ∀ slot, Fills depth field slot → Makes depth fields (fun slots => make (slot :: slots)) a

/-- Without fields, a value is made of no slots. -/
lemma makes_nil {make : List Slot → Option α} : Makes depth [] make a ↔ make [] = some a :=
  Iff.rfl

/-- Slots that fill the fields make the value that every way to fill them makes. -/
lemma Makes.make {make : List Slot → Option α} {slots : List Slot}
    (makes : Makes depth fields make a) (fills : List.Forall₂ (Fills depth) fields slots) :
    make slots = some a := by
  induction fills generalizing make with
  | nil => exact makes
  | cons first _ ih => exact ih (makes _ first)

/-- The values of the fields of a record do not nest as deep as the record. -/
lemma Form.read {make : List Slot → Option α} (written : Form.record fields json)
    (low : json.height ≤ depth + 1) (makes : Makes depth fields make a) :
    (json.slots? (fields.map Field.name)).bind make = some a := by
  obtain ⟨slots, found, fills⟩ := Form.record_slots written low
  rw [found]
  exact makes.make fills

/-- A record is read by a decoder that makes the value of its slots. -/
lemma Reads.record {make : List Slot → Option α} (makes : Makes depth fields make a) :
    Reads depth (fun json => (json.slots? (fields.map Field.name)).bind make) (.record fields) a :=
  fun _ written low => Form.read written (Nat.le_succ_of_le low) makes

namespace Fills

/-- A required slot is read if what its field holds is. -/
lemma required (fills : Fills depth (.required name form) slot)
    (reads : Reads depth decode form a) : slot.required decode = some a := by
  cases fills with
  | given written low => exact reads _ written low
  | absent isDefault => exact isDefault.elim

/-- A slot with a default is read if what its field holds is, and left out only for the default. -/
lemma orDefault {default : α} {isDefault : Prop} (fills : Fills depth ⟨name, form, isDefault⟩ slot)
    (reads : Reads depth decode form a) (same : isDefault → a = default) :
    slot.orDefault decode default = some a := by
  cases fills with
  | given written low => exact reads _ written low
  | absent isDefault => rw [same isDefault, Slot.orDefault]

/-- A flag is read, also where it is left out for being unset. -/
lemma flag {value : Bool} (fills : Fills depth (.flag name value) slot) :
    slot.orDefault asBoolean false = some value :=
  fills.orDefault (.exactly rfl) id

/-- A list is read if its items are, also where it is left out for being empty. -/
lemma list {forms : List Form} {values : List α} (fills : Fills depth (.list name forms) slot)
    (reads : List.Forall₂ (Reads depth decode) forms values) :
    slot.orDefault (asList decode) [] = some values := by
  refine fills.orDefault (.items reads) ?_
  rintro rfl
  cases reads
  rfl

/-- An optional field, by a decoder that does not take null for a value. -/
lemma optional {form : Option Form} {value : Option α}
    (fills : Fills depth (.option name form) slot)
    (reads : Option.Rel (Reads depth decode) form value) (null : decode .null = none) :
    slot.optional decode = some value := by
  cases reads with
  | none =>
    cases fills with
    | given written low =>
      cases written
      rfl
    | absent => rfl
  | some reads =>
    cases fills with
    | @given json written low =>
      have read := reads json written low
      -- null would have been taken for a missing value
      have notNull : json ≠ .null := by
        rintro rfl
        exact absurd (null.symm.trans read) (by simp)
      rw [Slot.optional, read, Option.map_some]
      exact notNull
    | absent isDefault => cases isDefault

/-- An optional slot is read if what it holds is, whether it is null, left out or neither. -/
lemma optionalOrCut {form : Option Form} {value : Option α}
    (fills : Fills depth (.option name form) slot)
    (reads : Option.Rel (Reads depth decode) form value) (null : decode .null = none) :
    slot.optionalOrCut decode = some value := by
  rw [← fills.optional reads null]
  cases fills <;> rfl

end Fills

/-! ## Writers -/

/-- A value that has a form and can be written as a text. -/
structure Form.Specimen (form : Form) (json : Json) : Prop where
  written : form json
  proper : json.IsProper

namespace Form.Specimen

/-- A JSON value that can be written is a specimen of its own form. -/
lemma exactly (proper : json.IsProper) : (Form.exactly json).Specimen json :=
  ⟨rfl, proper⟩

/-- Content that is a specimen is one behind a tag. -/
lemma tagged (tag : String) (content : form.Specimen json) :
    (Form.tagged tag form).Specimen (.tagged tag json) :=
  ⟨⟨json, rfl, content.written⟩, content.proper, trivial⟩

/-- Items that are specimens of their forms make an array that is a specimen. -/
lemma items {forms : List Form} {values : List Json}
    (all : List.Forall₂ Specimen forms values) : (Form.items forms).Specimen (.array values) := by
  refine ⟨⟨values, rfl, all.imp fun _ _ => written⟩, ?_⟩
  change AreProper values
  induction all with
  | nil => trivial
  | cons first _ ih => exact ⟨first.proper, ih⟩

/-- A member that writes a field. -/
inductive Member : Field → String × Json → Prop where
  | mk {field json} : field.form.Specimen json → Member field (field.name, json)

/-- Every field has a member if there is one for each. -/
lemma exists_member (all : List.Forall₂ Member fields members) :
    ∀ field ∈ fields, ∃ json, (field.name, json) ∈ members ∧ field.form json := by
  induction all with
  | nil => exact fun _ mem => nomatch mem
  | cons first _ ih =>
    obtain ⟨specimen⟩ := first
    refine List.forall_mem_cons.2 ⟨⟨_, List.mem_cons_self, specimen.written⟩, fun field mem => ?_⟩
    obtain ⟨json, there, written⟩ := ih field mem
    exact ⟨json, List.mem_cons_of_mem _ there, written⟩

/-- Members that go with fields one by one have their names. -/
lemma map_name (all : List.Forall₂ Member fields members) :
    members.map Prod.fst = fields.map Field.name := by
  induction all with
  | nil => rfl
  | cons first _ ih =>
    obtain ⟨specimen⟩ := first
    rw [List.map_cons, List.map_cons, ih]

/-- Fields of different names are held by the members that go with them. -/
lemma held (distinct : (fields.map Field.name).Nodup) (all : List.Forall₂ Member fields members) :
    ∀ field ∈ fields, field.Held members := by
  intro field mem
  obtain ⟨json, there, written⟩ := exists_member all field mem
  rw [← map_name all] at distinct
  exact .given (valuesOf_of_mem distinct there) written

/-- An object with one member for each field of a record. -/
lemma record (distinct : decide (fields.map Field.name).Nodup)
    (all : List.Forall₂ Member fields members) :
    (Form.record fields).Specimen (.object members) := by
  refine ⟨⟨members, rfl, held (of_decide_eq_true distinct) all⟩, ?_⟩
  change AreProperMembers members
  clear distinct
  induction all with
  | nil => trivial
  | cons first _ ih =>
    obtain ⟨specimen⟩ := first
    exact ⟨specimen.proper, ih⟩

/-- A truth value is written as itself. -/
lemma boolean (value : Bool) : (Form.exactly (.boolean value)).Specimen (.boolean value) :=
  exactly trivial

/-- A text is written as its string. -/
lemma string (text : String) : (Form.exactly (.string text)).Specimen (.string text) :=
  exactly trivial

/-- A natural number is written with its digits. -/
lemma natural (n : Nat) : (Form.exactly (.natural n)).Specimen (.natural n) :=
  exactly (isNumber_toString n)

/-- Texts are written as the array of their strings. -/
lemma strings (texts : List String) :
    (Form.exactly (.strings texts)).Specimen (.strings texts) := by
  refine exactly ?_
  change AreProper (texts.map Json.string)
  induction texts with
  | nil => trivial
  | cons _ _ ih => exact ⟨trivial, ih⟩

/-- A choice is written as its tag. -/
lemma tag [Tagged α] (value : α) : (Form.exactly (ofTag value)).Specimen (ofTag value) :=
  exactly trivial

/-- A choice that may be missing is written as its tag or as null. -/
lemma tagOption [Tagged α] (value : Option α) :
    (Form.option (value.map fun value => .exactly (ofTag value))).Specimen
      (ofOption ofTag value) := by
  cases value with
  | none => exact exactly trivial
  | some value => exact tag value

/-- A text that may be missing is written as its string or as null. -/
lemma stringOption (text : Option String) :
    (Form.option (text.map fun text => .exactly (.string text))).Specimen (.stringOrNull text) := by
  cases text with
  | none => exact exactly trivial
  | some text => exact string text

end Form.Specimen

end QueryExpr.Json
