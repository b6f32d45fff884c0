import QueryExpr.Json.Basic
import QueryExpr.Keyword
import QueryExpr.Number.Digits

/-!
# Records in JSON

How values of the library stand in JSON. A record is an object with one member a field, or an array
of the fields in order. An enumeration value is its written name, or an object with that name and
null. A choice with content is an object whose only member is the choice's name.

Members of other names are ignored, a field must not be given twice, and an array must not be longer
than the record. Each field is required, optional or has a default.
-/

namespace QueryExpr.Json

/-- A way to read a value of the library from a JSON value. -/
abbrev Decoder (α : Type) := Json → Option α

/-- What stands for a field of a record. -/
inductive Slot where
  /-- A value is given. -/
  | given (value : Json)
  /-- The object has no member of that name. -/
  | absent
  /-- The array ends before this field. -/
  | cut

/-- How many members of an object have a given name. -/
def countName (name : String) (members : List (String × Json)) : Nat :=
  members.countP fun member => member.1 == name

/-- The slots of the named fields of a record. -/
def slots? (names : List String) : Json → Option (List Slot)
  | object members =>
    if names.all fun name => countName name members ≤ 1 then
      some (names.map fun name =>
        match members.lookup name with
        | some value => .given value
        | none => .absent)
    else none
  | array items =>
    if items.length ≤ names.length then
      some (items.map .given ++ List.replicate (names.length - items.length) .cut)
    else none
  | _ => none

namespace Slot

variable {α : Type}

/-- A field that must be given. -/
def required (decode : Decoder α) : Slot → Option α
  | given value => decode value
  | absent | cut => none

/-- A field that may be null or be left out of an object, but not out of an array. -/
def optional (decode : Decoder α) : Slot → Option (Option α)
  | given .null => some none
  | given value => (decode value).map some
  | absent => some none
  | cut => none

/-- A field that may be null or be left out. -/
def optionalOrCut (decode : Decoder α) : Slot → Option (Option α)
  | cut => some none
  | slot => slot.optional decode

/-- A field that takes a default where it is left out. -/
def orDefault (decode : Decoder α) (default : α) : Slot → Option α
  | given value => decode value
  | absent | cut => some default

end Slot

/-- A truth value. -/
def asBoolean : Decoder Bool
  | boolean value => some value
  | _ => none

/-- A string. -/
def asString : Decoder String
  | string text => some text
  | _ => none

/-- An unsigned number of 64 bits, written without sign, point and exponent. -/
def asNatural : Decoder Nat
  | number text =>
    let digits := text.toList
    if digits.all Char.isDigit ∧ Digits.value digits < Nat.pow 2 64 then some (Digits.value digits)
    else none
  | _ => none

/-- The items of an array, each read in the same way. -/
def asList {α : Type} (decode : Decoder α) : Decoder (List α)
  | array items => items.mapM decode
  | _ => none

/-- The name and the content of a choice. A bare string is a choice with null as content. -/
def asChoice : Decoder (String × Option Json)
  | string tag => some (tag, none)
  | object [(tag, content)] => some (tag, some content)
  | _ => none

/-- The content of a choice that has none: a bare name, or null. -/
def isUnit : Option Json → Bool
  | none | some null => true
  | some _ => false

/-- A value of an enumeration. -/
def asTag {α : Type} [Tagged α] : Decoder α := fun json => do
  let (tag, content) ← json.asChoice
  if isUnit content then Tagged.ofTag? tag else none

/-- The written form of a value of an enumeration. -/
def ofTag {α : Type} [Tagged α] (value : α) : Json :=
  string (Tagged.tag value)

/-- The JSON form of an optional value; null stands for none. -/
def ofOption {α : Type} (encode : α → Json) : Option α → Json
  | none => null
  | some value => encode value

end QueryExpr.Json
