import QueryExpr.Json.Basic

/-!
# Outlines

The shape of a value as its written forms show it: records with named fields, choices with a name,
lists and plain values. One outline gives both the JSON form of a value and its dump.
-/

namespace QueryExpr

/-- The outline of a value. -/
inductive Outline where
  /-- A choice without content, or a keyword. -/
  | word (tag : String)
  /-- A truth value. -/
  | flag (value : Bool)
  /-- A natural number. -/
  | natural (value : Nat)
  /-- A text, which is shown in quotes. -/
  | text (value : String)
  /-- A value with a written form of its own, such as a date. -/
  | written (value : String)
  /-- An optional value that is left out. -/
  | absent
  /-- An optional value that is there. -/
  | present (content : Outline)
  /-- Several values in order. -/
  | list (items : List Outline)
  /-- A record of a named type. -/
  | record (name : String) (fields : List (String × Outline))
  /-- A choice with a single content. -/
  | choice (tag : String) (content : Outline)
  /-- A choice with named fields. -/
  | variant (tag : String) (fields : List (String × Outline))

namespace Outline

/-- The outline of an optional value. -/
def ofOption {α : Type} (outline : α → Outline) : Option α → Outline
  | none => absent
  | some value => present (outline value)

mutual

/-- The JSON form of a value. A record is an object, a choice without content is its name, any other
choice is an object with its name as the only member. -/
def toJson : Outline → Json
  | word tag => .string tag
  | flag value => .boolean value
  | natural value => .natural value
  | text value => .string value
  | written value => .string value
  | absent => .null
  | present content => content.toJson
  | list items => .array (itemsToJson items)
  | record _ fields => .object (fieldsToJson fields)
  | choice tag content => .tagged tag content.toJson
  | variant tag fields => .tagged tag (.object (fieldsToJson fields))

/-- The JSON forms of several values. -/
def itemsToJson : List Outline → List Json
  | [] => []
  | item :: items => item.toJson :: itemsToJson items

/-- The members of the object of some fields. -/
def fieldsToJson : List (String × Outline) → List (String × Json)
  | [] => []
  | (name, value) :: fields => (name, value.toJson) :: fieldsToJson fields

end

end Outline

end QueryExpr
