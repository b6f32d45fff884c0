import QueryExpr.Number.Magnitude

/-!
# JSON values

JSON values as they are written: the members of an object keep their order and may repeat a name,
and a number is kept as its text. A part of a text can be written as JSON demands and still stand
for no value; such a part does no harm where nobody reads it.
-/

namespace QueryExpr

/-- A JSON value. -/
inductive Json where
  | null
  | boolean (value : Bool)
  | number (text : String)
  | string (text : String)
  | array (items : List Json)
  | object (members : List (String × Json))
  /-- A string with half a surrogate pair, an object with such a name, or a value too deep. -/
  | unreadable

namespace Json

/-- The number with the decimal digits of a natural number. -/
def natural (n : Nat) : Json :=
  number (toString n)

/-- An array of strings. -/
def strings (texts : List String) : Json :=
  array (texts.map string)

/-- A string, or null. -/
def stringOrNull : Option String → Json
  | none => null
  | some text => string text

/-- An object with a single member, the form of a tagged value. -/
def tagged (tag : String) (content : Json) : Json :=
  object [(tag, content)]

mutual

/-- How many arrays and objects are nested in one another. -/
def height : Json → Nat
  | null | boolean _ | number _ | string _ | unreadable => 0
  | array items => heightItems items + 1
  | object members => heightMembers members + 1

/-- The greatest height of some values. -/
def heightItems : List Json → Nat
  | [] => 0
  | item :: items => max item.height (heightItems items)

/-- The greatest height of the values of some members. -/
def heightMembers : List (String × Json) → Nat
  | [] => 0
  | (_, value) :: members => max value.height (heightMembers members)

end

mutual

/-- A value whose arrays and objects below a number of levels are unreadable. -/
def limit (levels : Nat) : Json → Json
  | array items => if levels = 0 then unreadable else array (limitItems (levels - 1) items)
  | object members => if levels = 0 then unreadable else object (limitMembers (levels - 1) members)
  | json => json

/-- Values limited to a number of levels. -/
def limitItems (levels : Nat) : List Json → List Json
  | [] => []
  | item :: items => item.limit levels :: limitItems levels items

/-- Members whose values are limited to a number of levels. -/
def limitMembers (levels : Nat) : List (String × Json) → List (String × Json)
  | [] => []
  | (name, value) :: members => (name, value.limit levels) :: limitMembers levels members

end

mutual

/-- Whether all parts of a value are readable, with numbers that a floating-point number reaches. -/
def isReadable : Json → Bool
  | null | boolean _ | string _ => true
  | number text => Magnitude.isFinite text.toList
  | array items => areReadable items
  | object members => areReadableMembers members
  | unreadable => false

/-- Whether all parts of some values are readable. -/
def areReadable : List Json → Bool
  | [] => true
  | item :: items => item.isReadable && areReadable items

/-- Whether all parts of the values of some members are readable. -/
def areReadableMembers : List (String × Json) → Bool
  | [] => true
  | (_, value) :: members => value.isReadable && areReadableMembers members

end

/-- The value of the first member of an object with the given name. -/
def get? (json : Json) (name : String) : Option Json :=
  match json with
  | object members => members.lookup name
  | _ => none

end Json

end QueryExpr
