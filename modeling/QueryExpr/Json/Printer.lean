import QueryExpr.Json.Basic
import QueryExpr.Text.Hex

/-!
# Writing JSON

The compact form without blanks, and the form with one member or item a line, indented by two
blanks. Strings escape the quote, the backslash and the control characters below the blank. Each
form is written in front of the text that follows it, so that deep values take no longer.
-/

namespace QueryExpr.Json

/-- A character as it stands in a string. -/
def escapeChar (c : Char) : List Char :=
  match c with
  | '"' => ['\\', '"']
  | '\\' => ['\\', '\\']
  | '\x08' => ['\\', 'b']
  | '\x0c' => ['\\', 'f']
  | '\n' => ['\\', 'n']
  | '\r' => ['\\', 'r']
  | '\t' => ['\\', 't']
  | c =>
    if c.toNat < 0x20 then
      ['\\', 'u', '0', '0', Hex.lowerDigit (c.toNat / 16), Hex.lowerDigit (c.toNat % 16)]
    else [c]

/-- A string with its quotes, before some text. -/
def quote (text : String) (rest : List Char) : List Char :=
  '"' :: (text.toList.flatMap escapeChar ++ ('"' :: rest))

mutual

/-- The compact form of a value, before some text. -/
def compact (rest : List Char) : Json → List Char
  | null | unreadable => "null".toList ++ rest
  | boolean true => "true".toList ++ rest
  | boolean false => "false".toList ++ rest
  | number text => text.toList ++ rest
  | string text => quote text rest
  | array [] => '[' :: ']' :: rest
  | array (item :: items) => '[' :: item.compact (compactItems rest items)
  | object [] => '\x7b' :: '\x7d' :: rest
  | object ((name, value) :: members) =>
    '\x7b' :: quote name (':' :: value.compact (compactMembers rest members))

/-- The items after the first, and the end of the array. -/
def compactItems (rest : List Char) : List Json → List Char
  | [] => ']' :: rest
  | item :: items => ',' :: item.compact (compactItems rest items)

/-- The members after the first, and the end of the object. -/
def compactMembers (rest : List Char) : List (String × Json) → List Char
  | [] => '\x7d' :: rest
  | (name, value) :: members =>
    ',' :: quote name (':' :: value.compact (compactMembers rest members))

end

/-- A line break and the blanks of a nesting level, before some text. -/
def lineBreak (level : Nat) (rest : List Char) : List Char :=
  '\n' :: (List.replicate (2 * level) ' ' ++ rest)

mutual

/-- The indented form of a value that begins on the given level, before some text. -/
def indented (level : Nat) (rest : List Char) : Json → List Char
  | null | unreadable => "null".toList ++ rest
  | boolean true => "true".toList ++ rest
  | boolean false => "false".toList ++ rest
  | number text => text.toList ++ rest
  | string text => quote text rest
  | array [] => '[' :: ']' :: rest
  | array (item :: items) =>
    '[' :: lineBreak (level + 1) (item.indented (level + 1) (indentedItems level rest items))
  | object [] => '\x7b' :: '\x7d' :: rest
  | object ((name, value) :: members) =>
    '\x7b' :: lineBreak (level + 1) (quote name (':' :: ' ' ::
      value.indented (level + 1) (indentedMembers level rest members)))

/-- The items after the first, and the end of the array. -/
def indentedItems (level : Nat) (rest : List Char) : List Json → List Char
  | [] => lineBreak level (']' :: rest)
  | item :: items =>
    ',' :: lineBreak (level + 1) (item.indented (level + 1) (indentedItems level rest items))

/-- The members after the first, and the end of the object. -/
def indentedMembers (level : Nat) (rest : List Char) : List (String × Json) → List Char
  | [] => lineBreak level ('\x7d' :: rest)
  | (name, value) :: members =>
    ',' :: lineBreak (level + 1) (quote name (':' :: ' ' ::
      value.indented (level + 1) (indentedMembers level rest members)))

end

/-- The compact text of a value. -/
def print (json : Json) : String :=
  String.ofList (json.compact [])

/-- The indented text of a value. -/
def printIndented (json : Json) : String :=
  String.ofList (json.indented 0 [])

end QueryExpr.Json
