import QueryExpr.Outline.Basic
import QueryExpr.Text.Invisible

/-!
# Dumps

The dump of a value names every record and choice and has one field or item a line, indented by four
blanks and followed by a comma.
-/

namespace QueryExpr.Outline

/-- A character as it stands between the quotes of a dump. -/
def escapeChar (c : Char) : List Char :=
  match c with
  | '\x00' => ['\\', '0']
  | '\t' => ['\\', 't']
  | '\n' => ['\\', 'n']
  | '\r' => ['\\', 'r']
  | '"' => ['\\', '"']
  | '\\' => ['\\', '\\']
  | c =>
    if Invisible.isInvisible c then
      ['\\', 'u', '\x7b'] ++ Nat.toDigits 16 c.toNat ++ ['\x7d']
    else [c]

/-- A text in quotes. -/
def quote (text : String) : List Char :=
  '"' :: (text.toList.flatMap escapeChar ++ ['"'])

/-- A line break and the blanks of a nesting level, before some text. -/
def lineBreak (level : Nat) (rest : List Char) : List Char :=
  '\n' :: (List.replicate (4 * level) ' ' ++ rest)

mutual

/-- The dump of a value that begins on the given level, before some text. -/
def dumpAt (level : Nat) (rest : List Char) : Outline → List Char
  | word tag => tag.toList ++ rest
  | flag value => (if value then "true" else "false").toList ++ rest
  | natural value => Nat.toDigits 10 value ++ rest
  | text value => quote value ++ rest
  | written value => value.toList ++ rest
  | absent => "None".toList ++ rest
  | present content =>
    "Some(".toList ++ lineBreak (level + 1)
      (dumpAt (level + 1) (',' :: lineBreak level (')' :: rest)) content)
  | list [] => '[' :: ']' :: rest
  | list (item :: items) =>
    '[' :: lineBreak (level + 1)
      (dumpAt (level + 1) (',' :: dumpItems level (lineBreak level (']' :: rest)) items) item)
  | record name fields =>
    name.toList ++ (' ' :: '\x7b' ::
      dumpFields level (lineBreak level ('\x7d' :: rest)) fields)
  | choice tag content =>
    tag.toList ++ ('(' :: lineBreak (level + 1)
      (dumpAt (level + 1) (',' :: lineBreak level (')' :: rest)) content))
  | variant tag fields =>
    tag.toList ++ (' ' :: '\x7b' ::
      dumpFields level (lineBreak level ('\x7d' :: rest)) fields)

/-- The items of a list, each on a line of its own, before some text. -/
def dumpItems (level : Nat) (rest : List Char) : List Outline → List Char
  | [] => rest
  | item :: items =>
    lineBreak (level + 1) (dumpAt (level + 1) (',' :: dumpItems level rest items) item)

/-- Named fields, each on a line of its own, before some text. -/
def dumpFields (level : Nat) (rest : List Char) : List (String × Outline) → List Char
  | [] => rest
  | (name, value) :: fields =>
    lineBreak (level + 1) (name.toList ++ (':' :: ' ' ::
      dumpAt (level + 1) (',' :: dumpFields level rest fields) value))

end

/-- The dump of a value. -/
def dump (outline : Outline) : String :=
  String.ofList (outline.dumpAt 0 [])

end QueryExpr.Outline
