import QueryExpr.Json.Basic
import QueryExpr.Text.Hex

/-!
# Reading JSON

A machine that takes one character at a time. Its state is a stack of the arrays and objects that
are still open and a mode that says what may come next. The text is strict JSON: no comments, no
control characters in strings, and only blanks around the value. A string whose escaped surrogates
are not in pairs is unreadable, and so is an object in which it is a name.
-/

namespace QueryExpr.Json

/-- The blanks of JSON. -/
def isBlank (c : Char) : Bool :=
  c == ' ' || c == '\n' || c == '\r' || c == '\t'

/-- The character that a single-letter escape stands for. -/
def shortEscape? : Char → Option Char
  | '"' => some '"'
  | '\\' => some '\\'
  | '/' => some '/'
  | 'b' => some '\x08'
  | 'f' => some '\x0c'
  | 'n' => some '\n'
  | 'r' => some '\r'
  | 't' => some '\t'
  | _ => none

/-- What follows the digits of a number: the sign, the integer part, the fraction, the exponent. -/
inductive NumberPart where
  /-- After the minus sign: a digit has to follow. -/
  | sign
  /-- After a leading zero: no further digit may follow. -/
  | zero
  /-- In the integer part. -/
  | integer
  /-- After the point: a digit has to follow. -/
  | point
  /-- In the fraction. -/
  | fraction
  /-- After the letter of the exponent. -/
  | letter
  /-- After the sign of the exponent: a digit has to follow. -/
  | exponentSign
  /-- In the exponent. -/
  | exponent
  deriving DecidableEq

namespace NumberPart

/-- Whether a number may end here. -/
def isComplete : NumberPart → Bool
  | zero | integer | fraction | exponent => true
  | sign | point | letter | exponentSign => false

/-- The part a number is in after one more character, if the character belongs to it. -/
def next? (part : NumberPart) (c : Char) : Option NumberPart :=
  match part with
  | sign => if c = '0' then some zero else if c.isDigit then some integer else none
  | zero => afterInteger c
  | integer => if c.isDigit then some integer else afterInteger c
  | point => if c.isDigit then some fraction else none
  | fraction => if c.isDigit then some fraction else afterFraction c
  | letter =>
    if c.isDigit then some exponent
    else if c = '+' ∨ c = '-' then some exponentSign else none
  | exponentSign => if c.isDigit then some exponent else none
  | exponent => if c.isDigit then some exponent else none
where
  /-- An exponent begins. -/
  afterFraction (c : Char) : Option NumberPart :=
    if c = 'e' ∨ c = 'E' then some letter else none
  /-- A fraction or an exponent begins. -/
  afterInteger (c : Char) : Option NumberPart :=
    if c = '.' then some point else afterFraction c

/-- The part that the first character of a number opens. -/
def ofFirst? (c : Char) : Option NumberPart :=
  if c = '-' then some sign else sign.next? c

end NumberPart

/-- Where in an escape a string is. -/
inductive Escape where
  /-- After the backslash. -/
  | backslash
  /-- In the digits of an escape by number, with their value and count so far. -/
  | unit (value count : Nat)

/-- What may come next. -/
inductive Mode where
  /-- A value. -/
  | value
  /-- A value, or the end of the array just opened. -/
  | valueOrEnd
  /-- A member's name. -/
  | name
  /-- A member's name, or the end of the object just opened. -/
  | nameOrEnd
  /-- The colon after a member's name, if the name is readable. -/
  | colon (name : Option String)
  /-- A comma or an end, after the value given. -/
  | after (value : Json)
  /-- The rest of a string, with its code units so far in reverse; `isName` for a member's name. -/
  | inString (isName : Bool) (done : List Nat) (escape : Option Escape)
  /-- The rest of a number, with its characters so far in reverse. -/
  | inNumber (done : List Char) (part : NumberPart)
  /-- The rest of `null`, `true` or `false`, and what that word stands for. -/
  | inWord (rest : List Char) (value : Json)

/-- An array or object that is still open, with what it holds so far in reverse. An object has the
name of the member whose value comes next, and no members once a name was unreadable. -/
inductive Frame where
  | array (items : List Json)
  | object (members : Option (List (String × Json))) (name : Option String)

/-- The state of reading. -/
structure Reader where
  stack : List Frame
  mode : Mode

namespace Reader

/-- Nothing has been read. -/
def start : Reader :=
  ⟨[], .value⟩

/-- The reader when a character opens a value. -/
def openValue (stack : List Frame) (c : Char) : Option Reader :=
  match c with
  | '\x7b' => some ⟨.object (some []) none :: stack, .nameOrEnd⟩
  | '[' => some ⟨.array [] :: stack, .valueOrEnd⟩
  | '"' => some ⟨stack, .inString false [] none⟩
  | 'n' => some ⟨stack, .inWord ['u', 'l', 'l'] .null⟩
  | 't' => some ⟨stack, .inWord ['r', 'u', 'e'] (.boolean true)⟩
  | 'f' => some ⟨stack, .inWord ['a', 'l', 's', 'e'] (.boolean false)⟩
  | _ => (NumberPart.ofFirst? c).map fun part => ⟨stack, .inNumber [c] part⟩

/-- The members of an object with one more, if all names are readable. -/
def addMember (members : Option (List (String × Json))) (name : Option String) (value : Json) :
    Option (List (String × Json)) :=
  members.bind fun members => name.map fun name => (name, value) :: members

/-- The object of some members in reverse. -/
def closeObject : Option (List (String × Json)) → Json
  | some members => .object members.reverse
  | none => .unreadable

/-- The reader when a character follows a value. -/
def stepAfter (stack : List Frame) (value : Json) (c : Char) : Option Reader :=
  if isBlank c then some ⟨stack, .after value⟩
  else
    match stack with
    | [] => none
    | .array items :: rest =>
      if c = ',' then some ⟨.array (value :: items) :: rest, .value⟩
      else if c = ']' then some ⟨rest, .after (.array (value :: items).reverse)⟩
      else none
    | .object members name :: rest =>
      if c = ',' then some ⟨.object (addMember members name value) none :: rest, .name⟩
      else if c = '\x7d' then some ⟨rest, .after (closeObject (addMember members name value))⟩
      else none

/-- The text of some code units in reverse. -/
def closeText (done : List Nat) : Option String :=
  (Hex.charsBefore? [] done).map String.ofList

/-- The reader when a string ends. -/
def closeString (stack : List Frame) (isName : Bool) (done : List Nat) : Reader :=
  if isName then ⟨stack, .colon (closeText done)⟩
  else
    match closeText done with
    | some text => ⟨stack, .after (.string text)⟩
    | none => ⟨stack, .after .unreadable⟩

/-- The next character of a string outside an escape, or its end. -/
def stepString (stack : List Frame) (isName : Bool) (done : List Nat) (c : Char) :
    Option Reader :=
  if c = '"' then some (closeString stack isName done)
  else if c = '\\' then some ⟨stack, .inString isName done (some .backslash)⟩
  else if c.toNat < 0x20 then none
  else some ⟨stack, .inString isName (c.toNat :: done) none⟩

/-- The next character of an escape. -/
def stepEscape (escape : Escape) (done : List Nat) (c : Char) :
    Option (List Nat × Option Escape) :=
  match escape with
  | .backslash =>
    if c = 'u' then some (done, some (.unit 0 0))
    else (shortEscape? c).map fun meant => (meant.toNat :: done, none)
  | .unit value count =>
    (Hex.value? c).map fun digit =>
      if count = 3 then ((value * 16 + digit) :: done, none)
      else (done, some (.unit (value * 16 + digit) (count + 1)))

/-- The reader after one more character. -/
def step (reader : Reader) (c : Char) : Option Reader :=
  let stack := reader.stack
  match reader.mode with
  | .value => if isBlank c then some reader else openValue stack c
  | .valueOrEnd =>
    if isBlank c then some reader
    else if c = ']' then some ⟨stack.tail, .after (.array [])⟩
    else openValue stack c
  | .name =>
    if isBlank c then some reader
    else if c = '"' then some ⟨stack, .inString true [] none⟩ else none
  | .nameOrEnd =>
    if isBlank c then some reader
    else if c = '"' then some ⟨stack, .inString true [] none⟩
    else if c = '\x7d' then some ⟨stack.tail, .after (.object [])⟩ else none
  | .colon name =>
    if isBlank c then some reader
    else if c = ':' then
      match stack with
      | .object members _ :: rest => some ⟨.object members name :: rest, .value⟩
      | _ => none
    else none
  | .after value => stepAfter stack value c
  | .inString isName done none => stepString stack isName done c
  | .inString isName done (some escape) =>
    (stepEscape escape done c).map fun (done, escape) => ⟨stack, .inString isName done escape⟩
  | .inNumber done part =>
    match part.next? c with
    | some part => some ⟨stack, .inNumber (c :: done) part⟩
    | none =>
      if part.isComplete then stepAfter stack (.number (String.ofList done.reverse)) c else none
  | .inWord rest value =>
    match rest with
    | [] => stepAfter stack value c
    | expected :: rest => if c = expected then some ⟨stack, .inWord rest value⟩ else none

/-- The value read, if the text may end here. -/
def finish? (reader : Reader) : Option Json :=
  match reader.stack, reader.mode with
  | [], .after value => some value
  | [], .inNumber done part =>
    if part.isComplete then some (.number (String.ofList done.reverse)) else none
  | [], .inWord [] value => some value
  | _, _ => none

/-- The reader after some more text. -/
def steps (reader : Reader) : List Char → Option Reader
  | [] => some reader
  | c :: rest =>
    match reader.step c with
    | some reader => reader.steps rest
    | none => none

end Reader

/-- The JSON value that a text holds. -/
def read? (text : String) : Option Json :=
  (Reader.start.steps text.toList).bind Reader.finish?

/-- How deep the values of a configuration or tree file may nest. -/
def maxHeight : Nat := 127

/-- The JSON value that a text holds, readable to the depth that files may have. -/
def readLimited? (text : String) : Option Json :=
  (read? text).map (limit maxHeight)

end QueryExpr.Json
