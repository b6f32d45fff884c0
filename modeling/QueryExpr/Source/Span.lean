/-!
# Spans and locations

A span is a range of bytes of the query text in UTF-8. A location adds the line and the column of
its start, counted from one; columns count characters.
-/

namespace QueryExpr

/-- A range of bytes, from `start` up to but not including `stop`. -/
structure Span where
  start : Nat
  stop : Nat
  deriving DecidableEq

/-- A position in the query text with the length of what stands there. -/
structure Location where
  line : Nat
  column : Nat
  offset : Nat
  length : Nat
  deriving DecidableEq

/-- The part of a text from a byte offset on, if a character starts or the text ends there. -/
def dropBytes? : Nat → List Char → Option (List Char)
  | 0, text => some text
  | _ + 1, [] => none
  | n + 1, c :: rest =>
    if c.utf8Size ≤ n + 1 then dropBytes? (n + 1 - c.utf8Size) rest else none

/-- The first bytes of a text, if a character ends after just that many. -/
def takeBytes? : Nat → List Char → Option (List Char)
  | 0, _ => some []
  | _ + 1, [] => none
  | n + 1, c :: rest =>
    if c.utf8Size ≤ n + 1 then (takeBytes? (n + 1 - c.utf8Size) rest).map (c :: ·) else none

/-- Line and column after the characters that start before a byte offset. -/
def lineColumnFrom (line column offset : Nat) : List Char → Nat × Nat
  | [] => (line, column)
  | c :: rest =>
    if offset = 0 then (line, column)
    else if c = '\n' then lineColumnFrom (line + 1) 1 (offset - c.utf8Size) rest
    else lineColumnFrom line (column + 1) (offset - c.utf8Size) rest

/-- Line and column of a byte offset. -/
def lineColumn (source : String) (offset : Nat) : Nat × Nat :=
  lineColumnFrom 1 1 offset source.toList

namespace Span

/-- The span of a node that was not read from a query text. -/
def empty : Span := ⟨0, 0⟩

/-- Length in bytes; a reversed span has length zero. -/
def length (span : Span) : Nat :=
  span.stop - span.start

/-- Spans that cover nothing. -/
def isEmpty (span : Span) : Bool :=
  span.stop ≤ span.start

/-- The text a span covers. It is empty if the span is reversed, reaches past the end of the text
or starts or ends inside a character. -/
def text (span : Span) (source : String) : String :=
  if span.start ≤ span.stop then
    match (dropBytes? span.start source.toList).bind (takeBytes? span.length) with
    | some covered => String.ofList covered
    | none => ""
  else ""

/-- The location of the start of a span. -/
def location (span : Span) (source : String) : Location :=
  let (line, column) := lineColumn source span.start
  ⟨line, column, span.start, span.length⟩

/-- A span as it is shown, such as `3..7`. -/
def display (span : Span) : String :=
  toString span.start ++ ".." ++ toString span.stop

end Span

namespace Location

/-- A location as it is shown, such as `2:5`. -/
def display (location : Location) : String :=
  toString location.line ++ ":" ++ toString location.column

end Location

end QueryExpr
