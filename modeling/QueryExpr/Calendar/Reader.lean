import QueryExpr.Calendar.Basic
import QueryExpr.Text.Blank

/-!
# Reading dates and times

The forms `yyyy-MM-dd`, `HH:mm:ss` with an optional fraction, and both with blanks or nothing
between them. Blanks may stand before a number. A year with a sign has any number of digits, a year
without one has up to four, every other number up to two.
-/

namespace QueryExpr.Calendar

open Blank (trimStart)

/-- The digits at the start of a text, but no more than `most`, and the rest. -/
def takeDigits (most : Nat) (text : List Char) : List Char × List Char :=
  let digits := (text.takeWhile Char.isDigit).take most
  (digits, text.drop digits.length)

/-- A number of one to `most` digits. -/
def number? (most : Nat) (text : List Char) : Option (Nat × List Char) :=
  match takeDigits most text with
  | ([], _) => none
  | (digits, rest) => some (Digits.value digits, rest)

/-- A year. -/
def year? (text : List Char) : Option (Int × List Char) :=
  match trimStart text with
  | '-' :: rest => (number? rest.length rest).map fun (n, rest) => (-(n : Int), rest)
  | '+' :: rest => (number? rest.length rest).map fun (n, rest) => ((n : Int), rest)
  | rest => (number? 4 rest).map fun (n, rest) => ((n : Int), rest)

/-- A number of one or two digits with blanks before it. -/
def pair? (text : List Char) : Option (Nat × List Char) :=
  number? 2 (trimStart text)

/-- The rest of a text after a given character. -/
def after? (expected : Char) : List Char → Option (List Char)
  | c :: rest => if c = expected then some rest else none
  | [] => none

/-- A date and the rest of the text. -/
def date? (text : List Char) : Option (Date × List Char) := do
  let (year, text) ← year? text
  let (month, text) ← pair? (← after? '-' text)
  let (day, text) ← pair? (← after? '-' text)
  return (← Date.of? year month day, text)

/-- The nanoseconds of a fraction and the rest of the text; digits after the ninth are dropped. -/
def fraction? (text : List Char) : Option (Nat × List Char) :=
  match text with
  | '.' :: text =>
    match takeDigits 9 text with
    | ([], _) => none
    | (digits, rest) =>
      some (Digits.value digits * Nat.pow 10 (9 - digits.length), rest.dropWhile Char.isDigit)
  | text => some (0, text)

/-- A time and the rest of the text. -/
def time? (text : List Char) : Option (Time × List Char) := do
  let (hour, text) ← pair? text
  let (minute, text) ← pair? (← after? ':' text)
  let (second, text) ← pair? (← after? ':' text)
  let (nanosecond, text) ← fraction? text
  return (← Time.of? hour minute second nanosecond, text)

/-- The result of a reader that has to reach the end of the text. -/
def complete? {α : Type} : Option (α × List Char) → Option α
  | some (value, []) => some value
  | _ => none

/-- The date that a whole text holds. -/
def readDate? (text : List Char) : Option Date :=
  complete? (date? text)

/-- The time that a whole text holds. -/
def readTime? (text : List Char) : Option Time :=
  complete? (time? text)

/-- The time on a day that a whole text holds. -/
def readTimestamp? (text : List Char) : Option Timestamp := do
  let (date, text) ← date? text
  let (time, text) ← time? (trimStart text)
  complete? (some (⟨date, time⟩, text))

end QueryExpr.Calendar
