import QueryExpr.Number.Digits

/-!
# Magnitudes

Whether a number in decimal notation is small enough for a floating-point number of 64 bits. The
number is taken as its first digits, as far as 64 bits hold them, times a power of ten.
-/

namespace QueryExpr.Magnitude

/-- The number of 53 binary digits that is nearest to a number. Of two the even one is taken. -/
def nearest (n : Nat) : Nat :=
  let unit := Nat.pow 2 (n.log2 + 1 - 53)
  let below := n / unit
  if 2 * (n % unit) < unit ∨ (2 * (n % unit) = unit ∧ below % 2 = 0) then below * unit
  else (below + 1) * unit

/-- The least product that no floating-point number is near to. -/
def bound : Nat := Nat.pow 2 1024 - Nat.pow 2 970

/-- The number that digits stand for when one more is written behind them, if 64 bits hold it. -/
def extend? (significand : Nat) (c : Char) : Option Nat :=
  let next := significand * 10 + (c.toNat - '0'.toNat)
  if next < Nat.pow 2 64 then some next else none

/-- The digits before the point: their value as far as it is held, how many were dropped, and the
rest of the text. -/
def wholeDigits (significand dropped : Nat) : List Char → Nat × Nat × List Char
  | [] => (significand, dropped, [])
  | c :: rest =>
    if c.isDigit then
      match if dropped = 0 then extend? significand c else none with
      | some next => wholeDigits next 0 rest
      | none => wholeDigits significand (dropped + 1) rest
    else (significand, dropped, c :: rest)

/-- The digits after the point: the value with them as far as it is held, how many were taken, and
the rest of the text. -/
def decimalDigits (significand taken : Nat) : List Char → Nat × Nat × List Char
  | [] => (significand, taken, [])
  | c :: rest =>
    if c.isDigit then
      match extend? significand c with
      | some next => decimalDigits next (taken + 1) rest
      | none => (significand, taken, rest.dropWhile Char.isDigit)
    else (significand, taken, c :: rest)

/-- The exponent at the end of a number. -/
def exponent (text : List Char) : Int :=
  match text with
  | _ :: '-' :: digits => -(Digits.value digits : Int)
  | _ :: '+' :: digits => Digits.value digits
  | _ :: digits => Digits.value digits
  | [] => 0

/-- Whether a significand times a power of ten is small enough. -/
def fits (significand : Nat) (power : Int) : Bool :=
  significand = 0 || power < 0
    || (power ≤ 308 && nearest significand * nearest (Nat.pow 10 power.toNat) < bound)

/-- Whether a number in the notation of JSON is small enough. -/
def isFinite (text : List Char) : Bool :=
  let text := if text.head? = some '-' then text.tail else text
  let (significand, dropped, rest) := wholeDigits 0 0 text
  match rest with
  | '.' :: rest =>
    let (significand, taken, rest) := decimalDigits significand 0 rest
    fits significand (exponent rest + dropped - taken)
  | rest => fits significand (exponent rest + dropped)

end QueryExpr.Magnitude
