/-!
# Hexadecimal escapes

Hexadecimal digits, and the surrogates by which escapes with four digits name the characters beyond
the basic plane.
-/

namespace QueryExpr.Hex

/-- The value of a hexadecimal digit. -/
def value? (c : Char) : Option Nat :=
  if '0' ≤ c ∧ c ≤ '9' then some (c.toNat - '0'.toNat)
  else if 'a' ≤ c ∧ c ≤ 'f' then some (c.toNat - 'a'.toNat + 10)
  else if 'A' ≤ c ∧ c ≤ 'F' then some (c.toNat - 'A'.toNat + 10)
  else none

/-- The digit of a number below sixteen, in lower case. -/
def lowerDigit (n : Nat) : Char :=
  if n < 10 then Char.ofNat ('0'.toNat + n) else Char.ofNat ('a'.toNat + (n - 10))

/-- The digit of a number below sixteen, in upper case. -/
def upperDigit (n : Nat) : Char :=
  if n < 10 then Char.ofNat ('0'.toNat + n) else Char.ofNat ('A'.toNat + (n - 10))

/-- First halves of surrogate pairs. -/
def isHighSurrogate (unit : Nat) : Bool :=
  0xD800 ≤ unit && unit < 0xDC00

/-- Second halves of surrogate pairs. -/
def isLowSurrogate (unit : Nat) : Bool :=
  0xDC00 ≤ unit && unit < 0xE000

/-- The code point of a pair of surrogates. -/
def joinSurrogates (high low : Nat) : Nat :=
  0x10000 + (high - 0xD800) * 0x400 + (low - 0xDC00)

/-- The characters that some code units in reverse stand for, before those given. Surrogates have to
come in pairs; every other unit is a character by itself. -/
def charsBefore? (chars : List Char) : List Nat → Option (List Char)
  | [] => some chars
  | low :: high :: rest =>
    if isLowSurrogate low then
      if isHighSurrogate high then
        charsBefore? (Char.ofNat (joinSurrogates high low) :: chars) rest
      else none
    else if isHighSurrogate low then none
    else charsBefore? (Char.ofNat low :: chars) (high :: rest)
  | [unit] =>
    if isHighSurrogate unit || isLowSurrogate unit then none
    else some (Char.ofNat unit :: chars)

end QueryExpr.Hex
