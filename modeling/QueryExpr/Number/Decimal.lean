import QueryExpr.Number.Digits

/-!
# Decimal numbers

Signed numbers with a coefficient of 96 bits and at most 28 decimals. Reading keeps the decimals as
they are written; decimals that do not fit are dropped, and the last one kept is rounded up if the
first one dropped is at least five.
-/

namespace QueryExpr

/-- The decimal number `coefficient / 10 ^ scale`, negative if so marked. -/
structure Decimal where
  negative : Bool
  coefficient : Nat
  scale : Nat
  deriving DecidableEq

namespace Decimal

/-- The greatest coefficient. -/
def maxCoefficient : Nat := Nat.pow 2 96 - 1

/-- The greatest number of decimals. -/
def maxScale : Nat := 28

/-- Coefficients below this bound leave room for a further digit in a word of 64 bits. -/
def wordBound : Nat := (Nat.pow 2 64 - 1) / 10 - 255

/-- Round a coefficient and its scale by the first digit dropped. A coefficient that no longer fits
loses one decimal more. -/
def roundUp? (coefficient scale digit : Nat) : Option (Nat × Nat) :=
  if digit < 5 then some (coefficient, scale)
  else if coefficient + 1 ≤ maxCoefficient then some (coefficient + 1, scale)
  else if scale = 0 then none
  else some ((coefficient + 5) / 10, scale - 1)

/-- Whether a text may stand after the first dropped place: digits and underscores. -/
def isDroppable (text : List Char) : Bool :=
  text.all fun c => c.isDigit || c == '_'

/-- Coefficient and scale of unsigned digits with at most one point. `point` tells whether the point
was passed and `started` whether a digit was. Underscores are passed over, except that one in the
first dropped place counts as a zero there if the coefficient but for its last digit is below
`wordBound`. -/
def digits? (point started : Bool) (coefficient scale : Nat) : List Char → Option (Nat × Nat)
  | [] => if started then some (coefficient, scale) else none
  | c :: rest =>
    if c.isDigit then
      let digit := c.toNat - '0'.toNat
      if point ∧ maxScale ≤ scale then
        if isDroppable rest then roundUp? coefficient scale digit else none
      else if coefficient * 10 + digit ≤ maxCoefficient then
        digits? point true (coefficient * 10 + digit) (if point then scale + 1 else scale) rest
      else if point ∧ isDroppable rest then roundUp? coefficient scale digit
      else none
    else if c = '.' ∧ ¬ point then digits? true started coefficient scale rest
    else if c = '_' ∧ started then
      if point ∧ maxScale ≤ scale ∧ coefficient / 10 < wordBound then
        if isDroppable rest then some (coefficient, scale) else none
      else digits? point started coefficient scale rest
    else none

/-- The number with the given sign, coefficient and scale. A zero that is read has no sign. -/
def ofParts (negative : Bool) (parts : Nat × Nat) : Decimal :=
  ⟨negative && parts.1 != 0, parts.1, parts.2⟩

/-- A number in positional notation. -/
def positional? (text : List Char) : Option Decimal :=
  match text with
  | '-' :: rest => (digits? false false 0 0 rest).map (ofParts true)
  | '+' :: rest => (digits? false false 0 0 rest).map (ofParts false)
  | rest => (digits? false false 0 0 rest).map (ofParts false)

/-- An unsigned number below 2 ^ 32, which a plus sign may precede. -/
def exponent? (text : List Char) : Option Nat :=
  let digits : List Char := match text with
    | '+' :: rest => rest
    | rest => rest
  if digits ≠ [] ∧ digits.all Char.isDigit ∧ Digits.value digits < Nat.pow 2 32 then
    some (Digits.value digits)
  else none

/-- The same coefficient with another number of decimals, if there are not too many. -/
def withScale? (number : Decimal) (scale : Nat) : Option Decimal :=
  if scale ≤ maxScale then some { number with scale } else none

/-- A number without some of its decimals, rounded by the first one dropped. The sign stays, also on
a zero. -/
def dropDecimals (number : Decimal) : Nat → Decimal
  | 0 => number
  | count + 1 =>
    let kept := number.coefficient / Nat.pow 10 count
    { number with
      coefficient := if kept % 10 < 5 then kept / 10 else kept / 10 + 1
      scale := number.scale - (count + 1) }

/-- A number divided by a power of ten. Decimals that are too many are dropped. -/
def scaleDown? (number : Decimal) (exponent : Nat) : Option Decimal :=
  if maxScale < exponent then none
  else
    let kept := number.dropDecimals (number.scale + exponent - maxScale)
    kept.withScale? (kept.scale + exponent)

/-- A number times a power of ten. -/
def scaleUp? (number : Decimal) (exponent : Nat) : Option Decimal :=
  if exponent ≤ number.scale then number.withScale? (number.scale - exponent)
  else if maxScale < exponent then none
  else
    let coefficient := number.coefficient * Nat.pow 10 (exponent - number.scale)
    if coefficient ≤ maxCoefficient then some { number with coefficient, scale := 0 } else none

/-- A number in scientific notation. -/
def scientific? (text : List Char) : Option Decimal := do
  let isMark (c : Char) : Bool := c == 'e' || c == 'E'
  let base ← positional? (text.takeWhile (!isMark ·))
  match text.dropWhile (!isMark ·) with
  | [] => none
  | _ :: '-' :: rest => base.scaleDown? (← exponent? rest)
  | _ :: rest => base.scaleUp? (← exponent? rest)

/-- The number that a text holds. -/
def read? (text : List Char) : Option Decimal :=
  positional? text <|> scientific? text

/-- The number in positional notation, with as many decimals as its scale. -/
def text (number : Decimal) : String :=
  let digits := Digits.padded (number.scale + 1) number.coefficient
  let whole := digits.take (digits.length - number.scale)
  let decimals := digits.drop (digits.length - number.scale)
  let sign := if number.negative then ['-'] else []
  String.ofList (sign ++ whole ++ (if decimals = [] then [] else '.' :: decimals))

end Decimal

end QueryExpr
