/-!
# Decimal digits

The number that decimal digits stand for, and the digits of a number.
-/

namespace QueryExpr.Digits

/-- The number that decimal digits stand for. -/
def value (digits : List Char) : Nat :=
  digits.foldl (fun n c => n * 10 + (c.toNat - '0'.toNat)) 0

/-- The digits of a number, with zeros in front up to a number of places. -/
def padded (places n : Nat) : List Char :=
  let digits := Nat.toDigits 10 n
  List.replicate (places - digits.length) '0' ++ digits

/-- The text of a number, with zeros in front up to a number of places. -/
def text (places n : Nat) : String :=
  String.ofList (padded places n)

end QueryExpr.Digits
