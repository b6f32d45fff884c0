import QueryExpr.Text.CaseTable

/-!
# Letter case

Upper and lower case of texts by the full mappings of Unicode, under which a character can become
several. A capital sigma at the end of a word has a lower case of its own.
-/

namespace QueryExpr.Case

/-- The character that a run maps a character to. -/
def Run.map? (run : Run) (n : Nat) : Option Char :=
  if run.first ≤ n ∧ n ≤ run.last ∧ (n - run.first) % run.step = 0 then
    some (Char.ofNat ((n : Int) + run.distance).toNat)
  else none

/-- The image of a character beyond ASCII under a mapping. -/
def mapChar (runs : List Run) (long : List (Nat × List Nat)) (c : Char) : List Char :=
  match long.lookup c.toNat with
  | some image => image.map Char.ofNat
  | none =>
    match runs.findSome? (·.map? c.toNat) with
    | some image => [image]
    | none => [c]

/-- The upper case of a character. -/
def upperChar (c : Char) : List Char :=
  if c.toNat < 128 then [c.toUpper] else mapChar upperRuns upperLong c

/-- The lower case of a character that is no final sigma. -/
def lowerChar (c : Char) : List Char :=
  if c.toNat < 128 then [c.toLower] else mapChar lowerRuns lowerLong c

/-- Whether a character lies in one of some ranges. -/
def inRanges (ranges : List (Nat × Nat)) (c : Char) : Bool :=
  ranges.any fun (first, last) => first ≤ c.toNat && c.toNat ≤ last

/-- Characters that are passed over when looking for a letter with case. -/
def isIgnorable (c : Char) : Bool :=
  inRanges ignorableRanges c

/-- Whether the next character that is not ignorable has case. -/
def casedFollows : List Char → Bool
  | [] => false
  | c :: rest => if isIgnorable c then casedFollows rest else inRanges casedRanges c

/-- The lower case of a text; `casedBefore` tells whether the last character before it that is not
ignorable has case. -/
def lowerFrom (casedBefore : Bool) : List Char → List Char
  | [] => []
  | c :: rest =>
    let image := if c = 'Σ' ∧ casedBefore ∧ !casedFollows rest then ['ς'] else lowerChar c
    let casedBefore := if isIgnorable c then casedBefore else inRanges casedRanges c
    image ++ lowerFrom casedBefore rest

/-- The lower case of a text. -/
def lower (text : String) : String :=
  String.ofList (lowerFrom false text.toList)

/-- The upper case of a text. -/
def upper (text : String) : String :=
  String.ofList (text.toList.flatMap upperChar)

end QueryExpr.Case
