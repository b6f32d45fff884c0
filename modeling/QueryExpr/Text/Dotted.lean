/-!
# Dotted names

Names such as `com.example.Color.RED`: their segments, the text made of segments, and the split at
the last dot.
-/

namespace QueryExpr.Dotted

/-- The pieces of a text between separators; there is always at least one. -/
def pieces (separator : Char) : List Char → List (List Char)
  | [] => [[]]
  | c :: rest =>
    if c = separator then [] :: pieces separator rest
    else
      match pieces separator rest with
      | [] => [[c]]
      | piece :: others => (c :: piece) :: others

/-- What stands before and after the last separator, if there is one. -/
def splitLast? (separator : Char) : List Char → Option (List Char × List Char)
  | [] => none
  | c :: rest =>
    match splitLast? separator rest with
    | some (before, after) => some (c :: before, after)
    | none => if c = separator then some ([], rest) else none

/-- The segments of a dotted name. -/
def segments (name : String) : List String :=
  (pieces '.' name.toList).map String.ofList

/-- The dotted name made of some segments. -/
def join (names : List String) : String :=
  String.ofList (List.intercalate ['.'] (names.map String.toList))

/-- The name of the owner and the last segment of a dotted name. -/
def owner? (name : String) : Option (String × String) :=
  (splitLast? '.' name.toList).map fun (before, after) =>
    (String.ofList before, String.ofList after)

/-- The segment after the last dot, which is the whole name if there is no dot. -/
def simpleName (name : String) : String :=
  match owner? name with
  | some (_, simple) => simple
  | none => name

/-- The name with every dot replaced by an underscore. -/
def underscored (name : String) : String :=
  String.ofList (name.toList.map fun c => if c = '.' then '_' else c)

/-- A text has at least one piece, whatever separates them. -/
theorem pieces_ne_nil (separator : Char) (text : List Char) : pieces separator text ≠ [] := by
  cases text with
  | nil => simp [pieces]
  | cons c rest =>
    by_cases h : c = separator
    · simp [pieces, h]
    · cases hp : pieces separator rest <;> simp [pieces, h, hp]

/-- A dotted name has at least one segment. -/
theorem segments_ne_nil (name : String) : segments name ≠ [] := by
  simp [segments, pieces_ne_nil]

end QueryExpr.Dotted
