/-!
# Terminal styles

Weights and colours of terminal text. A style begins with its sequence and ends with the reset
sequence; where the text itself resets, the style begins again.
-/

namespace QueryExpr.Terminal

/-- The style of a piece of text. -/
inductive Style where
  | bold
  | cyan
  | blue
  | green
  | boldRed
  | boldCyan
  deriving DecidableEq

/-- The parameters of the sequence that begins a style. -/
def Style.parameters : Style → String
  | bold => "1"
  | cyan => "36"
  | blue => "34"
  | green => "32"
  | boldRed => "1;31"
  | boldCyan => "1;36"

/-- The sequence with some parameters. -/
def sequence (parameters : String) : List Char :=
  '\x1b' :: '[' :: (parameters.toList ++ ['m'])

/-- A text with a style begun again after every reset in it. -/
def resume (begin : List Char) : List Char → List Char
  | [] => []
  | '\x1b' :: '[' :: '0' :: 'm' :: rest => sequence "0" ++ begin ++ resume begin rest
  | c :: rest => c :: resume begin rest

/-- A text in a style, or as it is where styles are off. -/
def paint (color : Bool) (style : Style) (text : String) : String :=
  if color then
    let begin := sequence style.parameters
    String.ofList (begin ++ resume begin text.toList ++ sequence "0")
  else text

end QueryExpr.Terminal
