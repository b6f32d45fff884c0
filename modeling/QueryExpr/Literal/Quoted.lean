import QueryExpr.Text.Hex

/-!
# Quoted text

String literals as they are written, with their delimiters. Inside, a doubled delimiter stands for
one delimiter, and a backslash begins an escape: a letter, a quote, or the letter `u` with four
hexadecimal digits. A backslash before any other character is kept. Surrogates come in pairs.
-/

namespace QueryExpr.Quoted

open Hex (isHighSurrogate isLowSurrogate joinSurrogates)

/-- The unit that four hexadecimal digits stand for. -/
def unit? (a b c d : Char) : Option Nat := do
  return (((← Hex.value? a) * 16 + (← Hex.value? b)) * 16 + (← Hex.value? c)) * 16
    + (← Hex.value? d)

/-- The escape of a unit, with four digits. -/
def unitText (unit : Nat) : String :=
  String.ofList ['\\', 'u', Hex.upperDigit (unit / 4096 % 16), Hex.upperDigit (unit / 256 % 16),
    Hex.upperDigit (unit / 16 % 16), Hex.upperDigit (unit % 16)]

/-- The character of an escape of one letter, and quotes and backslashes for themselves. -/
def shortEscape? : Char → Option Char
  | 'b' => some '\x08'
  | 't' => some '\t'
  | 'n' => some '\n'
  | 'f' => some '\x0c'
  | 'r' => some '\r'
  | '\\' => some '\\'
  | '\'' => some '\''
  | '"' => some '"'
  | '\x60' => some '\x60'
  | _ => none

/-- The low surrogate that an escape directly at the start of a text gives, and the rest. -/
def lowSurrogate? : List Char → Option (Nat × List Char)
  | '\\' :: 'u' :: a :: b :: c :: d :: rest =>
    match unit? a b c d with
    | some unit => if isLowSurrogate unit then some (unit, rest) else none
    | none => none
  | _ => none

/-- The character of an escape by number and the rest of the text after it; the letter `u` has been
read. A malformed escape is given back as it is reported. -/
def numbered (text : List Char) : Except String (Char × List Char) :=
  match text with
  | a :: b :: c :: d :: rest =>
    match unit? a b c d with
    | none => .error (String.ofList ['\\', 'u', a, b, c, d])
    | some unit =>
      if isHighSurrogate unit then
        match lowSurrogate? rest with
        | some (low, rest) => .ok (Char.ofNat (joinSurrogates unit low), rest)
        | none => .error (unitText unit)
      else if isLowSurrogate unit then .error (unitText unit)
      else .ok (Char.ofNat unit, rest)
  | short => .error (String.ofList ('\\' :: 'u' :: short))

/-- Reading the second half of a pair leaves less of the text. -/
theorem length_lt_of_lowSurrogate? {text rest : List Char} {unit : Nat}
    (h : lowSurrogate? text = some (unit, rest)) : rest.length < text.length := by
  unfold lowSurrogate? at h
  split at h
  · split at h
    · split at h
      · simp only [Option.some.injEq, Prod.mk.injEq] at h
        simp only [List.length_cons, ← h.2]; omega
      · simp at h
    · simp at h
  · simp at h

/-- Reading an escape by number leaves less of the text. -/
theorem length_lt_of_numbered {text rest : List Char} {c : Char}
    (h : numbered text = .ok (c, rest)) : rest.length < text.length := by
  unfold numbered at h
  split at h
  · split at h
    · simp at h
    · split at h
      · split at h
        · next low =>
          simp only [Except.ok.injEq, Prod.mk.injEq] at h
          have := length_lt_of_lowSurrogate? low
          simp only [List.length_cons, ← h.2]; omega
        · simp at h
      · split at h
        · simp at h
        · simp only [Except.ok.injEq, Prod.mk.injEq] at h
          simp only [List.length_cons, ← h.2]; omega
  · simp at h

/-- The text that stands between delimiters. -/
def decodeBody (delimiter : Char) (text : List Char) : Except String (List Char) :=
  match text with
  | [] => .ok []
  | c :: rest =>
    if (c = '\'' ∨ c = '"') ∧ c = delimiter then
      (decodeBody delimiter rest.tail).map (c :: ·)
    else if c = '\\' then
      match rest with
      | [] => .ok ['\\']
      | 'u' :: rest =>
        match h : numbered rest with
        | .error escape => .error escape
        | .ok (decoded, rest') =>
          have := length_lt_of_numbered h
          (decodeBody delimiter rest').map (decoded :: ·)
      | letter :: rest =>
        match shortEscape? letter with
        | some decoded => (decodeBody delimiter rest).map (decoded :: ·)
        | none => (decodeBody delimiter rest).map ('\\' :: letter :: ·)
    else (decodeBody delimiter rest).map (c :: ·)
termination_by text.length
decreasing_by all_goals simp only [List.length_cons, List.length_tail]; omega

/-- The text that a literal with its delimiters stands for, or the malformed escape in it. The first
character is the delimiter, and the last one is dropped whatever it is. -/
def decode (raw : String) : Except String String :=
  match raw.toList with
  | [] => .ok ""
  | delimiter :: rest => (decodeBody delimiter rest.dropLast).map String.ofList

end QueryExpr.Quoted
