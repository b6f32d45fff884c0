import QueryExpr.Proofs.Text.Hex

/-!
# Malformed escapes

A scan of a text takes a character, a backslash with the character after it, or an escape by number
at once, as `Scans` says. A text is `Broken` if a scan of it meets an escape by number that lacks
digits or the other half of its pair. Whatever is well formed can be taken away from the start: a
text that starts with a token is broken exactly if the rest is, by `broken_append_iff`, and so is
one that starts with a pair of surrogates, by `broken_pair_iff`.
-/

namespace QueryExpr.Quoted

open Hex (Digits Halves IsSurrogate isHighSurrogate isLowSurrogate)

/-- The escape of a unit by its number. -/
inductive Numbers (unit : Nat) : List Char → Prop where
  | digits {digits} : Digits unit digits → Numbers unit ('\\' :: 'u' :: digits)

/-- The escapes of a character by its number: one, or two beyond the basic plane. -/
inductive Numbered (c : Char) : List Char → Prop where
  | unit {piece} : Numbers c.toNat piece → Numbered c piece
  | pair {high low first second} : Halves c high low → Numbers high first → Numbers low second →
    Numbered c (first ++ second)

/-- What a scan takes at once: a character, a backslash with the character after it, or an escape by
number. -/
inductive Token where
  | plain (c : Char)
  | escape (letter : Char)
  | unit (unit : Nat)

/-- The text of a token. -/
inductive Token.Written : Token → List Char → Prop where
  | plain {c} : c ≠ '\\' → Written (.plain c) [c]
  | escape {letter} : letter ≠ 'u' → Written (.escape letter) ['\\', letter]
  | unit {unit piece} : Numbers unit piece → Written (.unit unit) piece

/-- The tokens of a text up to a rest of it. -/
inductive Scans : List Char → List Token → List Char → Prop where
  | here {text} : Scans text [] text
  | token {token piece text tokens rest} : Token.Written token piece → Scans text tokens rest →
    Scans (piece ++ text) (token :: tokens) rest

/-- The last of some tokens is the first half of a pair. -/
def AfterHigh (before : List Token) : Prop :=
  ∃ high, isHighSurrogate high ∧ before.getLast? = some (.unit high)

/-- A malformed escape by number after some tokens: digits are missing, or one half of a pair is. -/
inductive Malformed (before : List Token) : List Char → Prop where
  | digits {rest} : (∀ unit digits after, Digits unit digits → rest ≠ digits ++ after) →
    Malformed before ('\\' :: 'u' :: rest)
  | low {unit piece rest} : Numbers unit piece → isLowSurrogate unit → ¬ AfterHigh before →
    Malformed before (piece ++ rest)
  | high {unit piece rest} : Numbers unit piece → isHighSurrogate unit →
    (∀ low second after, Numbers low second → isLowSurrogate low → rest ≠ second ++ after) →
    Malformed before (piece ++ rest)

/-- A scan of a text meets a malformed escape. -/
def Broken (text : List Char) : Prop :=
  ∃ tokens rest, Scans text tokens rest ∧ Malformed tokens rest

variable {c letter : Char} {text piece rest : List Char} {unit : Nat} {token : Token}
  {before tokens : List Token}

/-- A unit that is escaped by its number has 16 bits. -/
lemma Numbers.lt (h : Numbers unit piece) : unit < 0x10000 := by
  obtain ⟨digits⟩ := h
  exact digits.lt

/-- Only one unit is escaped at the start of a text. -/
lemma Numbers.unique {unit' : Nat} {piece' rest' : List Char} (first : Numbers unit piece)
    (second : Numbers unit' piece') (same : piece ++ rest = piece' ++ rest') :
    unit = unit' ∧ rest = rest' := by
  obtain ⟨digits⟩ := first
  obtain ⟨digits'⟩ := second
  exact digits.unique digits' (List.cons.inj (List.cons.inj same).2).2

/-- A character that is escaped by its number starts with a backslash and a letter. -/
lemma Numbered.exists_digits (written : Numbered c piece) :
    ∃ digits, piece = '\\' :: 'u' :: digits := by
  cases written with
  | unit numbers =>
    obtain ⟨_⟩ := numbers
    exact ⟨_, rfl⟩
  | pair _ numbers =>
    obtain ⟨_⟩ := numbers
    exact ⟨_, rfl⟩

/-- Only one token is written at the start of a text. -/
lemma Token.Written.unique {token' : Token} {piece' rest' : List Char}
    (first : Written token piece) (second : Written token' piece')
    (same : piece ++ rest = piece' ++ rest') : token = token' ∧ rest = rest' := by
  cases first with
  | plain ordinary =>
    cases second with
    | plain => cases same; exact ⟨rfl, rfl⟩
    | escape => cases same; exact absurd rfl ordinary
    | unit numbers => obtain ⟨_⟩ := numbers; cases same; exact absurd rfl ordinary
  | escape ordinary =>
    cases second with
    | plain ordinary => cases same; exact absurd rfl ordinary
    | escape => cases same; exact ⟨rfl, rfl⟩
    | unit numbers => obtain ⟨_⟩ := numbers; cases same; exact absurd rfl ordinary
  | unit numbers =>
    cases second with
    | plain ordinary => obtain ⟨_⟩ := numbers; cases same; exact absurd rfl ordinary
    | escape ordinary => obtain ⟨_⟩ := numbers; cases same; exact absurd rfl ordinary
    | unit numbers' =>
      obtain ⟨rfl, rest⟩ := numbers.unique numbers' same
      exact ⟨rfl, rest⟩

/-- A scan stops before the first token, or it goes on after it. -/
lemma scans_append_iff (written : token.Written piece) :
    Scans (piece ++ text) tokens rest ↔ (tokens = [] ∧ rest = piece ++ text) ∨
      ∃ others, tokens = token :: others ∧ Scans text others rest := by
  constructor
  · intro scans
    generalize same : piece ++ text = whole at scans
    cases scans with
    | here => exact .inl ⟨rfl, rfl⟩
    | token written' scans =>
      obtain ⟨rfl, rfl⟩ := written.unique written' same
      exact .inr ⟨_, rfl, scans⟩
  · rintro (⟨rfl, rfl⟩ | ⟨others, rfl, scans⟩)
    · exact .here
    · exact .token written scans

/-- A token before others, or one that is no first half, does not put them behind a first half. -/
lemma afterHigh_cons_iff
    (settled : before ≠ [] ∨ ∀ unit, token = .unit unit → ¬ isHighSurrogate unit) :
    AfterHigh (token :: before) ↔ AfterHigh before := by
  cases before with
  | nil =>
    constructor
    · rintro ⟨high, first, last⟩
      cases last
      obtain more | regular := settled
      · exact absurd rfl more
      · exact absurd first (regular high rfl)
    · rintro ⟨_, _, last⟩
      cases last
  | cons => rw [AfterHigh, List.getLast?_cons_cons]; rfl

/-- Of the tokens before an escape only the last one matters. -/
lemma Malformed.of_afterHigh {before' : List Token} (malformed : Malformed before text)
    (same : AfterHigh before ↔ AfterHigh before') : Malformed before' text := by
  cases malformed with
  | digits missing => exact .digits missing
  | low numbers low lone => exact .low numbers low (mt same.2 lone)
  | high numbers high lone => exact .high numbers high lone

/-- An escape is as malformed behind one more token that starts no pair with it. -/
lemma malformed_cons_iff
    (settled : before ≠ [] ∨ ∀ unit, token = .unit unit → ¬ isHighSurrogate unit) :
    Malformed (token :: before) text ↔ Malformed before text := by
  have after := afterHigh_cons_iff settled
  constructor
  · intro malformed
    exact malformed.of_afterHigh after
  · intro malformed
    exact malformed.of_afterHigh after.symm

/-- Where a text starts with a token, only the token of a surrogate can be malformed. -/
lemma exists_surrogate (written : token.Written piece)
    (malformed : Malformed before (piece ++ text)) :
    ∃ unit, token = .unit unit ∧ (isLowSurrogate unit ∧ ¬ AfterHigh before ∨
      isHighSurrogate unit ∧
        ∀ low second after, Numbers low second → isLowSurrogate low → text ≠ second ++ after) := by
  generalize same : piece ++ text = whole at malformed
  cases malformed with
  | digits missing =>
    -- a token that starts like an escape by number has its digits
    cases written with
    | plain ordinary => cases same; exact absurd rfl ordinary
    | escape ordinary => cases same; exact absurd rfl ordinary
    | unit numbers =>
      obtain ⟨digits⟩ := numbers
      cases same
      exact absurd rfl (missing _ _ _ digits)
  | low numbers low lone =>
    obtain ⟨rfl, -⟩ := written.unique (.unit numbers) same
    exact ⟨_, rfl, .inl ⟨low, lone⟩⟩
  | high numbers high lone =>
    obtain ⟨rfl, rfl⟩ := written.unique (.unit numbers) same
    exact ⟨_, rfl, .inr ⟨high, lone⟩⟩

/-- A text is as broken behind a token that is no surrogate. -/
lemma broken_append_iff (written : token.Written piece)
    (regular : ∀ unit, token = .unit unit → ¬ IsSurrogate unit) :
    Broken (piece ++ text) ↔ Broken text := by
  have settled : ∀ unit, token = .unit unit → ¬ isHighSurrogate unit :=
    fun unit same high => regular unit same (.inl high)
  constructor
  · rintro ⟨tokens, rest, scans, malformed⟩
    obtain ⟨rfl, rfl⟩ | ⟨others, rfl, further⟩ := (scans_append_iff written).1 scans
    · -- a scan that stops before the token finds half of a pair there
      obtain ⟨unit, same, ⟨low, -⟩ | ⟨high, -⟩⟩ := exists_surrogate written malformed
      · exact absurd (.inr low) (regular unit same)
      · exact absurd (.inl high) (regular unit same)
    · exact ⟨others, rest, further, (malformed_cons_iff (.inr settled)).1 malformed⟩
  · rintro ⟨tokens, rest, scans, malformed⟩
    exact ⟨token :: tokens, rest, .token written scans,
      (malformed_cons_iff (.inr settled)).2 malformed⟩

/-- A text is as broken behind a character other than a backslash. -/
lemma broken_plain_iff (ordinary : c ≠ '\\') : Broken (c :: text) ↔ Broken text :=
  broken_append_iff (.plain ordinary) nofun

/-- A text is as broken behind an escape without number. -/
lemma broken_escape_iff (ordinary : letter ≠ 'u') :
    Broken ('\\' :: letter :: text) ↔ Broken text :=
  broken_append_iff (.escape ordinary) nofun

/-- A text is as broken behind a pair of surrogates. -/
lemma broken_pair_iff {high low : Nat} {first second : List Char} (head : Numbers high first)
    (tail : Numbers low second) (isHigh : isHighSurrogate high) (isLow : isLowSurrogate low) :
    Broken (first ++ (second ++ text)) ↔ Broken text := by
  have regular : ∀ unit, Token.unit low = .unit unit → ¬ isHighSurrogate unit := by
    rintro unit ⟨⟩ isHigh
    exact Hex.not_low_of_high isHigh isLow
  constructor
  · rintro ⟨tokens, rest, scans, malformed⟩
    -- a scan that stops at a half of the pair finds the other half where it has to be
    obtain ⟨rfl, rfl⟩ | ⟨others, rfl, further⟩ := (scans_append_iff (.unit head)).1 scans
    · obtain ⟨_, ⟨⟩, ⟨isLow, -⟩ | ⟨-, lone⟩⟩ := exists_surrogate (.unit head) malformed
      · exact absurd isLow (Hex.not_low_of_high isHigh)
      · exact absurd rfl (lone low second text tail isLow)
    obtain ⟨rfl, rfl⟩ | ⟨others, rfl, last⟩ := (scans_append_iff (.unit tail)).1 further
    · obtain ⟨_, ⟨⟩, ⟨-, lone⟩ | ⟨isHigh, -⟩⟩ := exists_surrogate (.unit tail) malformed
      · exact absurd ⟨high, isHigh, rfl⟩ lone
      · exact absurd isHigh (regular low rfl)
    · -- the first half matters to what follows only through the second, which comes after it
      have malformed := (malformed_cons_iff (.inl (List.cons_ne_nil _ _))).1 malformed
      exact ⟨others, rest, last, (malformed_cons_iff (.inr regular)).1 malformed⟩
  · rintro ⟨tokens, rest, scans, malformed⟩
    have malformed := (malformed_cons_iff (.inr regular)).2 malformed
    exact ⟨_, rest, .token (.unit head) (.token (.unit tail) scans),
      (malformed_cons_iff (.inl (List.cons_ne_nil _ _))).2 malformed⟩

/-- A text is as broken behind a character that is escaped by its number. -/
lemma broken_number_iff (written : Numbered c piece) : Broken (piece ++ text) ↔ Broken text := by
  cases written with
  | unit numbers =>
    apply broken_append_iff (.unit numbers)
    rintro _ ⟨⟩
    exact Hex.not_isSurrogate c
  | pair halves first second =>
    obtain ⟨high, low, -⟩ := Hex.halves_iff.1 halves
    rw [List.append_assoc]
    exact broken_pair_iff first second high low

/-- An escape by number that gives no character is malformed where it stands. -/
lemma malformed_of_not_numbered
    (missing : ∀ c piece rest, Numbered c piece → '\\' :: 'u' :: text ≠ piece ++ rest) :
    Malformed [] ('\\' :: 'u' :: text) := by
  -- what has its digits and is no surrogate would be the escape of a character
  by_cases read : ∃ unit digits after, Digits unit digits ∧ text = digits ++ after
  · obtain ⟨unit, digits, after, read, rfl⟩ := read
    have numbers := Numbers.digits read
    by_cases high : isHighSurrogate unit
    · apply Malformed.high numbers high
      rintro low second rest numbers' isLow rfl
      have halves := Hex.halves_iff.2 ⟨high, isLow, rfl⟩
      apply missing _ _ rest (.pair halves numbers numbers')
      rw [List.append_assoc]
      rfl
    · by_cases low : isLowSurrogate unit
      · apply Malformed.low numbers low
        rintro ⟨_, _, last⟩
        cases last
      · have small := read.lt
        have code := Hex.toNat_ofNat (not_or.2 ⟨high, low⟩) (by omega)
        rw [← code] at numbers
        exact absurd rfl (missing _ _ after (.unit numbers))
  · apply Malformed.digits
    intro unit digits after here same
    exact read ⟨unit, digits, after, here, same⟩

/-- What a scan leaves is no longer than the text. -/
lemma length_le_of_scans (scans : Scans text tokens rest) : rest.length ≤ text.length := by
  induction scans with
  | here => exact Nat.le_refl _
  | token _ _ ih =>
    rw [List.length_append]
    exact Nat.le_add_left_of_le ih

/-- A malformed escape has at least its backslash and its letter. -/
lemma two_le_length_of_broken (broken : Broken text) : 2 ≤ text.length := by
  obtain ⟨tokens, rest, scans, malformed⟩ := broken
  have long : 2 ≤ rest.length := by
    cases malformed with
    | digits => exact Nat.le_add_left 2 _
    | low numbers | high numbers =>
      obtain ⟨_⟩ := numbers
      exact Nat.le_add_left 2 _
  exact Nat.le_trans long (length_le_of_scans scans)

end QueryExpr.Quoted
