import Mathlib.Data.List.Forall2
import QueryExpr.Literal.Quoted
import QueryExpr.Proofs.Literal.Escape
import QueryExpr.Proofs.Traced

/-!
# Decoding of quoted text

`Encodes` says how a character can be written between delimiters, and by `decodeBody_append` what is
written for a character is read as that character, whatever follows it. Decoding fails only for a
malformed escape by number, and by `decode_delimited_iff` it does so exactly for `Broken` texts.
-/

namespace QueryExpr.Quoted

open Hex (Digits isLowSurrogate)

/-- The characters with an escape of one letter, each with that letter. -/
def shortEscapes : List (Char × Char) :=
  [('\x08', 'b'), ('\t', 't'), ('\n', 'n'), ('\x0c', 'f'), ('\r', 'r'), ('\\', '\\'),
    ('\'', '\''), ('"', '"'), ('\x60', '\x60')]

/-- The ways to write a character between delimiters. -/
inductive Encodes (delimiter : Char) : Char → List Char → Prop where
  | plain {c} : c ≠ delimiter → c ≠ '\\' → Encodes delimiter c [c]
  | doubled : Encodes delimiter delimiter [delimiter, delimiter]
  | short {c letter} : (c, letter) ∈ shortEscapes → Encodes delimiter c ['\\', letter]
  | number {c piece} : Numbered c piece → Encodes delimiter c piece

variable {delimiter c letter : Char} {text piece rest : List Char} {unit : Nat}

/-- Four characters are read as a unit if they are the digits of it. -/
lemma unit?_eq_some_iff {a b c d : Char} :
    unit? a b c d = some unit ↔ Digits unit [a, b, c, d] := by
  simp only [unit?, Option.bind_eq_bind, Option.bind_eq_some_iff, Option.pure_def,
    Option.some.injEq, Hex.value?_eq_some_iff]
  constructor
  · rintro ⟨w, first, x, second, y, third, z, fourth, rfl⟩
    exact .four first second third fourth
  · intro h
    cases h with
    | four first second third fourth => exact ⟨_, first, _, second, _, third, _, fourth, rfl⟩

/-- The escape of a unit is a backslash, a letter and four characters read as the unit. -/
lemma Numbers.exists_unit? (h : Numbers unit piece) :
    ∃ a b c d, piece = ['\\', 'u', a, b, c, d] ∧ unit? a b c d = some unit := by
  obtain ⟨digits⟩ := h
  have read := digits
  cases digits with
  | four => exact ⟨_, _, _, _, rfl, unit?_eq_some_iff.2 read⟩

/-- Four characters that are read as a unit escape it. -/
lemma Numbers.of_unit? {a b c d : Char} (h : unit? a b c d = some unit) :
    Numbers unit ['\\', 'u', a, b, c, d] :=
  .digits (unit?_eq_some_iff.1 h)

/-- A second half of a pair is read where a text starts with the escape of one. -/
lemma lowSurrogate?_eq_some_iff :
    lowSurrogate? text = some (unit, rest) ↔
      isLowSurrogate unit ∧ ∃ piece, Numbers unit piece ∧ text = piece ++ rest := by
  constructor
  · intro h
    unfold lowSurrogate? at h
    split at h
    · split at h
      · next read =>
        split at h
        · next low =>
          cases h
          exact ⟨low, _, .of_unit? read, rfl⟩
        · cases h
      · cases h
    · cases h
  · rintro ⟨low, piece, numbers, rfl⟩
    obtain ⟨a, b, c, d, rfl, read⟩ := numbers.exists_unit?
    simp [lowSurrogate?, read, low]

/-- The escapes that are read by number, without the letter that has been read. -/
lemma numbered_ok_iff :
    numbered text = .ok (c, rest) ↔
      ∃ piece, Numbered c piece ∧ '\\' :: 'u' :: text = piece ++ rest := by
  constructor
  · intro h
    unfold numbered at h
    split at h
    · split at h
      · cases h
      · next unit read =>
        have first := Numbers.of_unit? read
        split at h
        · next high =>
          split at h
          · next found =>
            simp only [Except.ok.injEq, Prod.mk.injEq] at h
            obtain ⟨rfl, rfl⟩ := h
            obtain ⟨low, piece, second, rfl⟩ := lowSurrogate?_eq_some_iff.1 found
            refine ⟨_, .pair (Hex.halves_iff.2 ⟨high, low, rfl⟩) first second, ?_⟩
            rw [List.append_assoc]
            rfl
          · cases h
        · next high =>
          split at h
          · cases h
          · next low =>
            -- a unit of four digits that is no surrogate is the code point of the character
            simp only [Except.ok.injEq, Prod.mk.injEq] at h
            obtain ⟨rfl, rfl⟩ := h
            have small := first.lt
            have code := Hex.toNat_ofNat (not_or.2 ⟨high, low⟩) (by omega)
            rw [← code] at first
            exact ⟨_, .unit first, rfl⟩
    · cases h
  · rintro ⟨piece, written, same⟩
    cases written with
    | unit numbers =>
      obtain ⟨w, x, y, z, rfl, read⟩ := numbers.exists_unit?
      cases same
      have regular := not_or.1 (Hex.not_isSurrogate c)
      simp [numbered, read, regular.1, regular.2, Char.ofNat_toNat]
    | @pair _ unit _ piece halves first second =>
      obtain ⟨high, low, joined⟩ := Hex.halves_iff.1 halves
      obtain ⟨w, x, y, z, rfl, read⟩ := first.exists_unit?
      rw [List.append_assoc] at same
      cases same
      have found : lowSurrogate? (piece ++ rest) = some (unit, rest) :=
        lowSurrogate?_eq_some_iff.2 ⟨low, piece, second, rfl⟩
      simp [numbered, read, high, found, joined]

/-- A short escape is read as the character that it stands for. -/
lemma shortEscape?_of_mem (h : (c, letter) ∈ shortEscapes) : shortEscape? letter = some c := by
  have all : ∀ pair ∈ shortEscapes, shortEscape? pair.2 = some pair.1 := by decide
  exact all _ h

/-- A character other than the delimiter and the backslash stands for itself. -/
lemma decodeBody_plain (different : c ≠ delimiter) (escape : c ≠ '\\') :
    decodeBody delimiter (c :: rest) = (decodeBody delimiter rest).map (c :: ·) := by
  have ordinary : ¬ ((c = '\'' ∨ c = '"') ∧ c = delimiter) := fun h => different h.2
  rw [decodeBody.eq_def]
  simp only [if_neg ordinary, if_neg escape]

/-- A doubled delimiter stands for the delimiter. -/
lemma decodeBody_doubled (quote : delimiter = '\'' ∨ delimiter = '"') :
    decodeBody delimiter (delimiter :: delimiter :: rest) =
      (decodeBody delimiter rest).map (delimiter :: ·) := by
  rw [decodeBody.eq_def]
  simp only [and_true, if_pos quote, List.tail_cons]

/-- A short escape stands for its character. -/
lemma decodeBody_short (short : shortEscape? letter = some c) :
    decodeBody delimiter ('\\' :: letter :: rest) = (decodeBody delimiter rest).map (c :: ·) := by
  have number : letter ≠ 'u' := by
    rintro rfl
    cases short
  rw [decodeBody.eq_4 _ _ _ _ number, if_neg (fun h => absurd h.1 (by decide)), if_pos rfl]
  simp only [short]

/-- A character that is escaped by its number is read back. -/
lemma decodeBody_number (written : Numbered c piece) :
    decodeBody delimiter (piece ++ rest) = (decodeBody delimiter rest).map (c :: ·) := by
  obtain ⟨digits, rfl⟩ := written.exists_digits
  have read : numbered (digits ++ rest) = .ok (c, rest) := numbered_ok_iff.2 ⟨_, written, rfl⟩
  rw [List.cons_append, List.cons_append, decodeBody.eq_3,
    if_neg (fun h => absurd h.1 (by decide)), if_pos rfl]
  split
  · next failed =>
    cases read.symm.trans failed
  · next found =>
    cases read.symm.trans found
    rfl

/-- A character is read back from any of its encodings. -/
lemma decodeBody_append (quote : delimiter = '\'' ∨ delimiter = '"')
    (encodes : Encodes delimiter c piece) :
    decodeBody delimiter (piece ++ rest) = (decodeBody delimiter rest).map (c :: ·) := by
  cases encodes with
  | plain different escape => exact decodeBody_plain different escape
  | doubled => exact decodeBody_doubled quote
  | short member => exact decodeBody_short (shortEscape?_of_mem member)
  | number written => exact decodeBody_number written

/-- A text is read back from encodings of its characters. -/
lemma decodeBody_flatten (quote : delimiter = '\'' ∨ delimiter = '"') {pieces : List (List Char)}
    (encodes : List.Forall₂ (Encodes delimiter) text pieces) :
    decodeBody delimiter pieces.flatten = .ok text := by
  induction encodes with
  | nil => rw [List.flatten_nil, decodeBody]
  | cons here _ ih => rw [List.flatten_cons, decodeBody_append quote here, ih]; rfl

/-- Without delimiters in it, a text fails to decode exactly if it is broken. -/
lemma decodeBody_error_iff (absent : delimiter ∉ text) :
    (∃ escape, decodeBody delimiter text = .error escape) ↔ Broken text := by
  -- the cases are those of the decoder; the second is the delimiter, which does not occur
  fun_induction decodeBody delimiter text with
  | case1 =>
    exact ⟨nofun, fun broken => absurd (two_le_length_of_broken broken) (by decide)⟩
  | case2 c rest closes ih =>
    exact absurd (List.mem_cons.2 (.inl closes.2.symm)) absent
  | case3 =>
    exact ⟨nofun, fun broken => absurd (two_le_length_of_broken broken) (by decide)⟩
  | case4 rest escape failed _ =>
    have missing : ∀ c piece after, Numbered c piece → '\\' :: 'u' :: rest ≠ piece ++ after := by
      intro c piece after written same
      cases failed.symm.trans (numbered_ok_iff.2 ⟨piece, written, same⟩)
    exact ⟨fun _ => ⟨[], _, .here, malformed_of_not_numbered missing⟩, fun _ => ⟨escape, rfl⟩⟩
  | case5 text decoded rest read _ _ ih =>
    obtain ⟨piece, written, same⟩ := numbered_ok_iff.1 read
    rw [same] at absent ⊢
    have later : delimiter ∉ rest := fun member => absent (List.mem_append_right _ member)
    simp only [except_map_error]
    rw [broken_number_iff written, ih later]
  | case6 letter rest number _ _ _ ih | case7 letter rest number _ _ ih =>
    have later : delimiter ∉ rest := by
      intro member
      apply absent
      exact List.mem_cons_of_mem _ (List.mem_cons_of_mem _ member)
    simp only [except_map_error]
    rw [broken_escape_iff number, ih later]
  | case8 c rest _ ordinary ih =>
    have later : delimiter ∉ rest := fun member => absent (List.mem_cons_of_mem _ member)
    simp only [except_map_error]
    rw [broken_plain_iff ordinary, ih later]

/-- A literal with a body between its delimiters. -/
def delimited (delimiter : Char) (body : List Char) : String :=
  String.ofList (delimiter :: (body ++ [delimiter]))

/-- A delimited text is decoded by its body. -/
lemma decode_delimited (body : List Char) :
    decode (delimited delimiter body) = (decodeBody delimiter body).map String.ofList := by
  rw [decode, delimited, String.toList_ofList]
  simp only [List.dropLast_concat]

/-- Text written character by character in any admissible way is read back, and a literal without
inner delimiters is refused exactly if a scan of it meets a malformed escape. -/
theorem decode_delimited_iff (quote : delimiter = '\'' ∨ delimiter = '"') :
    (∀ (text : String) (pieces : List (List Char)),
      List.Forall₂ (Encodes delimiter) text.toList pieces →
        decode (delimited delimiter pieces.flatten) = .ok text) ∧
    ∀ body : List Char, delimiter ∉ body →
      ((∃ escape, decode (delimited delimiter body) = .error escape) ↔ Broken body) := by
  constructor
  · intro text pieces encodes
    rw [decode_delimited, decodeBody_flatten quote encodes]
    exact congrArg Except.ok String.ofList_toList
  · intro body absent
    rw [decode_delimited]
    simp only [except_map_error]
    exact decodeBody_error_iff absent

/-- A doubled delimiter and an escaped pair are read as two characters; half a pair is refused. -/
theorem decode_delimited_iff_pair :
    let pair := "\\ud83d\\uDE00".toList
    List.Forall₂ (Encodes '\'') "'😀".toList [['\'', '\''], pair] ∧
      decode "'''\\ud83d\\uDE00'" = .ok "'😀" ∧
      '\'' ∉ "\\uD83D0".toList ∧ ∃ escape, decode "'\\uD83D0'" = .error escape := by
  intro pair
  have halves : Hex.Halves '😀' 0xD83D 0xDE00 := ⟨by decide, by decide, by decide⟩
  have first : Numbers 0xD83D ['\\', 'u', 'd', '8', '3', 'd'] := .of_unit? rfl
  have second : Numbers 0xDE00 ['\\', 'u', 'D', 'E', '0', '0'] := .of_unit? rfl
  have encodes : List.Forall₂ (Encodes '\'') "'😀".toList [['\'', '\''], pair] :=
    .cons .doubled (.cons (.number (.pair halves first second)) .nil)
  have absent : '\'' ∉ "\\uD83D0".toList := by decide
  have broken : Broken "\\uD83D0".toList := by
    have lone : Numbers 0xD83D ['\\', 'u', 'D', '8', '3', 'D'] := .of_unit? rfl
    have malformed : Malformed [] (['\\', 'u', 'D', '8', '3', 'D'] ++ ['0']) := by
      apply Malformed.high lone (by decide)
      rintro low second after ⟨_⟩ _ same
      cases same
    exact ⟨[], _, .here, malformed⟩
  obtain ⟨read, refused⟩ := decode_delimited_iff (.inl rfl : '\'' = '\'' ∨ '\'' = '"')
  exact ⟨encodes, read _ _ encodes, absent, (refused _ absent).2 broken⟩

end QueryExpr.Quoted
