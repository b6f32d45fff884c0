import Mathlib.Tactic.Lemma
import QueryExpr.Json.Reader
import QueryExpr.Json.Record

/-!
# Numbers in JSON

The grammar of numbers, stated apart from the machine that reads them: a sign, an integer part
without needless zeros, a fraction and an exponent. The machine takes every such text and may end
after it, and the digits of a natural number are one.
-/

namespace QueryExpr.Json

/-- One digit or more. -/
def AreDigits (text : List Char) : Prop :=
  text ≠ [] ∧ ∀ c ∈ text, c.isDigit

/-- The integer part of a number. It begins with zero only if that is all of it. -/
inductive Whole : List Char → Prop where
  | zero : Whole ['0']
  | positive {c rest} : c.isDigit → c ≠ '0' → (∀ d ∈ rest, d.isDigit) → Whole (c :: rest)

/-- The fraction of a number, if it has one. -/
inductive Fraction : List Char → Prop where
  | absent : Fraction []
  | point {digits} : AreDigits digits → Fraction ('.' :: digits)

/-- The exponent of a number, if it has one. -/
inductive Exponent : List Char → Prop where
  | absent : Exponent []
  | letter {letter sign digits} : letter = 'e' ∨ letter = 'E' →
    sign = [] ∨ sign = ['+'] ∨ sign = ['-'] → AreDigits digits →
    Exponent (letter :: (sign ++ digits))

/-- A number as JSON writes it. -/
inductive IsNumber : List Char → Prop where
  | parts {sign whole fraction exponent} : sign = [] ∨ sign = ['-'] → Whole whole →
    Fraction fraction → Exponent exponent → IsNumber (sign ++ (whole ++ (fraction ++ exponent)))

variable {part target : NumberPart} {c : Char} {text : List Char}

namespace NumberPart

/-- The part a number is in after some more text. -/
def after? (part : NumberPart) (text : List Char) : Option NumberPart :=
  text.foldlM next? part

/-- A number is read one character after another. -/
lemma after?_cons : part.after? (c :: text) = (part.next? c).bind (·.after? text) :=
  List.foldlM_cons

/-- A number is read in two parts one after the other. -/
lemma after?_append (first rest : List Char) :
    part.after? (first ++ rest) = (part.after? first).bind (·.after? rest) :=
  List.foldlM_append

/-- The part that digits lead to, wherever any digit may stand. -/
def digits? : NumberPart → Option NumberPart
  | integer => some integer
  | point | fraction => some fraction
  | letter | exponentSign | exponent => some exponent
  | sign | zero => none

/-- Where digits can follow, each leads to the same part of a number. -/
lemma next?_digit (leads : part.digits? = some target) (digit : c.isDigit) :
    part.next? c = some target := by
  cases part <;> cases leads <;> exact if_pos digit

/-- After a digit further digits can follow. -/
lemma digits?_digits (leads : part.digits? = some target) : target.digits? = some target := by
  cases part <;> cases leads <;> rfl

/-- Digits stay in a part of a number that they lead to itself. -/
lemma after?_all (stays : part.digits? = some part) (all : ∀ c ∈ text, c.isDigit) :
    part.after? text = some part := by
  induction text with
  | nil => rfl
  | cons c rest ih =>
    obtain ⟨first, others⟩ := List.forall_mem_cons.1 all
    rw [after?_cons, next?_digit stays first]
    exact ih others

/-- Digits lead to the part of a number that a single one leads to. -/
lemma after?_digits (leads : part.digits? = some target) (h : AreDigits text) :
    part.after? text = some target := by
  obtain ⟨nonempty, all⟩ := h
  cases text with
  | nil => exact absurd rfl nonempty
  | cons c rest =>
    obtain ⟨first, others⟩ := List.forall_mem_cons.1 all
    rw [after?_cons, next?_digit leads first]
    exact after?_all (digits?_digits leads) others

/-- The whole part of a number is read up to its end. -/
lemma after?_whole (h : Whole text) :
    ∃ next, sign.after? text = some next ∧ (next = zero ∨ next = integer) := by
  cases h with
  | zero => exact ⟨zero, rfl, .inl rfl⟩
  | positive digit nonzero rest =>
    refine ⟨integer, ?_, .inr rfl⟩
    rw [after?_cons, next?, if_neg nonzero, if_pos digit]
    exact after?_all rfl rest

/-- A fraction is read behind the whole part. -/
lemma after?_fraction (start : part = zero ∨ part = integer) (h : Fraction text) :
    ∃ next, part.after? text = some next ∧ (next = zero ∨ next = integer ∨ next = fraction) := by
  cases h with
  | absent => exact ⟨part, rfl, start.imp_right .inl⟩
  | point digits =>
    refine ⟨fraction, ?_, .inr (.inr rfl)⟩
    have opened : part.next? '.' = some point := by
      rcases start with rfl | rfl <;> rfl
    rw [after?_cons, opened]
    exact after?_digits rfl digits

/-- An exponent is read behind what stands before it, and the number is complete. -/
lemma after?_exponent (start : part = zero ∨ part = integer ∨ part = fraction)
    (h : Exponent text) : ∃ last, part.after? text = some last ∧ last.isComplete := by
  cases h with
  | absent =>
    refine ⟨part, rfl, ?_⟩
    rcases start with rfl | rfl | rfl <;> rfl
  | @letter e sign digits isLetter isSign areDigits =>
    refine ⟨exponent, ?_, rfl⟩
    have opened : part.next? e = some letter := by
      rcases start with rfl | rfl | rfl <;> rcases isLetter with rfl | rfl <;> rfl
    rw [after?_cons, opened]
    have signed : exponentSign.after? digits = some exponent := after?_digits rfl areDigits
    rcases isSign with rfl | rfl | rfl
    · exact after?_digits rfl areDigits
    · exact signed
    · exact signed

/-- A number without its sign is read to its end. -/
lemma after?_unsigned {whole behind power : List Char} (isWhole : Whole whole)
    (isFraction : Fraction behind) (isExponent : Exponent power) :
    ∃ last, sign.after? (whole ++ (behind ++ power)) = some last ∧ last.isComplete := by
  obtain ⟨first, read, start⟩ := after?_whole isWhole
  obtain ⟨second, read', start'⟩ := after?_fraction start isFraction
  obtain ⟨last, read'', complete⟩ := after?_exponent start' isExponent
  refine ⟨last, ?_, complete⟩
  rw [after?_append, read, Option.bind_some, after?_append, read', Option.bind_some, read'']

end NumberPart

/-- The machine takes every number from its first character on and may end after it. -/
lemma IsNumber.read (h : IsNumber text) : ∃ c rest part last, text = c :: rest ∧
    NumberPart.ofFirst? c = some part ∧ part.after? rest = some last ∧ last.isComplete := by
  obtain @⟨sign, whole, fraction, exponent, isSign, isWhole, isFraction, isExponent⟩ := h
  obtain ⟨last, read, complete⟩ := NumberPart.after?_unsigned isWhole isFraction isExponent
  rcases isSign with rfl | rfl
  · obtain ⟨c, rest, same⟩ : ∃ c rest, whole ++ (fraction ++ exponent) = c :: rest := by
      cases isWhole <;> exact ⟨_, _, rfl⟩
    rw [same, NumberPart.after?_cons] at read
    obtain ⟨part, first, others⟩ := Option.bind_eq_some_iff.1 read
    have unsigned : c ≠ '-' := by
      rintro rfl
      cases first
    refine ⟨c, rest, part, last, same, ?_, others, complete⟩
    rwa [NumberPart.ofFirst?, if_neg unsigned]
  · exact ⟨'-', _, .sign, last, rfl, rfl, read, complete⟩

/-- No number begins with a blank or with the end of an array. -/
lemma NumberPart.opens_of_ofFirst? (h : ofFirst? c = some part) : isBlank c = false ∧ c ≠ ']' := by
  constructor
  · rw [Bool.eq_false_iff]
    intro blank
    simp only [isBlank, Bool.or_eq_true, beq_iff_eq] at blank
    rcases blank with ((rfl | rfl) | rfl) | rfl <;> cases h
  · rintro rfl
    cases h

/-! ## Natural numbers -/

/-- The decimal digits of a number have its value. -/
lemma value_toDigits (n : Nat) : Digits.value (Nat.toDigits 10 n) = n := by
  have same : Digits.value (Nat.toDigits 10 n) = Nat.ofDigitChars 10 (Nat.toDigits 10 n) 0 := by
    rw [Digits.value, Nat.ofDigitChars_eq_foldl]
    congr 1
    funext m c
    rw [Nat.mul_comm]
  rw [same, Nat.ofDigitChars_ten_toDigits]

/-- The decimal digits of a number are digits. -/
lemma isDigit_toDigits (n : Nat) : ∀ c ∈ Nat.toDigits 10 n, c.isDigit :=
  fun _ => Nat.isDigit_of_mem_toDigits (by decide) (by decide)

/-- The first digit of a positive number is not zero. -/
lemma whole_toDigits (n : Nat) : Whole (Nat.toDigits 10 n) := by
  induction n using Nat.strongRecOn with
  | ind n ih =>
    rcases Nat.lt_or_ge n 10 with small | large
    · rw [Nat.toDigits_of_lt_base small]
      rcases Nat.eq_zero_or_pos n with rfl | positive
      · exact .zero
      · refine .positive ?_ ?_ (List.forall_mem_nil _)
        · exact isDigit_toDigits n _ (Nat.toDigits_of_lt_base small ▸ List.mem_singleton_self _)
        · exact fun zero => (Nat.ne_of_gt positive) (Nat.digitChar_eq_zero.1 zero)
    · have digits := isDigit_toDigits n
      rw [Nat.toDigits_of_base_le (by decide) large] at digits ⊢
      have nonzero : n / 10 ≠ 0 := by omega
      generalize same : Nat.toDigits 10 (n / 10) = front at digits ⊢
      have front_ok : Whole front := same ▸ ih (n / 10) (by omega)
      cases front_ok with
      | zero =>
        -- only zero itself is written with a zero at its start
        have value := value_toDigits (n / 10)
        rw [same] at value
        exact absurd value.symm nonzero
      | positive digit first rest =>
        exact .positive digit first (List.forall_mem_cons.1 digits).2

/-- A natural number is shown by its decimal digits. -/
lemma toList_toString (n : Nat) : (toString n).toList = Nat.toDigits 10 n := by
  rw [Nat.toString_eq_repr, Nat.toList_repr]

/-- The digits of a natural number are a number of JSON. -/
lemma isNumber_toString (n : Nat) : IsNumber (toString n).toList := by
  have digits : IsNumber ([] ++ (Nat.toDigits 10 n ++ ([] ++ []))) :=
    .parts (.inl rfl) (whole_toDigits n) .absent .absent
  rw [toList_toString]
  simpa only [List.nil_append, List.append_nil] using digits

/-- A natural number of 64 bits is read back. -/
lemma asNatural_natural {n : Nat} (small : n < Nat.pow 2 64) : asNatural (natural n) = some n := by
  have all : (Nat.toDigits 10 n).all Char.isDigit := List.all_eq_true.2 (isDigit_toDigits n)
  simp only [natural, asNatural, toList_toString, value_toDigits, all, small, and_self, if_true]

end QueryExpr.Json
