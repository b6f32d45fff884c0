import Mathlib.Tactic.Lemma
import QueryExpr.Text.Hex

/-!
# Hexadecimal digits and surrogates

The reader of digits and the two writers of them agree: `Digit` says in what letters a number below
sixteen is written, and `value?_eq_some_iff` that these are what is read. Beyond the basic plane a
character has two halves, of which `joinSurrogates` makes it again.
-/

namespace QueryExpr.Hex

/-- A hexadecimal digit of a number, in either case. -/
def Digit (c : Char) (n : Nat) : Prop :=
  n < 16 ∧ (c = lowerDigit n ∨ c = upperDigit n)

/-- Four hexadecimal digits of a number, the highest first. -/
inductive Digits : Nat → List Char → Prop where
  | four {a b c d w x y z} : Digit a w → Digit b x → Digit c y → Digit d z →
    Digits (((w * 16 + x) * 16 + y) * 16 + z) [a, b, c, d]

/-- Numbers that are no characters by themselves. -/
def IsSurrogate (unit : Nat) : Prop :=
  isHighSurrogate unit ∨ isLowSurrogate unit

variable {c : Char} {n unit : Nat}

/-- Hexadecimal digits are characters of ASCII. -/
lemma lt_of_value? (h : value? c = some n) : c.toNat < 128 := by
  have bound : ∀ last : Char, last.toNat < 128 → c ≤ last → c.toNat < 128 :=
    fun last small le => Nat.lt_of_le_of_lt le small
  unfold value? at h
  split at h
  · next digit => exact bound '9' (by decide) digit.2
  · split at h
    · next letter => exact bound 'f' (by decide) letter.2
    · split at h
      · next letter => exact bound 'F' (by decide) letter.2
      · cases h

/-- The value of a character is that of the digit it is. -/
lemma value?_eq_some_iff : value? c = some n ↔ Digit c n := by
  constructor
  · intro h
    have all : ∀ k < 128, ∀ n ∈ value? (Char.ofNat k),
        n < 16 ∧ (Char.ofNat k = lowerDigit n ∨ Char.ofNat k = upperDigit n) := by decide
    have here := all c.toNat (lt_of_value? h)
    rw [Char.ofNat_toNat] at here
    exact here n h
  · have all : ∀ n < 16, value? (lowerDigit n) = some n ∧ value? (upperDigit n) = some n := by
      decide
    rintro ⟨small, rfl | rfl⟩
    · exact (all n small).1
    · exact (all n small).2

/-- Four digits make a number of 16 bits. -/
lemma Digits.lt {digits : List Char} (h : Digits unit digits) : unit < 0x10000 := by
  cases h with
  | four a b c d =>
    have := a.1
    have := b.1
    have := c.1
    have := d.1
    omega

/-- A character is a digit for one number only. -/
lemma Digit.unique {m : Nat} (first : Digit c m) (second : Digit c n) : m = n := by
  have read := value?_eq_some_iff.2 first
  rw [value?_eq_some_iff.2 second] at read
  exact (Option.some.inj read).symm

/-- The start of a text is read in one way as four digits. -/
lemma Digits.unique {unit' : Nat} {digits digits' rest rest' : List Char}
    (first : Digits unit digits) (second : Digits unit' digits')
    (same : digits ++ rest = digits' ++ rest') : unit = unit' ∧ rest = rest' := by
  cases first with
  | four a b c d =>
    cases second with
    | four a' b' c' d' =>
      cases same
      obtain rfl := a.unique a'
      obtain rfl := b.unique b'
      obtain rfl := c.unique c'
      obtain rfl := d.unique d'
      exact ⟨rfl, rfl⟩

/-- The high surrogates are one range of numbers. -/
lemma isHighSurrogate_iff : isHighSurrogate unit ↔ 0xD800 ≤ unit ∧ unit < 0xDC00 := by
  simp only [isHighSurrogate, Bool.and_eq_true, decide_eq_true_eq]

/-- The low surrogates are the range of numbers behind it. -/
lemma isLowSurrogate_iff : isLowSurrogate unit ↔ 0xDC00 ≤ unit ∧ unit < 0xE000 := by
  simp only [isLowSurrogate, Bool.and_eq_true, decide_eq_true_eq]

/-- No number is a surrogate of both kinds. -/
lemma not_low_of_high (high : isHighSurrogate unit) : ¬ isLowSurrogate unit := by
  rw [isHighSurrogate_iff] at high
  rw [isLowSurrogate_iff]
  omega

/-- No character is a surrogate. -/
lemma not_isSurrogate (c : Char) : ¬ IsSurrogate c.toNat := by
  have valid : c.toNat < 0xD800 ∨ 0xDFFF < c.toNat ∧ c.toNat < 0x110000 := c.valid
  rw [IsSurrogate, isHighSurrogate_iff, isLowSurrogate_iff]
  omega

/-- A unit that is no surrogate is a character by itself. -/
lemma charsBefore?_cons {chars : List Char} (regular : ¬ IsSurrogate unit) (units : List Nat) :
    charsBefore? chars (unit :: units) = charsBefore? (Char.ofNat unit :: chars) units := by
  simp only [IsSurrogate, not_or, Bool.not_eq_true] at regular
  cases units with
  | nil => simp [charsBefore?, regular]
  | cons high rest => rw [charsBefore?, if_neg (by simp [regular]), if_neg (by simp [regular])]

/-- Characters are read back from their code units. -/
lemma charsBefore?_toNat (text chars : List Char) :
    charsBefore? chars (text.map Char.toNat) = some (text.reverse ++ chars) := by
  induction text generalizing chars with
  | nil => rfl
  | cons c text ih =>
    rw [List.map_cons, charsBefore?_cons (not_isSurrogate c), Char.ofNat_toNat, ih,
      List.reverse_cons, List.append_assoc, List.singleton_append]

/-- A number that is in range and no surrogate is that of a character. -/
lemma toNat_ofNat (regular : ¬ IsSurrogate unit) (small : unit < 0x110000) :
    (Char.ofNat unit).toNat = unit := by
  have valid : unit.isValidChar := by
    rw [IsSurrogate, isHighSurrogate_iff, isLowSurrogate_iff] at regular
    unfold Nat.isValidChar
    omega
  rw [Char.ofNat, dif_pos valid]
  rfl

/-- A character beyond the basic plane with its two halves. -/
structure Halves (c : Char) (high low : Nat) : Prop where
  beyond : 0x10000 ≤ c.toNat
  high_eq : high = 0xD800 + (c.toNat - 0x10000) / 0x400
  low_eq : low = 0xDC00 + (c.toNat - 0x10000) % 0x400

/-- Two numbers are the halves of a character if they are surrogates that join to it. -/
lemma halves_iff {high low : Nat} :
    Halves c high low ↔
      isHighSurrogate high ∧ isLowSurrogate low ∧ Char.ofNat (joinSurrogates high low) = c := by
  rw [isHighSurrogate_iff, isLowSurrogate_iff]
  constructor
  · rintro ⟨beyond, high_eq, low_eq⟩
    have valid : c.toNat < 0xD800 ∨ 0xDFFF < c.toNat ∧ c.toNat < 0x110000 := c.valid
    have joined : joinSurrogates high low = c.toNat := by
      unfold joinSurrogates
      omega
    refine ⟨by omega, by omega, ?_⟩
    rw [joined, Char.ofNat_toNat]
  · rintro ⟨first, second, rfl⟩
    -- two halves join to a code point beyond the basic plane, where no surrogates are
    have code : (Char.ofNat (joinSurrogates high low)).toNat = joinSurrogates high low := by
      apply toNat_ofNat
      · rw [IsSurrogate, isHighSurrogate_iff, isLowSurrogate_iff]
        unfold joinSurrogates
        omega
      · unfold joinSurrogates
        omega
    constructor <;> rw [code] <;> unfold joinSurrogates <;> omega

end QueryExpr.Hex
