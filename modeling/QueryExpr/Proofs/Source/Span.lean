import Mathlib.Data.String.Basic
import Mathlib.Tactic.Lemma
import QueryExpr.Source.Span

/-!
# The text of a span

The text of a span is made of the bytes that it counts off in the source, where these are whole
characters, and is empty everywhere else.
-/

namespace QueryExpr

open String (utf8Len)

/-- Bytes are dropped up to the start of a character. -/
lemma dropBytes?_eq_some_iff {count : Nat} {text rest : List Char} :
    dropBytes? count text = some rest ↔ ∃ front, text = front ++ rest ∧ utf8Len front = count := by
  constructor
  · intro h
    fun_induction dropBytes? count text with
    | case1 text =>
      cases h
      exact ⟨[], rfl, String.utf8Len_nil⟩
    | case2 => cases h
    | case3 n c text fits ih =>
      obtain ⟨front, rfl, size⟩ := ih h
      refine ⟨c :: front, rfl, ?_⟩
      rw [String.utf8Len_cons]
      omega
    | case4 => cases h
  · rintro ⟨front, rfl, rfl⟩
    -- a character has bytes, so the count is not zero as long as the front is not empty
    induction front with
    | nil => rw [String.utf8Len_nil, dropBytes?, List.nil_append]
    | cons c front ih =>
      have positive := c.utf8Size_pos
      rw [String.utf8Len_cons, List.cons_append]
      obtain ⟨n, size⟩ : ∃ n, utf8Len front + c.utf8Size = n + 1 :=
        Nat.exists_eq_add_one_of_ne_zero (by omega)
      rw [size, dropBytes?, if_pos (by omega), ← size, Nat.add_sub_cancel, ih]

/-- Bytes are taken up to the end of a character. -/
lemma takeBytes?_eq_some_iff {count : Nat} {text front : List Char} :
    takeBytes? count text = some front ↔ ∃ rest, text = front ++ rest ∧ utf8Len front = count := by
  constructor
  · intro h
    fun_induction takeBytes? count text generalizing front with
    | case1 text =>
      cases h
      exact ⟨text, rfl, String.utf8Len_nil⟩
    | case2 => cases h
    | case3 n c text fits ih =>
      obtain ⟨taken, taking, rfl⟩ := Option.map_eq_some_iff.1 h
      obtain ⟨rest, rfl, size⟩ := ih taking
      refine ⟨rest, rfl, ?_⟩
      rw [String.utf8Len_cons]
      omega
    | case4 => cases h
  · rintro ⟨rest, rfl, rfl⟩
    induction front with
    | nil => rw [String.utf8Len_nil, takeBytes?]
    | cons c front ih =>
      have positive := c.utf8Size_pos
      rw [String.utf8Len_cons, List.cons_append]
      obtain ⟨n, size⟩ : ∃ n, utf8Len front + c.utf8Size = n + 1 :=
        Nat.exists_eq_add_one_of_ne_zero (by omega)
      rw [size, takeBytes?, if_pos (by omega), ← size, Nat.add_sub_cancel, ih]
      rfl

/-- The bytes of a text are those of its characters. -/
lemma utf8ByteSize_eq_utf8Len (text : String) : text.utf8ByteSize = utf8Len text.toList := by
  rw [← String.utf8ByteSize_ofList, String.ofList_toList]

namespace Span

variable {span : Span} {source : String}

/-- A span that is not turned round and starts and ends at characters of the source. -/
structure Fits (span : Span) (source : String) : Prop where
  ordered : span.start ≤ span.stop
  start : String.Pos.Raw.IsValid source ⟨span.start⟩
  stop : String.Pos.Raw.IsValid source ⟨span.stop⟩

/-- A text is made of the bytes that a span counts off in a source, or is empty if the span does not
fit the source. -/
structure Covers (span : Span) (source text : String) : Prop where
  bytes : span.Fits source → text.toByteArray = source.toByteArray.extract span.start span.stop
  empty : ¬ span.Fits source → text = ""

/-- A span fits a source if it takes a part out of it. -/
lemma fits_iff : span.Fits source ↔ ∃ before text after : String,
    source = before ++ text ++ after ∧ before.utf8ByteSize = span.start ∧
      (before ++ text).utf8ByteSize = span.stop := by
  constructor
  · rintro ⟨ordered, start, stop⟩
    obtain ⟨before, tail, split, first⟩ := String.Pos.Raw.isValid_iff_exists_append.1 start
    obtain ⟨front, after, split', last⟩ := String.Pos.Raw.isValid_iff_exists_append.1 stop
    have first : span.start = before.utf8ByteSize := congrArg String.Pos.Raw.byteIdx first
    have last : span.stop = front.utf8ByteSize := congrArg String.Pos.Raw.byteIdx last
    -- what is before the start is also before the stop
    have inside : before.toList <+: front.toList := by
      have left : before.toList <+: source.toList :=
        ⟨tail.toList, by rw [split, String.toList_append]⟩
      have right : front.toList <+: source.toList :=
        ⟨after.toList, by rw [split', String.toList_append]⟩
      obtain h | h := List.prefix_or_prefix_of_prefix left right
      · exact h
      · obtain ⟨more, joined⟩ := h
        have size := congrArg utf8Len joined
        rw [String.utf8Len_append, ← utf8ByteSize_eq_utf8Len, ← utf8ByteSize_eq_utf8Len] at size
        have none : utf8Len more = 0 := by omega
        rw [String.utf8Len_eq_zero.1 none, List.append_nil] at joined
        exact joined ▸ List.prefix_rfl
    obtain ⟨text, joined⟩ := inside
    have joined : before ++ String.ofList text = front :=
      String.toList_injective (by simpa using joined)
    refine ⟨before, String.ofList text, after, ?_, first.symm, ?_⟩
    · rw [joined, split']
    · rw [joined, last]
  · rintro ⟨before, text, after, rfl, start, stop⟩
    refine ⟨?_, ?_, ?_⟩
    · rw [← start, ← stop, String.utf8ByteSize_append]
      exact Nat.le_add_right ..
    · rw [String.Pos.Raw.isValid_iff_exists_append]
      exact ⟨before, text ++ after, String.append_assoc .., congrArg _ start.symm⟩
    · rw [String.Pos.Raw.isValid_iff_exists_append]
      exact ⟨before ++ text, after, rfl, congrArg _ stop.symm⟩

/-- A span with its ends around a part of the source covers the text of that part. -/
lemma text_eq_of_parts {before text after : String} (parts : source = before ++ text ++ after)
    (start : before.utf8ByteSize = span.start) (stop : (before ++ text).utf8ByteSize = span.stop) :
    span.text source = text := by
  rw [String.utf8ByteSize_append] at stop
  have dropped : dropBytes? span.start source.toList = some (text ++ after).toList := by
    refine dropBytes?_eq_some_iff.2 ⟨before.toList, ?_, ?_⟩
    · rw [parts, String.append_assoc, String.toList_append]
    · rw [← utf8ByteSize_eq_utf8Len, start]
  have taken : takeBytes? span.length (text ++ after).toList = some text.toList := by
    refine takeBytes?_eq_some_iff.2 ⟨after.toList, String.toList_append, ?_⟩
    rw [← utf8ByteSize_eq_utf8Len, length]
    omega
  rw [Span.text, if_pos (by omega), dropped, Option.bind_some, taken]
  exact String.ofList_toList

/-- A span that covers some text fits the source. -/
lemma fits_of_text_ne (h : span.text source ≠ "") : span.Fits source := by
  rw [Span.text] at h
  split at h
  · next ordered =>
    split at h
    · next covered parts =>
      obtain ⟨tail, dropped, taken⟩ := Option.bind_eq_some_iff.1 parts
      obtain ⟨before, split, start⟩ := dropBytes?_eq_some_iff.1 dropped
      obtain ⟨after, rfl, size⟩ := takeBytes?_eq_some_iff.1 taken
      refine fits_iff.2 ⟨.ofList before, .ofList covered, .ofList after, ?_, ?_, ?_⟩
      · exact String.toList_injective (by simpa using split)
      · rw [String.utf8ByteSize_ofList, start]
      · rw [String.utf8ByteSize_append, String.utf8ByteSize_ofList, String.utf8ByteSize_ofList,
          start, size, length]
        omega
    · exact absurd rfl h
  · exact absurd rfl h

/-- The text of a span is what it covers. -/
lemma covers_text (span : Span) (source : String) : span.Covers source (span.text source) where
  bytes fits := by
    obtain ⟨before, text, after, parts, start, stop⟩ := fits_iff.1 fits
    have whole : source.toByteArray = (before ++ text).toByteArray ++ after.toByteArray := by
      rw [parts, String.toByteArray_append]
    have size : (before ++ text).toByteArray.size = span.stop :=
      String.size_toByteArray.trans stop
    have first : before.toByteArray.size = span.start := String.size_toByteArray.trans start
    rw [text_eq_of_parts parts start stop, whole, ← size, ByteArray.extract_append_size_left,
      String.toByteArray_append]
    exact (ByteArray.extract_append_eq_right first.symm ByteArray.size_append).symm
  empty misfit := not_not.1 fun h => misfit (fits_of_text_ne h)

end Span

end QueryExpr
