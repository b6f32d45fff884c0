import QueryExpr.Json.Printer
import QueryExpr.Proofs.Json.Number
import QueryExpr.Proofs.Text.Hex

/-!
# Compact text and its reader

What is written in compact form is read back: `read?_print`, for every value that can stand in a
text. The machine reads a value in the midst of a text as it reads one at its start, so the lemmas
are about the run over a piece of text with any stack below and any rest behind, and follow the
recursion of the writer. A file is read to a limited depth, which changes no value that keeps to it.
-/

namespace QueryExpr.Json

variable {c : Char} {isName : Bool} {done rest text : List Char} {units : List Nat}
  {stack : List Frame} {value : Json}

mutual

/-- A value that a text can hold: its numbers are numbers and no part of it is unreadable. -/
def IsProper : Json → Prop
  | null | boolean _ | string _ => True
  | number text => IsNumber text.toList
  | array items => AreProper items
  | object members => AreProperMembers members
  | unreadable => False

/-- All items of an array can be written. -/
def AreProper : List Json → Prop
  | [] => True
  | item :: items => item.IsProper ∧ AreProper items

/-- All members of an object can be written. -/
def AreProperMembers : List (String × Json) → Prop
  | [] => True
  | (_, value) :: members => value.IsProper ∧ AreProperMembers members

end

namespace Reader

/-- What the machine makes of the rest of a text. -/
def run (reader : Reader) (text : List Char) : Option Json :=
  (reader.steps text).bind finish?

/-- A reader takes a text character by character. -/
lemma run_cons (reader : Reader) (c : Char) (text : List Char) :
    reader.run (c :: text) = (reader.step c).bind (·.run text) := by
  rw [run, steps]
  cases reader.step c <;> rfl

/-- A step that is known. -/
lemma run_step {reader next : Reader} (h : reader.step c = some next) (text : List Char) :
    reader.run (c :: text) = next.run text := by
  rw [run_cons, h]
  rfl

/-! ## Strings -/

/-- The four digits of an escape. -/
lemma run_unit {unit : Nat} {digits : List Char} (h : Hex.Digits unit digits) :
    run ⟨stack, .inString isName units (some (.unit 0 0))⟩ (digits ++ rest) =
      run ⟨stack, .inString isName (unit :: units) none⟩ rest := by
  have one : ∀ {c n value count}, Hex.Digit c n → count ≠ 3 → ∀ text,
      run ⟨stack, .inString isName units (some (.unit value count))⟩ (c :: text) =
        run ⟨stack, .inString isName units (some (.unit (value * 16 + n) (count + 1)))⟩ text := by
    intro c n value count digit more text
    refine run_step ?_ text
    simp only [step, stepEscape, Hex.value?_eq_some_iff.2 digit, if_neg more, Option.map_some]
  cases h with
  | four first second third fourth =>
    simp only [List.cons_append, List.nil_append]
    rw [one first (by decide), one second (by decide), one third (by decide)]
    refine run_step ?_ rest
    simp only [step, stepEscape, Hex.value?_eq_some_iff.2 fourth, if_true, Option.map_some,
      Nat.zero_mul, Nat.zero_add]

/-- A character of a string, in whichever way it is written. -/
lemma run_escapeChar (c : Char) :
    run ⟨stack, .inString isName units none⟩ (escapeChar c ++ rest) =
      run ⟨stack, .inString isName (c.toNat :: units) none⟩ rest := by
  unfold escapeChar
  split
  -- the other cases are the short escapes, which the reader takes in two steps
  case h_8 notQuote notBackslash _ _ _ _ _ =>
    split
    · next small =>
      have digit : ∀ n < 16, Hex.Digit (Hex.lowerDigit n) n := fun n h => ⟨h, .inl rfl⟩
      have digits : Hex.Digits (((0 * 16 + 0) * 16 + c.toNat / 16) * 16 + c.toNat % 16)
          ['0', '0', Hex.lowerDigit (c.toNat / 16), Hex.lowerDigit (c.toNat % 16)] :=
        .four (digit 0 (by decide)) (digit 0 (by decide)) (digit _ (by omega)) (digit _ (by omega))
      have unit : ((0 * 16 + 0) * 16 + c.toNat / 16) * 16 + c.toNat % 16 = c.toNat := by omega
      rw [unit] at digits
      exact run_unit digits
    · next large =>
      refine run_step ?_ rest
      simp only [step, stepString, if_neg notQuote, if_neg notBackslash, if_neg large]
  all_goals rfl

/-- Escaped characters are read into a string that has begun, one after another. -/
lemma run_chars (text : List Char) (units : List Nat) :
    run ⟨stack, .inString isName units none⟩ (text.flatMap escapeChar ++ rest) =
      run ⟨stack, .inString isName ((text.map Char.toNat).reverse ++ units) none⟩ rest := by
  induction text generalizing units with
  | nil => rfl
  | cons c text ih =>
    rw [List.flatMap_cons, List.append_assoc, run_escapeChar, ih, List.map_cons,
      List.reverse_cons, List.append_assoc, List.singleton_append]

/-- The units of a text make the text again. -/
lemma closeText_chars (text : String) :
    closeText ((text.toList.map Char.toNat).reverse ++ []) = some text := by
  rw [closeText, List.append_nil, ← List.map_reverse, Hex.charsBefore?_toNat, List.reverse_reverse,
    List.append_nil, Option.map_some, String.ofList_toList]

/-- A member's name and the colon after it. -/
lemma run_name {members : List (String × Json)} (name : String) :
    run ⟨.object (some members) none :: stack, .name⟩ (quote name (':' :: rest)) =
      run ⟨.object (some members) (some name) :: stack, .value⟩ rest := by
  have closed : step ⟨.object (some members) none :: stack,
      .inString true ((name.toList.map Char.toNat).reverse ++ []) none⟩ '"' =
        some ⟨.object (some members) none :: stack, .colon (some name)⟩ :=
    congrArg (fun text => some (Reader.mk _ (.colon text))) (closeText_chars name)
  calc run ⟨.object (some members) none :: stack, .name⟩ (quote name (':' :: rest))
    _ = run ⟨.object (some members) none :: stack, .inString true [] none⟩
          (name.toList.flatMap escapeChar ++ '"' :: ':' :: rest) := rfl
    _ = run ⟨.object (some members) none :: stack, .inString true _ none⟩ ('"' :: ':' :: rest) :=
      run_chars name.toList []
    _ = run ⟨.object (some members) none :: stack, .colon (some name)⟩ (':' :: rest) :=
      run_step closed _
    _ = run ⟨.object (some members) (some name) :: stack, .value⟩ rest := rfl

/-- A quoted text is read as its string. -/
lemma run_quote (text : String) :
    run ⟨stack, .value⟩ (quote text rest) = run ⟨stack, .after (.string text)⟩ rest := by
  have closed : step ⟨stack, .inString false ((text.toList.map Char.toNat).reverse ++ []) none⟩ '"'
      = some ⟨stack, .after (.string text)⟩ := by
    have ends : closeString stack false ((text.toList.map Char.toNat).reverse ++ []) =
        ⟨stack, .after (.string text)⟩ := by
      simp only [closeString, closeText_chars, Bool.false_eq_true, if_false]
    exact congrArg some ends
  calc run ⟨stack, .value⟩ (quote text rest)
    _ = run ⟨stack, .inString false [] none⟩ (text.toList.flatMap escapeChar ++ '"' :: rest) := rfl
    _ = run ⟨stack, .inString false _ none⟩ ('"' :: rest) := run_chars text.toList []
    _ = run ⟨stack, .after (.string text)⟩ rest := run_step closed rest

/-! ## Words and numbers -/

/-- What may stand behind a value: nothing, a comma or the end of an array or object. -/
def Follows (rest : List Char) : Prop :=
  ∀ c ∈ rest.head?, c = ',' ∨ c = ']' ∨ c = '\x7d'

/-- A word that is complete stands for its value. -/
lemma run_inWord (rest : List Char) :
    run ⟨stack, .inWord [] value⟩ rest = run ⟨stack, .after value⟩ rest := by
  cases rest with
  | nil => cases stack <;> rfl
  | cons c rest => rw [run_cons, run_cons, step, step]

/-- A number is read on from any of its parts. -/
lemma run_inNumber {part last : NumberPart} (h : part.after? text = some last) :
    run ⟨stack, .inNumber done part⟩ (text ++ rest) =
      run ⟨stack, .inNumber (text.reverse ++ done) last⟩ rest := by
  induction text generalizing done part with
  | nil =>
    cases h
    rfl
  | cons c text ih =>
    rw [NumberPart.after?_cons] at h
    obtain ⟨next, first, others⟩ := Option.bind_eq_some_iff.1 h
    have moved : step ⟨stack, .inNumber done part⟩ c =
        some ⟨stack, .inNumber (c :: done) next⟩ := by
      simp only [step, first]
    rw [List.cons_append, run_step moved, ih others, List.reverse_cons, List.append_assoc,
      List.singleton_append]

/-- A number that is complete stands for its value once something else follows. -/
lemma run_complete {part : NumberPart} (complete : part.isComplete) (follows : Follows rest) :
    run ⟨stack, .inNumber done part⟩ rest =
      run ⟨stack, .after (.number (String.ofList done.reverse))⟩ rest := by
  cases rest with
  | nil =>
    cases stack with
    | nil => exact if_pos complete
    | cons => rfl
  | cons c rest =>
    have ends : part.next? c = none := by
      rcases follows c rfl with rfl | rfl | rfl <;> cases part <;> rfl
    simp only [run_cons, step, ends, complete, if_true]

/-- The character that begins a number opens it. -/
lemma openValue_number {part : NumberPart} (h : NumberPart.ofFirst? c = some part) :
    openValue stack c = some ⟨stack, .inNumber [c] part⟩ := by
  unfold openValue
  split
  case h_7 => rw [h, Option.map_some]
  all_goals cases h

/-- A number is read as it is written, where it ends. -/
lemma run_number {text : String} (number : IsNumber text.toList) (follows : Follows rest) :
    run ⟨stack, .value⟩ (text.toList ++ rest) = run ⟨stack, .after (.number text)⟩ rest := by
  obtain ⟨c, digits, part, last, same, first, others, complete⟩ := number.read
  have opened : step ⟨stack, .value⟩ c = some ⟨stack, .inNumber [c] part⟩ := by
    have visible := (NumberPart.opens_of_ofFirst? first).1
    simp only [step, visible, Bool.false_eq_true, if_false, openValue_number first]
  have whole : (digits.reverse ++ [c]).reverse = text.toList := by
    rw [same, List.reverse_append, List.reverse_reverse]
    rfl
  rw [same, List.cons_append, run_step opened, run_inNumber others, run_complete complete follows,
    whole, String.ofList_toList]

/-! ## Values -/

/-- A text that begins with a value has no blank at its start, and is not the end of an array. -/
lemma compact_opens {json : Json} (proper : json.IsProper) (rest : List Char) :
    ∃ c text, json.compact rest = c :: text ∧ isBlank c = false ∧ c ≠ ']' := by
  cases json with
  | null => exact ⟨'n', _, rfl, by decide⟩
  | boolean value => cases value <;> exact ⟨_, _, rfl, by decide⟩
  | number text =>
    obtain ⟨c, digits, part, last, same, first, -⟩ := IsNumber.read proper
    exact ⟨c, digits ++ rest, congrArg (· ++ rest) same, NumberPart.opens_of_ofFirst? first⟩
  | string text => exact ⟨'"', _, rfl, by decide⟩
  | array items => cases items <;> exact ⟨'[', _, rfl, by decide⟩
  | object members => cases members <;> exact ⟨'\x7b', _, rfl, by decide⟩
  | unreadable => exact proper.elim

/-- Where an array may also end, a value is read as one. -/
lemma run_valueOrEnd {json : Json} (proper : json.IsProper) (rest : List Char) :
    run ⟨stack, .valueOrEnd⟩ (json.compact rest) = run ⟨stack, .value⟩ (json.compact rest) := by
  obtain ⟨c, text, same, visible, open_⟩ := compact_opens proper rest
  simp only [same, run_cons, step, visible, Bool.false_eq_true, if_false, open_]

/-- A number ends before a separator or a closing bracket. -/
lemma follows_cons (h : c = ',' ∨ c = ']' ∨ c = '\x7d') : Follows (c :: rest) := by
  intro d first
  cases first
  exact h

/-- A number ends before what follows an item of an array. -/
lemma follows_compactItems (items : List Json) (rest : List Char) :
    Follows (compactItems rest items) := by
  cases items with
  | nil => exact follows_cons (.inr (.inl rfl))
  | cons => exact follows_cons (.inl rfl)

/-- A number ends before what follows a member of an object. -/
lemma follows_compactMembers (members : List (String × Json)) (rest : List Char) :
    Follows (compactMembers rest members) := by
  cases members with
  | nil => exact follows_cons (.inr (.inr rfl))
  | cons => exact follows_cons (.inl rfl)

mutual

/-- A value in the midst of a text is read to its end. What follows matters to a number alone, which
would go on with more digits. -/
theorem run_compact : (json : Json) → json.IsProper → ∀ {stack rest}, Follows rest →
    run ⟨stack, .value⟩ (json.compact rest) = run ⟨stack, .after json⟩ rest
  | .null, _, _, rest, _ => run_inWord rest
  | .boolean true, _, _, rest, _ => run_inWord rest
  | .boolean false, _, _, rest, _ => run_inWord rest
  | .number _, proper, _, _, follows => run_number proper follows
  | .string text, _, _, _, _ => run_quote text
  | .array [], _, _, _, _ => rfl
  | .array (item :: items), ⟨proper, others⟩, stack, rest, _ => by
    calc run ⟨stack, .value⟩ ('[' :: item.compact (compactItems rest items))
      _ = run ⟨.array [] :: stack, .valueOrEnd⟩ (item.compact (compactItems rest items)) := rfl
      _ = run ⟨.array [] :: stack, .value⟩ (item.compact (compactItems rest items)) :=
        run_valueOrEnd proper _
      _ = run ⟨.array [] :: stack, .after item⟩ (compactItems rest items) :=
        run_compact item proper (follows_compactItems items rest)
      _ = run ⟨stack, .after (.array (item :: items))⟩ rest := run_compactItems items others
  | .object [], _, _, _, _ => rfl
  | .object ((name, value) :: members), ⟨proper, others⟩, stack, rest, _ => by
    calc run ⟨stack, .value⟩
          ('\x7b' :: quote name (':' :: value.compact (compactMembers rest members)))
      _ = run ⟨.object (some []) none :: stack, .name⟩
          (quote name (':' :: value.compact (compactMembers rest members))) := rfl
      _ = run ⟨.object (some []) (some name) :: stack, .value⟩
          (value.compact (compactMembers rest members)) := run_name name
      _ = run ⟨.object (some []) (some name) :: stack, .after value⟩
          (compactMembers rest members) :=
        run_compact value proper (follows_compactMembers members rest)
      _ = run ⟨stack, .after (.object ((name, value) :: members))⟩ rest :=
        run_compactMembers members others

/-- The items behind one that has been read. -/
theorem run_compactItems : (items : List Json) → AreProper items → ∀ {stack rest done value},
    run ⟨.array done :: stack, .after value⟩ (compactItems rest items) =
      run ⟨stack, .after (.array ((value :: done).reverse ++ items))⟩ rest
  | [], _, _, _, _, _ => by
    rw [List.append_nil]
    rfl
  | item :: items, ⟨proper, others⟩, stack, rest, done, value => by
    calc run ⟨.array done :: stack, .after value⟩ (',' :: item.compact (compactItems rest items))
      _ = run ⟨.array (value :: done) :: stack, .value⟩ (item.compact (compactItems rest items)) :=
        rfl
      _ = run ⟨.array (value :: done) :: stack, .after item⟩ (compactItems rest items) :=
        run_compact item proper (follows_compactItems items rest)
      _ = run ⟨stack, .after (.array ((item :: value :: done).reverse ++ items))⟩ rest :=
        run_compactItems items others
      _ = run ⟨stack, .after (.array ((value :: done).reverse ++ item :: items))⟩ rest := by
        rw [List.reverse_cons (a := item), List.append_assoc, List.singleton_append]

/-- The members behind one whose value has been read. -/
theorem run_compactMembers : (members : List (String × Json)) → AreProperMembers members →
    ∀ {stack rest done name value},
      run ⟨.object (some done) (some name) :: stack, .after value⟩ (compactMembers rest members) =
        run ⟨stack, .after (.object (((name, value) :: done).reverse ++ members))⟩ rest
  | [], _, _, _, _, _, _ => by
    rw [List.append_nil]
    rfl
  | (next, json) :: members, ⟨proper, others⟩, stack, rest, done, name, value => by
    calc run ⟨.object (some done) (some name) :: stack, .after value⟩
          (',' :: quote next (':' :: json.compact (compactMembers rest members)))
      _ = run ⟨.object (some ((name, value) :: done)) none :: stack, .name⟩
          (quote next (':' :: json.compact (compactMembers rest members))) := rfl
      _ = run ⟨.object (some ((name, value) :: done)) (some next) :: stack, .value⟩
          (json.compact (compactMembers rest members)) := run_name next
      _ = run ⟨.object (some ((name, value) :: done)) (some next) :: stack, .after json⟩
          (compactMembers rest members) :=
        run_compact json proper (follows_compactMembers members rest)
      _ = run ⟨stack, .after (.object (((next, json) :: (name, value) :: done).reverse ++ members))⟩
          rest := run_compactMembers members others
      _ = run ⟨stack, .after (.object (((name, value) :: done).reverse ++ (next, json) :: members))⟩
          rest := by
        rw [List.reverse_cons (a := (next, json)), List.append_assoc, List.singleton_append]

end

end Reader

/-- Every value that can stand in a text is read back from its compact form. -/
theorem read?_print {json : Json} (proper : json.IsProper) : read? json.print = some json := by
  have whole : Reader.run ⟨[], .value⟩ (json.compact []) = some json :=
    Reader.run_compact json proper fun c first => by cases first
  rw [read?, print, String.toList_ofList]
  exact whole

mutual

/-- A value is not cut at a depth that it does not go beyond. -/
theorem limit_of_height_le : (json : Json) → ∀ {levels}, json.height ≤ levels →
    json.limit levels = json
  | .null, _, _ | .boolean _, _, _ | .number _, _, _ | .string _, _, _ | .unreadable, _, _ => rfl
  | .array items, levels, low => by
    rw [height] at low
    rw [limit, if_neg (by omega), limitItems_of_height_le items (by omega)]
  | .object members, levels, low => by
    rw [height] at low
    rw [limit, if_neg (by omega), limitMembers_of_height_le members (by omega)]

/-- Items that are low enough are not cut. -/
theorem limitItems_of_height_le : (items : List Json) → ∀ {levels}, heightItems items ≤ levels →
    limitItems levels items = items
  | [], _, _ => rfl
  | item :: items, levels, low => by
    rw [heightItems, Nat.max_le] at low
    rw [limitItems, limit_of_height_le item low.1, limitItems_of_height_le items low.2]

/-- Members that are low enough are not cut. -/
theorem limitMembers_of_height_le : (members : List (String × Json)) → ∀ {levels},
    heightMembers members ≤ levels → limitMembers levels members = members
  | [], _, _ => rfl
  | (name, value) :: members, levels, low => by
    rw [heightMembers, Nat.max_le] at low
    rw [limitMembers, limit_of_height_le value low.1, limitMembers_of_height_le members low.2]

end

/-- A value that does not nest too deep is read back from a file. -/
theorem readLimited?_print {json : Json} (proper : json.IsProper) (low : json.height ≤ maxHeight) :
    readLimited? json.print = some json := by
  rw [readLimited?, read?_print proper, Option.map_some, limit_of_height_le json low]

end QueryExpr.Json
