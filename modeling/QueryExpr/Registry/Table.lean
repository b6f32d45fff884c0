/-!
# Tables

Maps from names to values that keep the order in which the names were first inserted. Inserting a
name again replaces its value and keeps its place.
-/

namespace QueryExpr

/-- Values by name, in the order of first insertion. -/
structure Table (α : Type) where
  entries : List (String × α)

namespace Table

variable {α : Type}

/-- The table without entries. -/
def empty : Table α :=
  ⟨[]⟩

/-- The value of a name. -/
def get? (table : Table α) (name : String) : Option α :=
  table.entries.lookup name

/-- Whether a name has a value. -/
def contains (table : Table α) (name : String) : Bool :=
  (table.get? name).isSome

/-- Entries with the value of a name replaced, or with a new entry at the end. -/
def insertEntry (name : String) (value : α) : List (String × α) → List (String × α)
  | [] => [(name, value)]
  | (other, old) :: rest =>
    if other = name then (other, value) :: rest else (other, old) :: insertEntry name value rest

/-- The table with a value given to a name. -/
def insert (table : Table α) (name : String) (value : α) : Table α :=
  ⟨insertEntry name value table.entries⟩

/-- The table without a name. -/
def erase (table : Table α) (name : String) : Table α :=
  ⟨table.entries.filter fun entry => entry.1 != name⟩

/-- The table of some entries, inserted in order. -/
def ofList (entries : List (String × α)) : Table α :=
  entries.foldl (fun table entry => table.insert entry.1 entry.2) empty

/-- The names in order. -/
def names (table : Table α) : List String :=
  table.entries.map Prod.fst

/-- An empty table has no value under any name. -/
@[simp] theorem get?_empty (name : String) : (empty : Table α).get? name = none := rfl

/-- A lookup is decided by the first entry, or by the others. -/
theorem lookup_cons_ite (name key : String) (value : α) (entries : List (String × α)) :
    ((key, value) :: entries).lookup name =
      if name = key then some value else entries.lookup name := by
  rw [List.lookup_cons]
  cases hb : name == key <;> simp_all

/-- An entry that is inserted is found under its name and changes no other one. -/
theorem lookup_insertEntry (name other : String) (value : α) (entries : List (String × α)) :
    (insertEntry name value entries).lookup other =
      if other = name then some value else entries.lookup other := by
  induction entries with
  | nil => simp [insertEntry, lookup_cons_ite]
  | cons entry rest ih =>
    obtain ⟨key, old⟩ := entry
    by_cases hk : key = name
    · by_cases h : other = key <;> simp_all [insertEntry, lookup_cons_ite]
    · by_cases h : other = key <;> simp_all [insertEntry, lookup_cons_ite]

/-- A value that is inserted is found under its name, and the other values as before. -/
theorem get?_insert (table : Table α) (name other : String) (value : α) :
    (table.insert name value).get? other = if other = name then some value else table.get? other :=
  lookup_insertEntry name other value table.entries

/-- A name that is erased has no value, and the other names have theirs. -/
theorem get?_erase (table : Table α) (name other : String) :
    (table.erase name).get? other = if other = name then none else table.get? other := by
  obtain ⟨entries⟩ := table
  simp only [get?, erase]
  induction entries with
  | nil => simp
  | cons entry rest ih =>
    obtain ⟨key, old⟩ := entry
    by_cases hk : key = name
    · subst hk
      simp only [bne_self_eq_false, Bool.false_eq_true, not_false_eq_true,
        List.filter_cons_of_neg, ih, lookup_cons_ite]
      split <;> rfl
    · have hb : (key != name) = true := by simp [hk]
      rw [List.filter_cons_of_pos (by exact hb), lookup_cons_ite, lookup_cons_ite, ih]
      by_cases h : other = key <;> simp_all

end Table

end QueryExpr
