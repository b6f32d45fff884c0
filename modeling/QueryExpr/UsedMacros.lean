/-!
# Used macros

The names of the macros that builds have expanded: each name once, in the order of first use.
-/

namespace QueryExpr

/-- Names of macros, each once, in the order of first use. -/
structure UsedMacros where
  names : List String
  nodup : names.Nodup

namespace UsedMacros

/-- No macros. -/
def empty : UsedMacros :=
  ⟨[], .nil⟩

/-- The names with a further one, which keeps its place if it is there. -/
def add (used : UsedMacros) (name : String) : UsedMacros :=
  if h : name ∈ used.names then used
  else ⟨used.names ++ [name],
    List.nodup_append.2 ⟨used.nodup, by simp, fun _ hother _ hname heq =>
      h (List.mem_singleton.1 hname ▸ heq ▸ hother)⟩⟩

/-- The names with some further ones in order. -/
def addAll (used : UsedMacros) (names : List String) : UsedMacros :=
  names.foldl add used

/-- Without names the log stays as it is. -/
@[simp] theorem addAll_nil (used : UsedMacros) : used.addAll [] = used := rfl

/-- Names are added in two parts one after the other. -/
theorem addAll_append (used : UsedMacros) (names others : List String) :
    used.addAll (names ++ others) = (used.addAll names).addAll others := by
  simp [addAll]

/-- A log starts with what was in it before a name was added. -/
theorem names_prefix_add (used : UsedMacros) (name : String) :
    used.names <+: (used.add name).names := by
  unfold add
  split
  · exact List.prefix_rfl
  · exact List.prefix_append used.names [name]

/-- A log starts with what was in it before names were added. -/
theorem names_prefix_addAll (used : UsedMacros) (names : List String) :
    used.names <+: (used.addAll names).names := by
  induction names generalizing used with
  | nil => exact List.prefix_rfl
  | cons name rest ih => exact (used.names_prefix_add name).trans (ih (used.add name))

/-- Fewer names make a log that the whole one starts with. -/
theorem addAll_prefix {names others : List String} (used : UsedMacros) (h : names <+: others) :
    (used.addAll names).names <+: (used.addAll others).names := by
  obtain ⟨rest, rfl⟩ := h
  rw [addAll_append]
  exact names_prefix_addAll _ rest

/-- A name is in the log if it was before or is the one that was added. -/
theorem mem_names_add {used : UsedMacros} {name other : String} :
    other ∈ (used.add name).names ↔ other ∈ used.names ∨ other = name := by
  unfold add
  split
  · next h => exact ⟨.inl, fun | .inl member => member | .inr eq => eq ▸ h⟩
  · simp

end UsedMacros

end QueryExpr
