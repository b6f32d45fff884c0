/-!
# Traced results

A result together with the names of the macros that were expanded on the way to it, oldest first.
The names are kept whether the result is a value or an error.
-/

namespace QueryExpr

/-- A value or an error, and the macros expanded on the way. -/
structure Traced (ε α : Type) where
  result : Except ε α
  macros : List String

namespace Traced

variable {ε ε' α β : Type}

/-- A value reached without macros. -/
protected def pure (value : α) : Traced ε α :=
  ⟨.ok value, []⟩

/-- A result without macros. -/
def ofExcept (result : Except ε α) : Traced ε α :=
  ⟨result, []⟩

/-- An error reached without macros. -/
def fail (error : ε) : Traced ε α :=
  ⟨.error error, []⟩

/-- The expansion of a macro. -/
def expanded (name : String) (result : Except ε α) : Traced ε α :=
  ⟨result, [name]⟩

/-- One step after another; an error ends the work. -/
protected def bind (first : Traced ε α) (next : α → Traced ε β) : Traced ε β :=
  match first.result with
  | .ok value =>
    let second := next value
    ⟨second.result, first.macros ++ second.macros⟩
  | .error error => ⟨.error error, first.macros⟩

/-- The same with another form of error. -/
def mapError (f : ε → ε') (traced : Traced ε α) : Traced ε' α :=
  ⟨traced.result.mapError f, traced.macros⟩

/-- Traced results are chained with the macros of all steps up to the first error. -/
instance : Monad (Traced ε) where
  pure := Traced.pure
  bind := Traced.bind

/-- A result without macros can stand where a traced one is needed. -/
instance : MonadLift (Except ε) (Traced ε) where
  monadLift := ofExcept

end Traced

end QueryExpr
