import Mathlib.Tactic.Lemma
import QueryExpr.Resolve.Traced

/-!
# Runs and their beginnings

Inversion lemmas for the steps of an outcome or a traced result, and six ways to speak about a run
as a whole. `Traced.Gives` is a condition on its value, `Traced.Fails` one on its error, and
`Traced.Reports` one on its error and one on the macros it expands.
`Traced.Cut` relates a run to a run that goes the same way but may stop earlier; the faults at which
it may stop are a parameter, and up to there both runs have expanded the same macros.
`Traced.Alike` relates runs that differ at most in a part of their errors, and `Traced.Follows` asks
for this only if the second run is not stopped. Each has a `bind` lemma that lifts it through one
step after another, so a function on trees needs it only where something is done.
-/

namespace QueryExpr

/-- Two steps succeed if the first does and the second does with its value. -/
lemma except_bind_ok {ε α β : Type} {r : Except ε α} {f : α → Except ε β} {b} :
    r >>= f = .ok b ↔ ∃ a, r = .ok a ∧ f a = .ok b := by
  cases r with
  | ok a => exact ⟨fun h => ⟨a, rfl, h⟩, fun ⟨_, same, h⟩ => Except.ok.inj same ▸ h⟩
  | error e => exact ⟨nofun, nofun⟩

/-- Two steps fail if the first does or the second does with its value. -/
lemma except_bind_error {ε α β : Type} {r : Except ε α} {f : α → Except ε β} {e} :
    r >>= f = .error e ↔ r = .error e ∨ ∃ a, r = .ok a ∧ f a = .error e := by
  cases r with
  | ok a => exact ⟨fun h => .inr ⟨a, rfl, h⟩, fun | .inr ⟨_, same, h⟩ => Except.ok.inj same ▸ h⟩
  | error e' =>
    constructor
    · intro h
      exact .inl (congrArg _ (Except.error.inj h))
    · rintro (h | ⟨_, same, -⟩)
      · exact congrArg _ (Except.error.inj h)
      · cases same

/-- A mapped outcome is a value if the outcome is one that is mapped to it. -/
lemma except_map_ok {ε α β : Type} {f : α → β} {r : Except ε α} {b} :
    r.map f = .ok b ↔ ∃ a, r = .ok a ∧ f a = b := by
  cases r with
  | ok a => exact ⟨fun h => ⟨a, rfl, Except.ok.inj h⟩, fun ⟨_, rfl, h⟩ => congrArg _ h⟩
  | error e => exact ⟨nofun, nofun⟩

/-- A mapped outcome is an error if the outcome is the same error. -/
lemma except_map_error {ε α β : Type} {f : α → β} {r : Except ε α} {e} :
    r.map f = .error e ↔ r = .error e := by
  cases r with
  | ok a => exact ⟨nofun, nofun⟩
  | error e' =>
    exact ⟨fun h => congrArg _ (Except.error.inj h), fun h => congrArg _ (Except.error.inj h)⟩

/-- An outcome with mapped errors is a value if the outcome is. -/
lemma except_mapError_ok {ε ε' α : Type} {f : ε → ε'} {r : Except ε α} {a} :
    r.mapError f = .ok a ↔ r = .ok a := by
  cases r with
  | ok b => exact ⟨fun h => congrArg _ (Except.ok.inj h), fun h => congrArg _ (Except.ok.inj h)⟩
  | error e => exact ⟨nofun, nofun⟩

/-- An outcome with mapped errors is an error if the outcome is one that is mapped to it. -/
lemma except_mapError_error {ε ε' α : Type} {f : ε → ε'} {r : Except ε α} {e'} :
    r.mapError f = .error e' ↔ ∃ e, r = .error e ∧ f e = e' := by
  cases r with
  | ok a => exact ⟨nofun, nofun⟩
  | error e => exact ⟨fun h => ⟨e, rfl, Except.error.inj h⟩, fun ⟨_, rfl, h⟩ => congrArg _ h⟩

namespace Traced

variable {ε ε' α β : Type} {stops : ε → Prop}

/-- A step after another one succeeds if both do. -/
lemma bind_ok {t : Traced ε α} {f : α → Traced ε β} {b} :
    (t >>= f).result = .ok b ↔ ∃ a, t.result = .ok a ∧ (f a).result = .ok b := by
  obtain ⟨result, names⟩ := t
  cases result with
  | ok a => exact ⟨fun h => ⟨a, rfl, h⟩, fun ⟨_, rfl, h⟩ => h⟩
  | error e => exact ⟨nofun, nofun⟩

/-- A value reached without steps is the result. -/
lemma pure_ok {a b : α} : (pure a : Traced ε α).result = .ok b ↔ a = b := by
  exact Except.ok.injEq a b ▸ .rfl

/-- A lifted outcome is the result. -/
lemma lift_ok {r : Except ε α} {a : α} :
    (liftM r : Traced ε α).result = .ok a ↔ r = .ok a := .rfl

/-- A run with mapped errors has a value if the run has. -/
lemma mapError_ok {f : ε → ε'} {t : Traced ε α} {a} :
    (t.mapError f).result = .ok a ↔ t.result = .ok a :=
  except_mapError_ok

/-- A step that hands on what it is given can be left out. -/
lemma bind_pure (t : Traced ε α) : t >>= Pure.pure = t := by
  obtain ⟨result, names⟩ := t
  cases result with
  | ok a => exact congrArg (Traced.mk (.ok a)) (List.append_nil names)
  | error e => rfl

/-- A value reached without steps is handed on. -/
lemma pure_bind (a : α) (f : α → Traced ε β) : Pure.pure a >>= f = f a :=
  rfl

/-- Steps are taken one after another, however they are grouped. -/
lemma bind_assoc {γ : Type} (t : Traced ε α) (f : α → Traced ε β) (g : β → Traced ε γ) :
    t >>= f >>= g = t >>= fun a => f a >>= g := by
  obtain ⟨result, names⟩ := t
  cases result with
  | error => rfl
  | ok a =>
    show Traced.bind ⟨(f a).result, names ++ (f a).macros⟩ g =
      Traced.bind ⟨.ok a, names⟩ fun a => Traced.bind (f a) g
    cases h : (f a).result with
    | error => simp [Traced.bind, h]
    | ok b => simp [Traced.bind, h]

/-- Lifted steps one after another are the steps lifted. -/
lemma lift_bind (r : Except ε α) (f : α → Except ε β) :
    (liftM (r >>= f) : Traced ε β) = liftM r >>= fun a => liftM (f a) := by
  cases r <;> rfl

/-- A run whose value satisfies a condition if all macros that it expanded can be trusted. -/
def Gives (trusted : String → Prop) (post : α → Prop) (t : Traced ε α) : Prop :=
  (∀ name ∈ t.macros, trusted name) → ∀ a, t.result = .ok a → post a

namespace Gives

variable {trusted : String → Prop} {post : α → Prop} {after : β → Prop}

/-- A run after another one gives what it gives for the values that the first one gives. -/
lemma bind {t : Traced ε α} {f : α → Traced ε β} (first : Gives trusted post t)
    (next : ∀ a, post a → Gives trusted after (f a)) : Gives trusted after (t >>= f) := by
  intro trust b h
  obtain ⟨result, names⟩ := t
  cases result with
  | error e => cases h
  | ok a =>
    -- the macros of both steps are among those of the run
    have both : ∀ name ∈ names ++ (f a).macros, trusted name := trust
    obtain ⟨early, late⟩ := List.forall_mem_append.1 both
    exact next a (first early a rfl) late b h

/-- The value of a run is the one it has as its result. -/
lemma result {t : Traced ε α} (h : Gives trusted post t) :
    Gives trusted (fun a => post a ∧ t.result = .ok a) t :=
  fun trust a same => ⟨h trust a same, same⟩

/-- A value gives what holds of it. -/
lemma pure {a : α} (h : post a) : Gives trusted post (Pure.pure a : Traced ε α) := by
  intro _ b same
  cases pure_ok.1 same
  exact h

/-- A step without macros gives what holds of its value. -/
lemma lift {r : Except ε α} (h : ∀ a, r = .ok a → post a) :
    Gives trusted post (liftM r : Traced ε α) :=
  fun _ => h

/-- A run that fails gives anything. -/
lemma fail (e : ε) : Gives trusted post (.fail e) :=
  fun _ => nofun

/-- A run with mapped errors gives what the run gives. -/
lemma mapError {f : ε → ε'} {t : Traced ε α} (h : Gives trusted post t) :
    Gives trusted post (t.mapError f) :=
  fun trust a same => h trust a (mapError_ok.1 same)

end Gives

/-- A run all of whose errors satisfy a condition. -/
def Fails (post : ε → Prop) (t : Traced ε α) : Prop :=
  ∀ e, t.result = .error e → post e

namespace Fails

variable {post wider : ε → Prop}

/-- Only values that a step gives matter to the steps after it. -/
lemma bind_of_ok {t : Traced ε α} {f : α → Traced ε β} (first : Fails post t)
    (next : ∀ a, t.result = .ok a → Fails post (f a)) : Fails post (t >>= f) := by
  intro e h
  obtain ⟨result, names⟩ := t
  cases result with
  | ok a => exact next a rfl e h
  | error e' =>
    cases h
    exact first e rfl

/-- A run after another one fails as either of them does. -/
lemma bind {t : Traced ε α} {f : α → Traced ε β} (first : Fails post t)
    (next : ∀ a, Fails post (f a)) : Fails post (t >>= f) :=
  bind_of_ok first fun a _ => next a

/-- A value does not fail. -/
lemma pure (a : α) : Fails post (Pure.pure a : Traced ε α) :=
  nofun

/-- A step without macros fails with its error. -/
lemma lift {r : Except ε α} (h : ∀ e, r = .error e → post e) : Fails post (liftM r : Traced ε α) :=
  h

/-- A fault fails with itself. -/
lemma fail {e : ε} (h : post e) : Fails post (.fail e : Traced ε α) := by
  intro e' same
  cases same
  exact h

/-- What a run fails with satisfies every wider condition. -/
lemma mono {t : Traced ε α} (h : Fails post t) (imp : ∀ e, post e → wider e) : Fails wider t :=
  fun e same => imp e (h e same)

end Fails

/-- A run whose error, if any, and whose macros satisfy a condition each. -/
structure Reports (post : ε → Prop) (log : String → Prop) (t : Traced ε α) : Prop where
  fails : Fails post t
  macros : ∀ name ∈ t.macros, log name

namespace Reports

variable {post wider : ε → Prop} {log longer : String → Prop}

/-- A run after another one reports what both do, the second for values of the first only. -/
lemma bind_of_ok {t : Traced ε α} {f : α → Traced ε β} (first : Reports post log t)
    (next : ∀ a, t.result = .ok a → Reports post log (f a)) : Reports post log (t >>= f) where
  fails := .bind_of_ok first.fails fun a h => (next a h).fails
  macros := by
    obtain ⟨result, names⟩ := t
    cases result with
    | ok a => exact List.forall_mem_append.2 ⟨first.macros, (next a rfl).macros⟩
    | error => exact first.macros

/-- A run after another one reports what both of them do. -/
lemma bind {t : Traced ε α} {f : α → Traced ε β} (first : Reports post log t)
    (next : ∀ a, Reports post log (f a)) : Reports post log (t >>= f) :=
  bind_of_ok first fun a _ => next a

/-- A value reports nothing. -/
lemma pure (a : α) : Reports post log (Pure.pure a : Traced ε α) :=
  ⟨.pure a, List.forall_mem_nil _⟩

/-- A step without macros reports its error. -/
lemma lift {r : Except ε α} (h : ∀ e, r = .error e → post e) :
    Reports post log (liftM r : Traced ε α) :=
  ⟨h, List.forall_mem_nil _⟩

/-- A fault reports itself. -/
lemma fail {e : ε} (h : post e) : Reports post log (.fail e : Traced ε α) :=
  ⟨.fail h, List.forall_mem_nil _⟩

/-- What a run reports satisfies all wider conditions. -/
lemma mono {t : Traced ε α} (h : Reports post log t) (imp : ∀ e, post e → wider e)
    (more : ∀ name, log name → longer name) : Reports wider longer t :=
  ⟨h.fails.mono imp, fun name member => more name (h.macros name member)⟩

end Reports

/-- A run that goes like another one, or like the beginning of it up to a fault in `stops`. -/
inductive Cut (stops : ε → Prop) : Traced ε α → Traced ε α → Prop where
  | refl (t) : Cut stops t t
  | stop {e names} {t : Traced ε α} : stops e → names <+: t.macros → Cut stops ⟨.error e, names⟩ t

namespace Cut

/-- A run that succeeds was not cut. -/
lemma eq_of_ok {s t : Traced ε α} (cut : Cut stops s t) {a} (h : s.result = .ok a) : s = t := by
  cases cut with
  | refl => rfl
  | stop => cases h

/-- A run that fails was cut at that fault, or fails as the whole run does. -/
lemma error_or_stops {s t : Traced ε α} (cut : Cut stops s t) {e} (h : s.result = .error e) :
    t.result = .error e ∨ stops e := by
  cases cut with
  | refl => exact .inl h
  | stop stop => cases h; exact .inr stop

/-- The macros of a cut run are a beginning of those of the whole run. -/
lemma macros {s t : Traced ε α} (cut : Cut stops s t) : s.macros <+: t.macros := by
  cases cut with
  | refl => exact List.prefix_rfl
  | stop _ pre => exact pre

/-- A run that fails at once is a cut of every run. -/
lemma fail {e : ε} (h : stops e) (t : Traced ε α) : Cut stops (.fail e) t :=
  .stop h List.nil_prefix

/-- Equal runs are cuts of each other. -/
lemma of_eq {s t : Traced ε α} (h : s = t) : Cut stops s t :=
  h ▸ .refl s

/-- Steps that follow a cut run are cut where the run is or where they are. -/
lemma bind {s t : Traced ε α} {f g : α → Traced ε β} (cut : Cut stops s t)
    (next : ∀ a, Cut stops (f a) (g a)) : Cut stops (s >>= f) (t >>= g) := by
  cases cut with
  | refl =>
    obtain ⟨result, names⟩ := s
    cases result with
    | error e => exact .refl _
    | ok a =>
      show Cut stops ⟨(f a).result, names ++ (f a).macros⟩ ⟨(g a).result, names ++ (g a).macros⟩
      have after := next a
      generalize f a = u at after
      generalize g a = v at after
      cases after with
      | refl => exact .refl _
      | stop h pre => exact .stop h ((List.prefix_append_right_inj names).2 pre)
  | @stop e names t h pre =>
    -- the cut run takes no further step, and the whole run only adds macros
    refine .stop h (pre.trans ?_)
    obtain ⟨result, names'⟩ := t
    cases result with
    | error => exact List.prefix_rfl
    | ok a => exact List.prefix_append names' _

/-- Another form of error keeps a cut. -/
lemma mapError {f : ε → ε'} {stops' : ε' → Prop} {s t : Traced ε α} (cut : Cut stops s t)
    (h : ∀ e, stops e → stops' (f e)) : Cut stops' (s.mapError f) (t.mapError f) := by
  cases cut with
  | refl => exact .refl _
  | stop he pre => exact .stop (h _ he) pre

end Cut

/-- Runs with the same value or the same view of their errors, and the same macros. -/
def Alike (view : ε → ε') (s t : Traced ε α) : Prop :=
  s.mapError view = t.mapError view

namespace Alike

variable {view : ε → ε'}

/-- A run is like itself. -/
lemma refl (t : Traced ε α) : Alike view t t :=
  rfl

/-- Faults are alike that look the same. -/
lemma fail {e f : ε} (h : view e = view f) : Alike view (.fail e : Traced ε α) (.fail f) := by
  show Traced.mk (.error (view e)) [] = ⟨.error (view f), []⟩
  rw [h]

/-- Runs that are alike expand the same macros. -/
lemma macros {s t : Traced ε α} (alike : Alike view s t) : s.macros = t.macros :=
  congrArg (Traced.macros (ε := ε')) alike

/-- Only values that a step gives matter to the steps after it. -/
lemma bind_of_ok {s t : Traced ε α} {f g : α → Traced ε β} (first : Alike view s t)
    (next : ∀ a, t.result = .ok a → Alike view (f a) (g a)) :
    Alike view (s >>= f) (t >>= g) := by
  obtain ⟨result, names⟩ := s
  obtain ⟨result', names'⟩ := t
  obtain rfl : names = names' := first.macros
  have same : result.mapError view = result'.mapError view := congrArg Traced.result first
  cases result with
  | ok a =>
    cases result' with
    | ok b =>
      cases Except.ok.inj same
      have after := next a rfl
      show Traced.mk _ (names ++ (f a).macros) = ⟨_, names ++ (g a).macros⟩
      exact congr (congrArg Traced.mk (congrArg Traced.result after))
        (congrArg (names ++ ·) after.macros)
    | error e => cases same
  | error e =>
    cases result' with
    | ok b => cases same
    | error e' =>
      have seen : view e = view e' := Except.error.inj same
      show Traced.mk (Except.error (view e)) names = ⟨.error (view e'), names⟩
      rw [seen]

/-- Runs are alike if their first halves are and their second halves are for every value. -/
lemma bind {s t : Traced ε α} {f g : α → Traced ε β} (first : Alike view s t)
    (next : ∀ a, Alike view (f a) (g a)) : Alike view (s >>= f) (t >>= g) :=
  bind_of_ok first fun a _ => next a

/-- Of two runs that are alike both succeed, with the same value, or both fail. -/
lemma cases {s t : Traced ε α} (alike : Alike view s t) :
    (∃ a, s.result = .ok a ∧ t.result = .ok a) ∨
      ∃ e f, s.result = .error e ∧ t.result = .error f ∧ view e = view f := by
  obtain ⟨first, names⟩ := s
  obtain ⟨second, others⟩ := t
  have same : first.mapError view = second.mapError view := congrArg Traced.result alike
  cases first with
  | ok a =>
    cases second with
    | ok b => exact .inl ⟨a, rfl, congrArg Except.ok (Except.ok.inj same).symm⟩
    | error f => cases same
  | error e =>
    cases second with
    | ok b => cases same
    | error f => exact .inr ⟨e, f, rfl, rfl, Except.error.inj same⟩

end Alike

/-- A run that is like another one, unless that one stops at a fault in `stops`. -/
def Follows (stops : ε → Prop) (view : ε → ε') (s t : Traced ε α) : Prop :=
  Alike view s t ∨ ∃ e, t.result = .error e ∧ stops e

namespace Follows

variable {view : ε → ε'}

/-- A run follows itself. -/
lemma refl (t : Traced ε α) : Follows stops view t t :=
  .inl (.refl t)

/-- A fault follows one that looks the same. -/
lemma fail {e f : ε} (h : view e = view f) :
    Follows stops view (.fail e : Traced ε α) (.fail f) :=
  .inl (.fail h)

/-- Every run follows one that stops at once. -/
lemma stop {e : ε} (h : stops e) (s : Traced ε α) : Follows stops view s (.fail e) :=
  .inr ⟨e, rfl, h⟩

/-- A run follows another one if its first half does and its second half does for every value. -/
lemma bind {s t : Traced ε α} {f g : α → Traced ε β} (first : Follows stops view s t)
    (next : ∀ a, Follows stops view (f a) (g a)) : Follows stops view (s >>= f) (t >>= g) := by
  cases made : t.result with
  | error e =>
    obtain alike | ⟨e, failed, stop⟩ := first
    · exact .inl (alike.bind_of_ok fun a built => nomatch built.symm.trans made)
    · refine .inr ⟨e, ?_, stop⟩
      obtain ⟨_, names⟩ := t
      cases failed
      rfl
  | ok a =>
    obtain alike | ⟨e, failed, -⟩ := first
    · obtain after | ⟨e, failed, stop⟩ := next a
      · exact .inl (alike.bind_of_ok fun _ built => Except.ok.inj (made.symm.trans built) ▸ after)
      · refine .inr ⟨e, ?_, stop⟩
        obtain ⟨_, names⟩ := t
        cases made
        exact failed
    · cases made.symm.trans failed

end Follows

end Traced

end QueryExpr
