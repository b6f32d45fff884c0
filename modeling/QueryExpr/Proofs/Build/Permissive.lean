import QueryExpr.Proofs.Build.Inversion
import QueryExpr.Proofs.Session.Request
import QueryExpr.Syntax.Construct

/-!
# More permissive contexts

Options only decide whether something is refused, and a macro is only looked up by its name. So a
build that succeeds does the same under options that allow more and with further macros: the theorem
`Session.answer_widen` says this for every request, for the expression and for the log of used
macros. It follows from `Syntax.Node.build_cut`, since a narrow build that succeeds was not cut
anywhere.
-/

namespace QueryExpr

open Traced (Cut)

/-- Options with the same thresholds that allow at most what others allow. -/
structure Options.AtMost (options wide : Options) : Prop where
  minEnumSegments : options.minEnumSegments = wide.minEnumSegments
  minEntitySegments : options.minEntitySegments = wide.minEntitySegments
  allowOuter : options.allowOuter → wide.allowOuter
  allowQuantifiers : options.allowQuantifiers → wide.allowQuantifiers
  allowBareTreat : options.allowBareTreat → wide.allowBareTreat
  maxDepth : options.maxDepth ≤ wide.maxDepth

/-- A registry that knows every macro of another one under the same name. -/
def MacroRegistry.Extends (wide registry : MacroRegistry) : Prop :=
  ∀ name expansion, registry.get? name = some expansion → wide.get? name = some expansion

/-- A macro with a new name extends the registry. -/
lemma MacroRegistry.extends_register {registry : MacroRegistry} {name : String}
    (expansion : Expansion) (new : registry.get? (Case.upper name) = none) :
    (registry.register name expansion).Extends registry := by
  intro other known h
  have differs : other ≠ Case.upper name := by
    rintro rfl
    cases new.symm.trans h
  show (registry.expansions.insert (Case.upper name) expansion).get? other = some known
  rw [Table.get?_insert, if_neg differs]
  exact h

/-- The context with other options and other macros. -/
def Context.widen (context : Context) (options : Options) (macros : MacroRegistry) : Context :=
  { context with options := options, registries := { context.registries with macros := macros } }

variable {context : Context} {options : Options} {macros : MacroRegistry}

/-- A switch that is allowed at most where another one is agrees with it or is off. -/
private lemma eq_or_off {switch wide : Bool} (h : switch → wide) :
    switch = wide ∨ switch = false := by
  cases switch with
  | false => exact .inr rfl
  | true => exact .inl (h rfl).symm

/-- A context with stricter options and fewer macros differs from the wider one only by what it
refuses. -/
lemma Context.narrows_widen (more : context.options.AtMost options)
    (extension : macros.Extends context.registries.macros) :
    context.Narrows (fun _ => True) (context.widen options macros) where
  functions := rfl
  enums := rfl
  entities := rfl
  temporal := rfl
  minEnumSegments := more.minEnumSegments
  minEntitySegments := more.minEntitySegments
  macros name := by
    cases known : context.registries.macros.get? name with
    | none => exact .inr ⟨rfl, fun _ _ => trivial⟩
    | some expansion => exact .inl (extension name expansion known).symm
  outer := (eq_or_off more.allowOuter).imp_right fun off => ⟨off, fun _ => trivial⟩
  quantifiers := (eq_or_off more.allowQuantifiers).imp_right fun off => ⟨off, fun _ => trivial⟩
  bareTreat := (eq_or_off more.allowBareTreat).imp_right fun off => ⟨off, fun _ => trivial⟩
  nesting _ := trivial

/-- The build of a request is cut only where the build of its tree is. -/
lemma Request.build_cut {stops : Fault → Prop} {wide : Context}
    (narrow : context.Narrows stops wide)
    (room : context.options.maxDepth ≤ wide.options.maxDepth) (request : Request) :
    Cut stops (request.build context 0) (request.build wide 0) := by
  cases request with
  | expression tree => exact Syntax.Node.build_cut narrow room tree
  | predicate tree =>
    refine .bind ?_ fun _ => .refl _
    exact .bind (Syntax.Node.build_cut narrow room tree) fun _ => .refl _

/-- A request that succeeds is answered in the same way, with the same log of macros, under all
options that allow at least as much and with any further macros. -/
theorem Session.answer_widen {session : Session} (more : session.context.options.AtMost options)
    (extension : macros.Extends session.context.registries.macros) {request : Request} {e}
    (h : (session.answer request).1 = .ok e) :
    let wide := session.inContext (session.context.widen options macros)
    (wide.answer request).1 = .ok e ∧
      (wide.answer request).2.used = (session.answer request).2.used := by
  intro wide
  rw [answer_eq_report] at h
  have built := report_ok.1 h
  have cut : Cut _ (request.build session.context 0) (request.build wide.context 0) :=
    Request.build_cut (Context.narrows_widen more extension) more.maxDepth request
  have same := cut.eq_of_ok built
  rw [answer_eq_report, answer_eq_report, ← same]
  exact ⟨report_ok.2 built, rfl⟩

/-- A call of a macro where nothing is allowed but what it needs, and where everything is. -/
theorem Session.answer_widen_first :
    let strict : Options := ⟨2, 2, false, false, false, 2⟩
    let lenient : Options := ⟨2, 2, true, true, true, 512⟩
    let macros := Context.withFirst.registries.macros
    let further := macros.register "root" StockMacro.viewRoot.expand
    let session := Session.start { Context.withFirst with options := strict } ""
    let wide := session.inContext (session.context.widen lenient further)
    let request := Request.expression (.call "First" [.identifier "a"])
    strict.AtMost lenient ∧ further.Extends macros ∧
      (session.answer request).1 = .ok (.property "a") ∧
      (wide.answer request).1 = .ok (.property "a") ∧
      (wide.answer request).2.used = (session.answer request).2.used := by
  refine ⟨?more, ?extension, rfl, Session.answer_widen ?more ?extension rfl⟩
  case more => exact ⟨rfl, rfl, fun _ => rfl, fun _ => rfl, fun _ => rfl, by decide⟩
  case extension => exact MacroRegistry.extends_register _ rfl

end QueryExpr
