import QueryExpr.Proofs.Build.References

/-!
# Parameters that stand for a collection

A parameter is marked where it is the single item of a membership test, and nowhere else. What is
passed on from step to step is that a part is no marked parameter itself. By `Session.answer_marks`
the marked parameters of an answer come from membership tests of the tree whose item is written
without parentheses and is no call of a function. `Node.Denotes` says what the item then is: a
written parameter, a bound enum constant, or a macro that is called in another way.
-/

namespace QueryExpr

namespace Part

/-- Where the marked parameters in a part stand: one that was asked for is the single item of a
membership test. -/
def MarksFit (asked : Expression → Parameter → Prop) (part : Part) : Prop :=
  match part with
  | predicate ⟨.inList operand items, _⟩ =>
    MadeOf IsUnmarked operand ∧ (MadeOf IsUnmarked items ∨ ∃ parameter, asked operand parameter ∧
      items = [.parameter { parameter with collectionValued := true }])
  | _ => MadeOf IsUnmarked part.inner

/-- A part that is no marked parameter itself and in which all marks are where they belong. -/
def Settled (asked : Expression → Parameter → Prop) (part : Part) : Prop :=
  part.IsUnmarked ∧ part.Deeply (MarksFit asked)

variable {asked : Expression → Parameter → Prop}

/-- Marks are where they belong in a part that has none directly in it. -/
lemma marksFit_of_inner {part : Part} (h : MadeOf IsUnmarked part.inner) : part.MarksFit asked := by
  cases part with
  | predicate p =>
    obtain ⟨kind, negated⟩ := p
    cases kind with
    | inList operand items =>
      obtain ⟨ho, hi⟩ := madeOf_append.1 h
      exact ⟨madeOf_parts.1 ho, .inl (madeOf_parts.1 hi)⟩
    | _ => exact h
  | _ => exact h

/-- A part that is no membership test has no marked parameter directly in it. -/
lemma MarksFit.inner {part : Part} (h : part.MarksFit asked) (other : part.isMembership = false) :
    MadeOf IsUnmarked part.inner := by
  cases part with
  | predicate p =>
    obtain ⟨kind, negated⟩ := p
    cases kind with
    | inList => cases other
    | _ => exact h
  | _ => exact h

/-- A part is settled if it is unmarked and what is directly in it is settled. -/
lemma settled_of_inner {part : Part} (unmarked : part.IsUnmarked)
    (h : MadeOf (Settled asked) part.inner) : part.Settled asked := by
  have fit : part.MarksFit asked := marksFit_of_inner fun inner member => (h inner member).1
  exact ⟨unmarked, deeply_iff.2 ⟨fit, fun inner member => (h inner member).2⟩⟩

/-- A part with no marked parameter at any depth is settled. -/
lemma settled_of_unmarked {part : Part} (h : part.Deeply IsUnmarked) : part.Settled asked := by
  refine ⟨h part .refl, fun inner within => marksFit_of_inner ?_⟩
  have deeper : inner.Deeply IsUnmarked := fun other inside => h other (within.trans inside)
  exact fun other member => (deeply_iff.1 deeper).2 other member other .refl

/-- Marks stay where they belong when parts are put together and taken apart. -/
lemma composes_settled : Part.Composes (Settled asked) := by
  apply Part.Composes.of_inner
  · intro part own inside
    exact settled_of_inner (isUnmarked_of_isPlain own) inside
  · intro part other h
    obtain ⟨fit, inside⟩ := deeply_iff.1 h.2
    have unmarked := fit.inner other
    exact fun inner member => ⟨unmarked inner member, inside inner member⟩

end Part

/-- The steps of a build mark a parameter only where that is asked for. -/
lemma Context.forms_settled (context : Context) {written : List String → Prop}
    {asked : Expression → Parameter → Prop} : context.Forms written asked (Part.Settled asked) := by
  apply Forms.of_inner Part.composes_settled
  case made => exact fun _ _ => Part.settled_of_inner
  case negated =>
    intro kind h
    obtain ⟨fit, inside⟩ := Part.deeply_iff.1 h.2
    -- where marks belong does not depend on the flag of a predicate
    refine ⟨trivial, Part.deeply_iff.2 ⟨?_, inside⟩⟩
    cases kind <;> exact fit
  case marked =>
    intro operand parameter negated asks ho h
    have item : Part.Deeply (Part.MarksFit asked)
        (.expression (.parameter { parameter with collectionValued := true })) :=
      Part.deeply_iff.2 ⟨madeOf_nil, madeOf_nil⟩
    refine ⟨trivial, Part.deeply_iff.2 ⟨?fit, ?inside⟩⟩
    case fit => exact ⟨madeOf_expression.2 ho.1, .inr ⟨parameter, asks, rfl⟩⟩
    case inside =>
      have items := madeOf_cons.2 ⟨madeOf_expression.2 item, madeOf_nil⟩
      exact madeOf_append.2 ⟨madeOf_parts.2 (madeOf_expression.2 ho.2), madeOf_parts.2 items⟩

/-- A macro makes a parameter of some arguments. -/
def Context.Expands (context : Context) (name : String) (parameter : Parameter) : Prop :=
  ∃ expansion arguments, context.registries.macros.get? name = some expansion ∧
    expansion arguments = .ok (.parameter parameter)

namespace Syntax

variable {context : Context} {parameter : Parameter}

/-- What a node that is built to a parameter is: a parameter as it is written, the name of an enum
constant or the call of a macro, perhaps in parentheses, after a plus sign or as a qualifier. -/
inductive Node.Denotes (context : Context) : Node → Parameter → Prop where
  | named {name span} : Denotes context ⟨.atom (.namedParameter name), span⟩ (.named name)
  | positional {position span} :
    Denotes context ⟨.atom (.positionalParameter position), span⟩ (.named position)
  | constant {node : Node} {segments parameter} :
    node.kind.Tries context.options.minEnumSegments segments →
    context.enumConstant? (Dotted.join segments) = .ok (some (.parameter parameter)) →
    Denotes context node parameter
  | expansion {node : Node} {name parameter} : node.kind.macro? context = some name →
    context.Expands name parameter → Denotes context node parameter
  | wrapped {op operand span parameter} : op = .grouped ∨ op = .plus →
    Denotes context operand parameter → Denotes context ⟨.unary op operand, span⟩ parameter
  | qualifier {operand span parameter} : Denotes context operand parameter →
    Denotes context ⟨.path .plain ⟨some operand, []⟩, span⟩ parameter

/-- A node that comes to a parameter denotes it. -/
lemma Node.Refers.denotes {node : Node} (h : node.Refers context (.parameter parameter)) :
    node.Denotes context parameter := by
  generalize same : Expression.parameter parameter = e at h
  induction h with
  | named =>
    cases same
    exact .named
  | positional =>
    cases same
    exact .positional
  | constant tries found =>
    cases same
    exact .constant tries found
  | expansion called made =>
    cases same
    exact .expansion called made
  | wrapped plain _ ih => exact .wrapped plain (ih same)
  | qualifier _ _ ih => exact .qualifier (ih same)
  | steps => cases same
  | downcast => cases same

/-- A node is built to a parameter only if it denotes it. -/
theorem Node.Builds.denotes {node : Node} (h : node.Builds context (.parameter parameter)) :
    node.Denotes context parameter :=
  (h.refers rfl).denotes

/-- A membership test of an expression in a tree has a single item that denotes a parameter. The
item is written without parentheses, and is no call of a function. -/
def Node.Collects (context : Context) (tree : Node) (e : Expression) (parameter : Parameter) :
    Prop :=
  ∃ node : Node, node.Within tree ∧ ∃ negated operand item,
    node.kind = .inList negated operand [item] false ∧ (∀ c, item.kind ≠ .call c) ∧
      operand.Builds context e ∧ item.Denotes context parameter

/-- A parameter that a tree asks for is one that it collects. -/
lemma Node.Asks.collects {tree : Node} {e} (asks : tree.Asks context e parameter) :
    tree.Collects context e parameter := by
  obtain ⟨node, within, negated, operand, item, test, other, left, built⟩ := asks
  exact ⟨node, within, negated, operand, item, test, other, left, built.denotes⟩

end Syntax

/-- Macros that bring in no marked parameter keep marks where they belong. -/
lemma Context.preserves_settled {context : Context} {asked : Expression → Parameter → Prop}
    {name : String} (unmarked : ∀ expansion, context.registries.macros.get? name = some expansion →
      ∀ arguments e, expansion arguments = .ok e → Obeys Part.IsUnmarked e) :
    context.Preserves (Part.Settled asked) name := by
  intro expansion found arguments e _ made part member
  have deep : part.Deeply Part.IsUnmarked := unmarked expansion found arguments e made part member
  exact Part.settled_of_unmarked deep

/-- A marked parameter of an answer is the single item of a membership test, and the tree has such a
test whose item denotes it, if the macros keep to that. -/
theorem Session.answer_marks {session : Session} {request : Request}
    (macros : ∀ name, session.context.Preserves
      (Part.Settled (request.tree.Collects session.context)) name) {e}
    (h : (session.answer request).1 = .ok e) :
    (Part.expression e).IsUnmarked ∧ ∀ part : Part, part.Within (.expression e) →
      part.MarksFit (request.tree.Collects session.context) := by
  have collected : session.context.Forms request.tree.Writes
      (request.tree.Collects session.context)
      (Part.Settled (request.tree.Collects session.context)) := session.context.forms_settled
  have forms := collected.mono (fun _ writes => writes) fun _ _ => Syntax.Node.Asks.collects
  exact madeOf_expression.1 (answer_madeOf forms macros h)

open Syntax in
/-- A test of what a macro makes for a parameter after a plus sign. -/
theorem Session.answer_marks_item :
    let registries : Registries :=
      { Registries.empty with macros := .register .empty "ids" (StockMacro.parameter "ids").expand }
    let context : Context := ⟨registries, .standard, Temporal.iso⟩
    let session := Session.start context ""
    let item := Node.unary .plus (.namedParameter "list")
    let request := Request.predicate (.inItem (.call "ids" []) item)
    let list : Parameter := { Parameter.named "list" with collectionValued := true }
    let ids := Expression.parameter (.named "ids")
    let e := Expression.predicate ⟨.inList ids [.parameter list], false⟩
    (∀ name, context.Preserves (Part.Settled (request.tree.Collects context)) name) ∧
      (session.answer request).1 = .ok e ∧ (Part.expression e).IsUnmarked ∧
        ∀ part : Part, part.Within (.expression e) →
          part.MarksFit (request.tree.Collects context) := by
  intro registries context session item request list ids e
  have macros (name) : context.Preserves (Part.Settled (request.tree.Collects context)) name := by
    apply Context.preserves_settled
    intro expansion found arguments made same
    obtain rfl : expansion = (StockMacro.parameter "ids").expand := MacroRegistry.get?_single found
    cases same
    have unmarked : Part.Deeply Part.IsUnmarked (.expression (.parameter (.named "ids"))) :=
      Part.deeply_iff.2 ⟨rfl, madeOf_nil⟩
    exact List.forall_mem_singleton.2 unmarked
  have built : (session.answer request).1 = .ok e := rfl
  exact ⟨macros, built, answer_marks macros built⟩

open Syntax in
/-- An enum constant that is bound to a parameter is marked like a written parameter. -/
theorem Session.bound_parameter_marked :
    let enums := EnumRegistry.register .empty ⟨"app.Color", ["RED"]⟩
    let context : Context := ⟨{ Registries.empty with enums }, .standard, Temporal.iso⟩
    let session := Session.start context ""
    let request := Request.predicate (.inItem (.dottedPath "c.color") (.dottedPath "Color.RED"))
    let red := Parameter.bound "Color_RED" ⟨"app.Color", "RED", 0⟩
    let test : Predicate := ⟨.inList (.path (.dotted "c.color"))
      [.parameter { red with collectionValued := true }], false⟩
    (session.answer request).1 = .ok (.predicate test) ∧
      ¬ ∀ part : Part, part.Within (.expression (.predicate test)) →
        part.MarksFit fun _ parameter => parameter.value = none := by
  intro enums context session request red test
  refine ⟨rfl, fun fit => ?_⟩
  have within : (Part.predicate test).Within (.expression (.predicate test)) :=
    .single (.head _)
  obtain ⟨-, unmarked | ⟨parameter, unbound, same⟩⟩ := fit (.predicate test) within
  · have marked := madeOf_expression.1 (madeOf_cons.1 unmarked).1
    exact Bool.noConfusion marked
  · cases parameter
    cases same
    cases unbound

end QueryExpr
