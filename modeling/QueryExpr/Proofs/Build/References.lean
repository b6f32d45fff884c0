import QueryExpr.Proofs.Build.Blame
import QueryExpr.Proofs.Build.Links
import QueryExpr.Proofs.Resolve.Arguments

/-!
# References

Parameters, paths and downcasts are handed on as they are: by parentheses, by a plus sign, and by a
path that has them as its qualifier and no links. `Node.Refers` says which nodes are built to one of
them. By `Node.Builds.refers` there are no others. Where the options do not allow a downcast that is
not dereferenced, by `Session.build_bareTreat_iff` a tree is built to one just if it is written for
one by itself.
-/

namespace QueryExpr

variable {context : Context}

/-- A parameter, a path or a downcast. -/
def Expression.isReference : Expression → Bool
  | parameter _ | path _ | treat _ _ => true
  | _ => false

/-- What a call shows its arguments in is no reference. -/
lemma Expression.Shows.not_isReference {e : Expression} {arguments} (h : e.Shows arguments) :
    ¬ e.isReference := by
  cases h <;> exact Bool.false_ne_true

/-- The result of a concatenation is a call. -/
lemma Expression.not_isReference_concatenate (left right : Expression) :
    ¬ (concatenate left right).isReference := by
  have prepended (e : Expression) : ¬ (prepend e right).isReference := by
    unfold prepend
    split
    · split <;> exact Bool.false_ne_true
    · exact Bool.false_ne_true
  unfold concatenate
  split
  · split
    · exact Bool.false_ne_true
    · exact prepended _
  · exact prepended _

/-- A macro makes an expression of some arguments. -/
def Context.Makes (context : Context) (name : String) (e : Expression) : Prop :=
  ∃ expansion arguments, context.registries.macros.get? name = some expansion ∧
    expansion arguments = .ok e

/-- What a macro is expanded to is what it makes. -/
lemma Context.makes_of_expand {name arguments e}
    (h : (context.expand name arguments).result = .ok e) : context.Makes (Case.upper name) e := by
  unfold expand at h
  split at h
  · next expansion found => exact ⟨expansion, arguments, found, except_mapError_ok.1 h⟩
  · cases h

/-- Among calls only that of a macro is a reference. -/
lemma Invocation.resolve_reference {call : Invocation} {e}
    (h : (call.resolve context).result = .ok e) (reference : e.isReference) :
    ∃ name, context.macroName? call.name = some name ∧ context.Makes name e := by
  obtain ⟨builtin, -, made⟩ | ⟨kind, -, -, made⟩ | ⟨called, made⟩ := resolve_ok h
  · exact absurd reference (ofBuiltin_shows made).not_isReference
  · exact absurd reference (ofKind_shows made).not_isReference
  · exact ⟨_, called, Context.makes_of_expand made⟩

/-- A path with other elements is no downcast alone. -/
lemma Path.not_isSingleTreat {path : Path}
    (h : ∀ operand entityName, path.elements ≠ [.treat operand entityName]) :
    ¬ path.isSingleTreat := by
  obtain ⟨first, rest, _, _⟩ := path
  unfold isSingleTreat
  split
  · next operand entityName same none =>
    cases same
    cases none
    exact absurd rfl (h operand entityName)
  · exact Bool.false_ne_true

namespace Syntax

variable {span : Span} {e : Expression}

/-- The elements that show a link start with no downcast. -/
lemma Link.Shown.ne_treat {link : Link} {elements} (h : link.Shown context elements)
    (others : List PathElement) (operand entityName) :
    elements ++ others ≠ [.treat operand entityName] := by
  cases h with
  | @properties segments nonempty =>
    cases segments with
    | nil => exact absurd rfl nonempty
    | cons => exact nofun
  | @indexed front =>
    cases front with
    | nil => exact nofun
    | cons => exact nofun
  | entity => exact nofun

/-- What a node that is built to a reference is. Of a path of its own it only says that this is no
bare downcast. -/
inductive Node.Refers (context : Context) : Node → Expression → Prop where
  | named {name span} :
    Refers context ⟨.atom (.namedParameter name), span⟩ (.parameter (.named name))
  | positional {position span} :
    Refers context ⟨.atom (.positionalParameter position), span⟩ (.parameter (.named position))
  | constant {node : Node} {segments e} :
    node.kind.Tries context.options.minEnumSegments segments →
    context.enumConstant? (Dotted.join segments) = .ok (some e) → Refers context node e
  | expansion {node : Node} {name e} : node.kind.macro? context = some name →
    context.Makes name e → Refers context node e
  | wrapped {op operand span e} : op = .grouped ∨ op = .plus → Refers context operand e →
    Refers context ⟨.unary op operand, span⟩ e
  | qualifier {operand span e} : Refers context operand e →
    (e.isBareTreat → context.options.allowBareTreat) →
    Refers context ⟨.path .plain ⟨some operand, []⟩, span⟩ e
  | steps {node path} : ¬ path.isSingleTreat → Refers context node (.path path)
  | downcast {entityName path span operand} :
    Refers context ⟨.path (.treat entityName) path, span⟩ (.treat operand entityName)

/-- A reference that a node without operands builds is one that the node refers to. -/
lemma Atom.build_refers {leaf : Atom} (h : leaf.build context = .ok e) (reference : e.isReference) :
    Node.Refers context ⟨.atom leaf, span⟩ e := by
  cases leaf with
  | namedParameter name =>
    cases h
    exact .named
  | positionalParameter position =>
    cases h
    exact .positional
  | constant segments =>
    have resolved := except_mapError_ok.1 h
    simp only [Context.constant] at resolved
    split at resolved
    · cases resolved
    · next found =>
      cases resolved
      exact .constant ⟨.head _, .inl rfl⟩ found
    · split at resolved
      · cases resolved
        cases reference
      · cases resolved
  | subpath segments =>
    simp only [Atom.build] at h
    split at h
    · cases h
    · next found =>
      cases h
      obtain ⟨enough, found⟩ := Context.leadingConstant?_ok found
      exact .constant ⟨.head _, .inr enough⟩ found
    · split at h
      · next path same =>
        cases h
        refine .steps (QueryExpr.Path.not_isSingleTreat fun operand entityName lone => ?_)
        have member : .treat operand entityName ∈ segments.map PathElement.property := by
          rw [← QueryExpr.Path.elements_ofElements? same, lone]
          exact .head _
        obtain ⟨_, -, other⟩ := List.mem_map.1 member
        cases other
      · cases h
  | object name | identifier name =>
    have same : context.identifier name = e := Except.ok.inj h
    unfold Context.identifier at same
    split at same
    · cases same
      cases reference
    · cases same
      exact .steps Bool.false_ne_true
  | temporal kind body =>
    obtain ⟨_, -, same⟩ := except_map_ok.1 (except_mapError_ok.1 h)
    cases same
    cases reference
  | string raw =>
    simp only [Atom.build] at h
    split at h
    · cases h
      cases reference
    · cases h
  | unmatched => cases h
  | null | boolean | numeric | temporalFunction =>
    cases h
    cases reference

/-- A step with one operand builds a reference only by leaving its operand as it is. -/
lemma UnaryOp.build_refers {op : UnaryOp} {operand : Expression}
    (h : op.build span operand = .ok e) (reference : e.isReference) :
    (op = .grouped ∨ op = .plus) ∧ operand = e := by
  cases op with
  | grouped => exact ⟨.inl rfl, Except.ok.inj h⟩
  | plus => exact ⟨.inr rfl, Except.ok.inj h⟩
  | isEmpty =>
    obtain ⟨_, -, h⟩ := except_bind_ok.1 h
    cases h
    cases reference
  | _ =>
    cases h
    cases reference

/-- A step with two operands builds no reference. -/
lemma BinaryOp.not_isReference_build (op : BinaryOp) (left right : Expression) :
    ¬ (op.build context left right).isReference := by
  cases op with
  | concatenation => exact Expression.not_isReference_concatenate left right
  | _ => exact Bool.false_ne_true

/-- A path is built to its qualifier, to a path of its own or to an enum constant. -/
lemma Path.build_refers {depth : Nat} {path : Path}
    (h : (path.build context depth span).result = .ok e) :
    (∃ operand, path = ⟨some operand, []⟩ ∧ operand.Builds context e) ∨
      (∃ steps, e = .path steps ∧ ¬ steps.isSingleTreat) ∨
      ∃ segments ∈ path.names, context.options.minEnumSegments ≤ segments.length ∧
        context.enumConstant? (Dotted.join segments) = .ok (some e) := by
  match path with
  | ⟨none, []⟩ =>
    rw [Path.build] at h
    cases h
  | ⟨none, ⟨segments, index⟩ :: links⟩ =>
    obtain ⟨⟨-, found⟩, enough⟩ | ⟨path, rfl, shown⟩ := Path.build_links h
    · exact .inr (.inr ⟨segments, .head _, enough, found⟩)
    · refine .inr (.inl ⟨path, rfl, QueryExpr.Path.not_isSingleTreat ?_⟩)
      generalize path.elements = elements at shown
      cases shown with
      | cons leading => exact leading.ne_treat _
  | ⟨some operand, []⟩ =>
    rw [Path.build] at h
    exact .inl ⟨operand, rfl, Node.builds_of_build h⟩
  | ⟨some operand, ⟨segments, index⟩ :: links⟩ =>
    simp only [Path.build, Traced.bind_ok, Traced.lift_ok, Traced.pure_ok] at h
    obtain ⟨_, -, path, -, _, checked, index, -, elements, -, rfl⟩ := h
    -- the path of the qualifier has an element, and so has the link behind it
    refine .inr (.inl ⟨_, rfl, QueryExpr.Path.not_isSingleTreat fun operand entityName lone => ?_⟩)
    rw [QueryExpr.Path.elements_append] at lone
    obtain ⟨none, -⟩ | ⟨-, none⟩ := List.append_eq_singleton_iff.1 lone
    · cases none
    · have empty : segments = [] := linkElements_eq_nil (List.append_eq_nil_iff.1 none).1
      exact checkLink_ok checked empty

/-- A node is built to a reference only if it refers to it. The recursion follows the operands that
are handed on as they are. -/
theorem Node.Builds.refers : ∀ {node : Node} {e}, node.Builds context e → e.isReference →
    node.Refers context e
  | ⟨kind, span⟩, e, h, reference => by
    have ⟨_, made⟩ := Node.builds_iff.1 h
    -- a reference comes from a name, a parameter, a path or a macro, and from nothing else
    cases kind with
    | atom leaf =>
      rw [Kind.build] at made
      exact Atom.build_refers (except_mapError_ok.1 made) reference
    | unary op operand =>
      obtain ⟨x, hx, made⟩ := h.unary
      obtain ⟨plain, rfl⟩ := UnaryOp.build_refers made reference
      exact .wrapped plain (Node.Builds.refers hx reference)
    | binary op left right =>
      obtain ⟨l, r, -, -, rfl⟩ := h.binary
      exact absurd reference (BinaryOp.not_isReference_build op l r)
    | connective op left right =>
      obtain ⟨p, q, -, -, rfl⟩ := h.connective
      cases reference
    | negation operand =>
      obtain ⟨p, -, rfl⟩ := h.negation
      cases reference
    | typeOf operand =>
      obtain ⟨kind, operandSpan⟩ := operand
      cases kind with
      | path role path =>
        cases role with
        | plain =>
          simp only [Kind.build, Traced.bind_ok, Traced.pure_ok] at made
          obtain ⟨_, -, rfl⟩ := made
          cases reference
        | _ => cases made
      | atom leaf =>
        cases leaf with
        | namedParameter | positionalParameter =>
          simp only [Kind.build, Traced.bind_ok, Traced.pure_ok] at made
          obtain ⟨_, -, rfl⟩ := made
          cases reference
        | _ => cases made
      | _ => cases made
    | between | simpleCase | memberOf =>
      simp only [Kind.build, Traced.bind_ok, Traced.pure_ok] at made
      obtain ⟨_, -, _, -, _, -, rfl⟩ := made
      cases reference
    | searchedCase | trim | inList =>
      simp only [Kind.build, Traced.bind_ok, Traced.pure_ok] at made
      obtain ⟨_, -, _, -, rfl⟩ := made
      cases reference
    | like negated operand pattern escape =>
      simp only [Kind.build, Traced.bind_ok] at made
      obtain ⟨built, -, made⟩ := made
      split at made
      · cases made
      · simp only [Traced.bind_ok, Traced.pure_ok] at made
        obtain ⟨_, -, _, -, rfl⟩ := made
        cases reference
    | count distinct argument filter window =>
      simp only [Kind.build, Traced.bind_ok] at made
      obtain ⟨_, -, _, -, _, -, made⟩ := made
      have resolved := Traced.mapError_ok.1 made
      obtain ⟨name, called, made⟩ := Invocation.resolve_reference resolved reference
      exact .expansion called made
    | call c =>
      obtain ⟨name, distinct, arguments, withinGroup, filter, window⟩ := c
      simp only [Kind.build, Call.build, Traced.bind_ok] at made
      obtain ⟨_, -, _, -, _, -, _, -, made⟩ := made
      have resolved := Traced.mapError_ok.1 made
      obtain ⟨name, called, made⟩ := Invocation.resolve_reference resolved reference
      exact .expansion called made
    | path role path =>
      simp only [Kind.build, Traced.bind_ok, Traced.lift_ok] at made
      obtain ⟨built, made, written⟩ := made
      cases role with
      | plain =>
        obtain ⟨rfl, allowed⟩ := PathRole.build_plain.1 written
        obtain ⟨operand, rfl, inside⟩ | ⟨steps, rfl, other⟩ | ⟨segments, member, enough, found⟩ :=
          Path.build_refers made
        · exact .qualifier (Node.Builds.refers inside reference) allowed
        · exact .steps other
        · exact .constant ⟨member, .inr enough⟩ found
      | treat entityName =>
        simp only [PathRole.build] at written
        split at written
        · cases written
          exact .downcast
        · cases written
          exact .downcast
      | value | key | entry =>
        obtain ⟨_, -, written⟩ := except_bind_ok.1 written
        cases written
        cases reference
    | applied head arguments =>
      cases head with
      | constructor className =>
        simp only [Kind.build, Traced.bind_ok, Traced.pure_ok] at made
        obtain ⟨_, -, rfl⟩ := made
        cases reference
      | expansion name =>
        simp only [Kind.build, Traced.bind_ok] at made
        obtain ⟨_, -, made⟩ := made
        exact .expansion rfl (Context.makes_of_expand (Traced.mapError_ok.1 made))

/-- A path written for a downcast, perhaps in parentheses or after a plus sign. -/
inductive Node.IsDowncast : Node → Prop where
  | path {entityName path span} : IsDowncast ⟨.path (.treat entityName) path, span⟩
  | wrapped {op operand span} : op = .grouped ∨ op = .plus → IsDowncast operand →
    IsDowncast ⟨.unary op operand, span⟩

/-- Where bare downcasts are not allowed, only what is written for one refers to one. -/
lemma Node.Refers.isDowncast (strict : context.options.allowBareTreat = false) {node : Node}
    (h : node.Refers context e) (bare : e.isBareTreat) (plain : node.CallsNoMacro context) :
    node.IsDowncast := by
  induction h with
  | named | positional => cases bare
  | constant _ found =>
    obtain ⟨literal, rfl⟩ | ⟨parameter, rfl⟩ := Context.enumConstant?_eq found
    · cases bare
    · cases bare
  | @expansion node name e called =>
    have none : node.kind.macro? context = none := plain node .refl
    cases none.symm.trans called
  | @wrapped op operand span e transparent _ ih =>
    have standing : Node.Contains ⟨.unary op operand, span⟩ operand := .head _
    exact .wrapped transparent (ih bare fun node within => plain node (.head standing within))
  | qualifier _ allowed => cases strict.symm.trans (allowed bare)
  | steps other => exact absurd bare other
  | downcast => exact .path

/-- A downcast is built to a downcast that stands alone. -/
lemma Node.IsDowncast.isBareTreat {node : Node} (h : node.IsDowncast)
    (built : node.Builds context e) : e.isBareTreat := by
  induction h with
  | path =>
    obtain ⟨-, made⟩ := Node.builds_iff.1 built
    simp only [Kind.build, Traced.bind_ok, Traced.lift_ok] at made
    obtain ⟨_, -, written⟩ := made
    simp only [PathRole.build] at written
    split at written
    · cases written
      rfl
    · cases written
      rfl
  | wrapped transparent _ ih => exact ih (built.transparent transparent)

end Syntax

/-- Where bare downcasts are not allowed, a tree without macro calls is built to one only if it is
written for one; then it is. -/
theorem Session.build_bareTreat_iff {session : Session} {tree : Syntax.Node} {e}
    (strict : session.context.options.allowBareTreat = false)
    (plain : tree.CallsNoMacro session.context) (h : (session.build tree).1 = .ok e) :
    e.isBareTreat ↔ tree.IsDowncast := by
  have built : tree.Builds session.context e := report_ok.1 h
  constructor
  · intro bare
    have reference : e.isReference := by
      cases e with
      | path | treat => rfl
      | _ => cases bare
    exact (built.refers reference).isDowncast strict bare plain
  · intro written
    exact written.isBareTreat built

open Syntax in
/-- A downcast that is dereferenced is built to no bare one. -/
theorem Session.build_bareTreat_iff_dereferenced :
    let options := { Options.standard with allowBareTreat := false }
    let session := Session.start ⟨.empty, options, Temporal.iso⟩ ""
    let tree := Node.qualifiedPath (.pathFor (.treat "Person") "c.owner") [.dotted "name"]
    let owner := PathElement.treat (.dotted "c.owner") "Person"
    let e := Expression.path ⟨owner, [.property "name"], false, false⟩
    tree.CallsNoMacro session.context ∧ (session.build tree).1 = .ok e ∧ ¬ e.isBareTreat := by
  intro options session tree owner e
  have plain : tree.CallsNoMacro session.context :=
    Node.forall_within rfl
      (List.forall_mem_singleton.2 (Node.forall_within rfl (List.forall_mem_nil _)))
  have built : (session.build tree).1 = .ok e := rfl
  refine ⟨plain, built, fun bare => ?_⟩
  have written : Node.IsDowncast ⟨.path .plain _, _⟩ := (build_bareTreat_iff rfl plain built).1 bare
  cases written

open Syntax in
/-- A downcast on its own is built although the options allow none. -/
theorem Session.bare_downcast_built :
    let options := { Options.standard with allowBareTreat := false }
    let session := Session.start ⟨.empty, options, Temporal.iso⟩ ""
    let tree := Node.pathFor (.treat "Person") "c.owner"
    let e := Expression.treat (.dotted "c.owner") "Person"
    tree.CallsNoMacro session.context ∧ (session.build tree).1 = .ok e ∧ e.isBareTreat := by
  intro options session tree e
  exact ⟨Node.forall_within rfl (List.forall_mem_nil _), rfl, rfl⟩

end QueryExpr
