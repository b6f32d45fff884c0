import QueryExpr.Proofs.Build.Rules
import QueryExpr.Syntax.Construct

/-!
# Links of paths

What becomes of the links of a path without qualifier. `Link.Shown` says which elements show a link:
its segments one by one, with the index on the last of them, or an entity under the index that keeps
the segments as its text. By `Node.links_shown_iff` all links are shown, unless the first one names
an enum constant and others follow it: what follows a constant is lost.
-/

namespace QueryExpr

open Traced

variable {context : Context}

/-- An entity under an index keeps the text that it was found by. -/
lemma Context.indexedEntity?_text {segments entity}
    (h : context.indexedEntity? segments = some entity) :
    entity.writtenText = Dotted.join segments := by
  unfold indexedEntity? at h
  split at h
  · cases h
  · obtain ⟨_, -, rfl⟩ := Option.map_eq_some_iff.1 h
    rfl

namespace Syntax

variable {depth : Nat} {span : Span}

/-- Elements of a path that show a link. -/
inductive Link.Shown (context : Context) : Link → List PathElement → Prop where
  | properties {segments} : segments ≠ [] →
    Shown context ⟨segments, none⟩ (segments.map .property)
  | indexed {front last index built} : index.Builds context built →
    Shown context ⟨front ++ [last], some index⟩
      (front.map .property ++ [.indexed (.property last) built])
  | entity {segments index entity built} : index.Builds context built →
    entity.writtenText = Dotted.join segments →
    Shown context ⟨segments, some index⟩ [.indexed (.entity entity) built]

/-- Elements of a path that show links one after another. -/
inductive Link.ShownAll (context : Context) : List Link → List PathElement → Prop where
  | nil : ShownAll context [] []
  | cons {link links elements rest} : link.Shown context elements → ShownAll context links rest →
    ShownAll context (link :: links) (elements ++ rest)

/-- A link without index is the name of an enum constant. -/
def Link.NamesConstant (context : Context) (link : Link) (e : Expression) : Prop :=
  link.index = none ∧ context.enumConstant? (Dotted.join link.segments) = .ok (some e)

/-- All links of a path are shown: by the elements of a path or, if there is only one, by the enum
constant that it names. -/
inductive Link.ShownIn (context : Context) : List Link → Expression → Prop where
  | constant {link e} : link.NamesConstant context e → ShownIn context [link] e
  | elements {links path} : ShownAll context links (QueryExpr.Path.elements path) →
    ShownIn context links (.path path)

/-- A constant that a link names is no path. -/
lemma Link.NamesConstant.ne_path {link : Link} {e} (h : link.NamesConstant context e)
    (path : QueryExpr.Path) : e ≠ .path path := by
  obtain ⟨-, found⟩ := h
  obtain ⟨literal, rfl⟩ | ⟨parameter, rfl⟩ := Context.enumConstant?_eq found
  · exact nofun
  · exact nofun

/-- A path as an expression is what it is built to, unless this is a downcast and not allowed. -/
lemma PathRole.build_plain {options : Options} {built e : Expression} :
    PathRole.plain.build options span built = .ok e ↔
      built = e ∧ (built.isBareTreat → options.allowBareTreat) := by
  simp only [PathRole.build]
  split
  · next refused =>
    constructor
    · intro h
      cases h
    · rintro ⟨_, allowed⟩
      exact absurd (allowed refused.1) refused.2
  · next accepted =>
    constructor
    · intro h
      refine ⟨Except.ok.inj h, fun bare => ?_⟩
      by_contra refused
      exact accepted ⟨bare, refused⟩
    · rintro ⟨rfl, -⟩
      rfl

/-- A link that passes its check has segments. -/
lemma checkLink_ok {segments : List String} (h : checkLink span segments = .ok ()) :
    segments ≠ [] := by
  rintro rfl
  cases h

/-- A link with segments is shown by its elements. -/
lemma linkElements_shown {link : Link} (nonempty : link.segments ≠ []) {index}
    (built : (buildOption context depth link.index).result = .ok index) :
    link.Shown context (linkElements link.segments index) := by
  obtain ⟨segments, written⟩ := link
  cases written with
  | none =>
    rw [buildOption] at built
    obtain rfl := pure_ok.1 built
    exact .properties nonempty
  | some node =>
    simp only [buildOption, bind_ok, pure_ok] at built
    obtain ⟨e, he, rfl⟩ := built
    obtain rfl | ⟨front, last, rfl⟩ := segments.eq_nil_or_concat'
    · exact absurd rfl nonempty
    · have shown : Link.Shown context ⟨front ++ [last], some node⟩ _ :=
        .indexed (Node.builds_of_build he)
      simpa [linkElements] using shown

/-- Only the first link of a path without qualifier can be an entity. -/
lemma leadingElements_shown {link : Link} (nonempty : link.segments ≠ []) {index}
    (built : (buildOption context depth link.index).result = .ok index) :
    link.Shown context (leadingElements context link.segments index) := by
  unfold leadingElements
  split
  · next e entity found =>
    obtain ⟨segments, written⟩ := link
    cases written with
    | none => cases pure_ok.1 built
    | some node =>
      simp only [buildOption, bind_ok, pure_ok] at built
      obtain ⟨e', he, same⟩ := built
      cases same
      exact .entity (Node.builds_of_build he) (Context.indexedEntity?_text found)
  · exact linkElements_shown nonempty built

/-- The links that are built are all shown by the elements that they are built to. -/
lemma buildLinks_shown {links : List Link} {elements}
    (built : (buildLinks context depth span links).result = .ok elements) :
    Link.ShownAll context links elements := by
  induction links generalizing elements with
  | nil =>
    rw [buildLinks] at built
    obtain rfl := pure_ok.1 built
    exact .nil
  | cons link rest ih =>
    obtain ⟨segments, written⟩ := link
    simp only [buildLinks, bind_ok, lift_ok, pure_ok] at built
    obtain ⟨_, checked, index, hi, others, ho, rfl⟩ := built
    have first : Link.Shown context ⟨segments, written⟩ _ :=
      linkElements_shown (checkLink_ok checked) hi
    exact .cons first (ih ho)

/-- A path without qualifier is built to the constant that its first link names, or to a path that
shows its links. -/
lemma Path.build_links {first : Link} {rest : List Link} {e}
    (h : (Path.build context depth span ⟨none, first :: rest⟩).result = .ok e) :
    (first.NamesConstant context e ∧ context.options.minEnumSegments ≤ first.segments.length) ∨
      ∃ path, e = .path path ∧ Link.ShownAll context (first :: rest) path.elements := by
  obtain ⟨segments, written⟩ := first
  simp only [Path.build, bind_ok, lift_ok] at h
  obtain ⟨_, checked, constant, found, h⟩ := h
  cases constant with
  | some c =>
    obtain rfl : c = e := pure_ok.1 h
    obtain ⟨enough, named⟩ := Context.leadingConstant?_ok (leadingConstant?_ok found)
    have bare : written = none := by
      cases written with
      | none => rfl
      | some node => cases found
    exact .inl ⟨⟨bare, named⟩, enough⟩
  | none =>
    simp only [bind_ok, lift_ok] at h
    obtain ⟨index, hi, elements, hl, h⟩ := h
    have leading : Link.Shown context ⟨segments, written⟩ _ :=
      leadingElements_shown (checkLink_ok checked) hi
    unfold ofElements at h
    split at h
    · next path same =>
      cases h
      refine .inr ⟨path, rfl, ?_⟩
      rw [QueryExpr.Path.elements_ofElements? same]
      exact .cons leading (buildLinks_shown hl)
    · cases h

/-- The links of a path without qualifier are all shown by what it is built to, unless that is the
constant of its first link and there are more of them. -/
theorem Node.links_shown_iff {links : List Link} {e}
    (h : Node.Builds context ⟨.path .plain ⟨none, links⟩, span⟩ e) :
    Link.ShownIn context links e ↔
      ¬ ∃ first second rest, links = first :: second :: rest ∧ first.NamesConstant context e := by
  obtain ⟨-, made⟩ := Node.builds_iff.1 h
  simp only [Kind.build, bind_ok, lift_ok] at made
  obtain ⟨built, made, plain⟩ := made
  obtain ⟨rfl, -⟩ := PathRole.build_plain.1 plain
  cases links with
  | nil => cases made
  | cons first rest =>
    obtain ⟨constant, -⟩ | ⟨path, rfl, shown⟩ := Path.build_links made
    · -- the constant is the whole expression, so a second link has no place in it
      cases rest with
      | nil =>
        constructor
        · rintro - ⟨_, _, _, same, -⟩
          cases same
        · exact fun _ => .constant constant
      | cons second others =>
        constructor
        · intro shown
          cases shown with
          | elements => exact absurd rfl (constant.ne_path _)
        · intro alone
          exact absurd ⟨first, second, others, rfl, constant⟩ alone
    · constructor
      · rintro - ⟨_, _, _, -, constant⟩
        exact absurd rfl (constant.ne_path path)
      · exact fun _ => .elements shown

/-- A first link with an index is no constant, and both links are shown. -/
theorem Node.links_shown_iff_indexed :
    let enums := EnumRegistry.registerLiteral .empty ⟨"app.Color", ["RED"]⟩
    let context : Context := ⟨{ Registries.empty with enums }, .standard, Temporal.iso⟩
    let links := [Link.indexed "Color.RED" (.namedParameter "i"), Link.dotted "name"]
    let red := PathElement.indexed (.property "RED") (.parameter (.named "i"))
    let path : QueryExpr.Path := ⟨.property "Color", [red, .property "name"], false, false⟩
    Node.Builds context (.ofLinks links) (.path path) ∧
      Link.ShownIn context links (.path path) := by
  intro enums context links red path
  have built : Node.Builds context (.ofLinks links) (.path path) := rfl
  refine ⟨built, (links_shown_iff built).2 ?_⟩
  rintro ⟨first, second, rest, -, constant⟩
  exact constant.ne_path path rfl

/-- A link after the name of a constant is lost. -/
theorem Node.link_lost :
    let enums := EnumRegistry.registerLiteral .empty ⟨"app.Color", ["RED"]⟩
    let context : Context := ⟨{ Registries.empty with enums }, .standard, Temporal.iso⟩
    let links := [Link.dotted "Color.RED", Link.indexed "name" (.namedParameter "i")]
    let red := Expression.literal (.enum ⟨"app.Color", "RED", 0⟩ "Color.RED")
    Node.Builds context (.ofLinks links) red ∧ ¬ Link.ShownIn context links red := by
  intro enums context links red
  refine ⟨rfl, fun shown : Link.ShownIn context [_, _] (.literal _) => ?_⟩
  cases shown

end Syntax

end QueryExpr
