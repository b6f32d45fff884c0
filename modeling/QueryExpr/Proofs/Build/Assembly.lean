import QueryExpr.Proofs.Build.Links

/-!
# Assembly of paths

Which elements a path is built of, exactly. Each link gives a property for each of its segments,
with its index on the last one, as `Link.Assembles` says. Only the first link of a path without
qualifier is looked up: under an index it can be an entity, and otherwise it can be an enum
constant, which is the whole result. By `Path.build_assembles_iff` a path is built to the elements
of its qualifier and then those of its links in order, and fails only if a part of it does.
-/

namespace QueryExpr

open Traced

variable {context : Context}

/-- Elements make the path that holds them and has no flag. -/
lemma Path.ofElements?_eq_some_iff {elements : List PathElement} {path : Path} :
    ofElements? elements = some path ↔ path.elements = elements ∧
      path.collectionQualified = false ∧ path.usedInCollectionFunction = false := by
  constructor
  · intro h
    refine ⟨elements_ofElements? h, ?_⟩
    cases elements with
    | nil => cases h
    | cons first rest => cases h; exact ⟨rfl, rfl⟩
  · rintro ⟨rfl, qualified, used⟩
    obtain ⟨first, rest, _, _⟩ := path
    cases qualified
    cases used
    rfl

namespace Syntax

variable {depth : Nat} {span : Span}

/-- The elements of a link: a property for each segment, with the index, if any, on the last. -/
inductive Link.Assembles (context : Context) (depth : Nat) : Link → List PathElement → Prop where
  | properties {segments} : Assembles context depth ⟨segments, none⟩ (segments.map .property)
  | indexed {front last index built} : (index.build context depth).result = .ok built →
    Assembles context depth ⟨front ++ [last], some index⟩
      (front.map .property ++ [.indexed (.property last) built])

/-- The segments of an index name an entity, and there is one of them or enough. -/
def NamesEntity (context : Context) (segments : List String) (entity : EntityLiteral) : Prop :=
  (segments.length = 1 ∨ context.options.minEntitySegments ≤ segments.length) ∧
    context.entity? (Dotted.join segments) = some entity

/-- The elements of the first link of a path without qualifier. Under an index it is looked up as an
entity, and otherwise as an enum constant, which it is not. -/
inductive Link.Leads (context : Context) (depth : Nat) : Link → List PathElement → Prop where
  | entity {segments index entity built} : NamesEntity context segments entity →
    (index.build context depth).result = .ok built →
    Leads context depth ⟨segments, some index⟩ [.indexed (.entity entity) built]
  | indexed {segments index elements} : (∀ entity, ¬ NamesEntity context segments entity) →
    Assembles context depth ⟨segments, some index⟩ elements →
    Leads context depth ⟨segments, some index⟩ elements
  | plain {segments elements} : context.leadingConstant? segments = .ok none →
    Assembles context depth ⟨segments, none⟩ elements →
    Leads context depth ⟨segments, none⟩ elements

/-- The path that a qualifier starts: itself, or the one of a single downcast or access. -/
inductive Starts : Expression → QueryExpr.Path → Prop where
  | path {path} : Starts (.path path) path
  | treat {operand entityName} :
    Starts (.treat operand entityName) ⟨.treat operand entityName, [], false, false⟩
  | collection {access path} :
    Starts (.collection access path) ⟨.collection access path, [], false, false⟩

/-- The path that a path with links is built to. -/
inductive Path.Assembles (context : Context) (depth : Nat) : Path → QueryExpr.Path → Prop where
  | unqualified {first rest head tail} {path : QueryExpr.Path} : first.Leads context depth head →
    List.Forall₂ (Link.Assembles context depth) rest tail →
    path.elements = head ++ tail.flatten → path.collectionQualified = false →
    path.usedInCollectionFunction = false →
    Assembles context depth ⟨none, first :: rest⟩ path
  | qualified {qualifier built start links parts} :
    (qualifier.build context depth).result = .ok built → Starts built start →
    List.Forall₂ (Link.Assembles context depth) links parts →
    Assembles context depth ⟨some qualifier, links⟩ (start.append parts.flatten)

/-- An indexed name is that of an entity if it has one segment or enough of them and is found. -/
lemma indexedEntity?_eq_some_iff {segments entity} :
    context.indexedEntity? segments = some entity ↔ NamesEntity context segments entity := by
  unfold Context.indexedEntity? NamesEntity
  split
  · next short =>
    constructor
    · intro h
      cases h
    · rintro ⟨enough, -⟩
      omega
  · next enough =>
    constructor
    · intro h
      exact ⟨by omega, h⟩
    · exact fun h => h.2

/-- A qualifier starts a path by being one, or by standing as the only element of one. -/
lemma startPath_ok_iff {qualifier : Node} {built path} :
    startPath qualifier built = .ok path ↔ Starts built path := by
  constructor
  · intro h
    cases built with
    | path => cases h; exact .path
    | treat => cases h; exact .treat
    | collection => cases h; exact .collection
    | _ => cases h
  · intro h
    cases h with
    | path | treat | collection => rfl

/-- A link passes its check if it has segments. -/
lemma checkLink_ok_iff {segments : List String} :
    checkLink span segments = .ok () ↔ segments ≠ [] := by
  constructor
  · exact checkLink_ok
  · intro nonempty
    cases segments with
    | nil => exact absurd rfl nonempty
    | cons => rfl

/-- What is missing is built to nothing. -/
lemma buildOption_none_ok {index} :
    (buildOption context depth none).result = .ok index ↔ index = none := by
  rw [buildOption, pure_ok]
  exact eq_comm

/-- A node that is there is built to an expression that is there. -/
lemma buildOption_some_ok {node : Node} {index} :
    (buildOption context depth (some node)).result = .ok index ↔
      ∃ built, (node.build context depth).result = .ok built ∧ index = some built := by
  simp only [buildOption, bind_ok, pure_ok]
  exact exists_congr fun _ => and_congr_right fun _ => eq_comm

/-- A link with segments assembles to the elements of its name and its built index. -/
lemma Link.assembles_iff {link : Link} (nonempty : link.segments ≠ []) {elements} :
    link.Assembles context depth elements ↔
      ∃ index, (buildOption context depth link.index).result = .ok index ∧
        linkElements link.segments index = elements := by
  obtain ⟨segments, written⟩ := link
  constructor
  · intro assembled
    cases assembled with
    | properties => exact ⟨none, buildOption_none_ok.2 rfl, rfl⟩
    | @indexed front last _ built made =>
      refine ⟨some built, buildOption_some_ok.2 ⟨built, made, rfl⟩, ?_⟩
      simp [linkElements]
  · rintro ⟨index, made, rfl⟩
    cases written with
    | none =>
      obtain rfl := buildOption_none_ok.1 made
      exact .properties
    | some node =>
      obtain ⟨built, done, rfl⟩ := buildOption_some_ok.1 made
      obtain rfl | ⟨front, last, rfl⟩ := segments.eq_nil_or_concat'
      · exact absurd rfl nonempty
      · have assembled : Link.Assembles context depth ⟨front ++ [last], some node⟩ _ :=
          .indexed done
        simpa [linkElements] using assembled

/-- A first link that names an entity and has an index is an indexed entity. -/
lemma leadingElements_of_entity {segments entity built}
    (named : NamesEntity context segments entity) :
    leadingElements context segments (some built) = [.indexed (.entity entity) built] := by
  have found := indexedEntity?_eq_some_iff.2 named
  simp only [leadingElements, found]

/-- A first link that names no entity has the elements of any other link. -/
lemma leadingElements_of_not_entity {segments index}
    (unnamed : ∀ entity, ¬ NamesEntity context segments entity) :
    leadingElements context segments index = linkElements segments index := by
  cases found : context.indexedEntity? segments with
  | none => cases index <;> simp only [leadingElements, found]
  | some entity => exact absurd (indexedEntity?_eq_some_iff.1 found) (unnamed entity)

/-- A first link with segments leads a path with its elements if it is no constant. -/
lemma Link.leads_iff {link : Link} (nonempty : link.segments ≠ []) {elements} :
    link.Leads context depth elements ↔
      leadingConstant? context span link.segments link.index = .ok none ∧
        ∃ index, (buildOption context depth link.index).result = .ok index ∧
          leadingElements context link.segments index = elements := by
  obtain ⟨segments, written⟩ := link
  constructor
  · intro leads
    cases leads with
    | @entity _ _ _ built named made =>
      exact ⟨rfl, some built, buildOption_some_ok.2 ⟨built, made, rfl⟩,
        leadingElements_of_entity named⟩
    | indexed unnamed assembled =>
      obtain ⟨index, made, same⟩ := (assembles_iff nonempty).1 assembled
      exact ⟨rfl, index, made, (leadingElements_of_not_entity unnamed).trans same⟩
    | plain unresolved assembled =>
      obtain ⟨index, made, same⟩ := (assembles_iff nonempty).1 assembled
      obtain rfl := buildOption_none_ok.1 made
      exact ⟨except_mapError_ok.2 unresolved, none, made, same⟩
  · rintro ⟨unresolved, index, made, rfl⟩
    cases written with
    | none =>
      obtain rfl := buildOption_none_ok.1 made
      exact .plain (except_mapError_ok.1 unresolved) .properties
    | some node =>
      obtain ⟨built, done, rfl⟩ := buildOption_some_ok.1 made
      -- an indexed link is one element if it names an entity, and a list of properties if not
      by_cases named : ∃ entity, NamesEntity context segments entity
      · obtain ⟨entity, named⟩ := named
        rw [leadingElements_of_entity named]
        exact .entity named done
      · have unnamed := not_exists.1 named
        rw [leadingElements_of_not_entity unnamed]
        exact .indexed unnamed ((assembles_iff nonempty).2 ⟨some built, made, rfl⟩)

/-- Links with segments are built to the elements that each assembles to, in order. -/
lemma buildLinks_ok_iff {links : List Link} (nonempty : ∀ link ∈ links, link.segments ≠ [])
    {elements} :
    (buildLinks context depth span links).result = .ok elements ↔
      ∃ parts, List.Forall₂ (Link.Assembles context depth) links parts ∧
        elements = parts.flatten := by
  induction links generalizing elements with
  | nil =>
    rw [buildLinks, pure_ok]
    constructor
    · rintro rfl
      exact ⟨[], .nil, rfl⟩
    · rintro ⟨parts, assembled, rfl⟩
      cases assembled
      rfl
  | cons link rest ih =>
    obtain ⟨segments, written⟩ := link
    obtain ⟨here, others⟩ := List.forall_mem_cons.1 nonempty
    simp only [buildLinks, bind_ok, lift_ok, pure_ok, ih others]
    constructor
    · rintro ⟨_, -, index, made, _, ⟨parts, assembled, rfl⟩, rfl⟩
      have first : Link.Assembles context depth ⟨segments, written⟩ _ :=
        (Link.assembles_iff here).2 ⟨index, made, rfl⟩
      exact ⟨_ :: parts, .cons first assembled, rfl⟩
    · rintro ⟨parts, assembled, rfl⟩
      cases assembled with
      | cons first assembled =>
        obtain ⟨index, made, rfl⟩ := (Link.assembles_iff here).1 first
        exact ⟨(), checkLink_ok_iff.2 here, index, made, _, ⟨_, assembled, rfl⟩, rfl⟩

/-- What is built of elements is a path that holds them and has no flag. -/
lemma ofElements_ok_iff {elements : List PathElement} {e} :
    ofElements span elements = .ok e ↔
      ∃ path : QueryExpr.Path, e = .path path ∧ path.elements = elements ∧
        path.collectionQualified = false ∧ path.usedInCollectionFunction = false := by
  simp only [← QueryExpr.Path.ofElements?_eq_some_iff]
  unfold ofElements
  split
  · next path found =>
    constructor
    · intro h
      cases h
      exact ⟨path, rfl, found⟩
    · rintro ⟨other, rfl, found'⟩
      cases found.symm.trans found'
      rfl
  · next none =>
    constructor
    · intro h
      cases h
    · rintro ⟨path, -, found⟩
      cases none.symm.trans found

/-- A path with links whose first one is no enum constant is built to the elements of its qualifier
and of its links in order. -/
theorem Path.build_assembles_iff {qualifier : Option Node} {first : Link} {rest : List Link} {e}
    (nonempty : ∀ link ∈ first :: rest, link.segments ≠ [])
    (unresolved : qualifier = none → first.index = none →
      ∀ constant, context.leadingConstant? first.segments ≠ .ok (some constant)) :
    (Path.build context depth span ⟨qualifier, first :: rest⟩).result = .ok e ↔
      ∃ path, e = .path path ∧ Path.Assembles context depth ⟨qualifier, first :: rest⟩ path := by
  obtain ⟨here, others⟩ := List.forall_mem_cons.1 nonempty
  cases qualifier with
  | none =>
    obtain ⟨segments, written⟩ := first
    simp only [Path.build, bind_ok, lift_ok]
    constructor
    · rintro ⟨_, -, constant, looked, h⟩
      cases constant with
      | some constant =>
        -- a link with an index is not looked up as a constant
        have bare : written = none := by
          cases written with
          | none => rfl
          | some node => cases looked
        exact absurd (leadingConstant?_ok looked) (unresolved rfl bare constant)
      | none =>
        simp only [bind_ok, lift_ok] at h
        obtain ⟨index, made, elements, linked, h⟩ := h
        obtain ⟨path, rfl, same, flags⟩ := ofElements_ok_iff.1 h
        obtain ⟨tail, assembled, rfl⟩ := (buildLinks_ok_iff others).1 linked
        have leads : Link.Leads context depth ⟨segments, written⟩ _ :=
          (Link.leads_iff here).2 ⟨looked, index, made, rfl⟩
        exact ⟨path, rfl, .unqualified leads assembled same flags.1 flags.2⟩
    · rintro ⟨path, rfl, assembled⟩
      cases assembled with
      | unqualified leads assembled same qualified used =>
        obtain ⟨looked, index, made, rfl⟩ := (Link.leads_iff here).1 leads
        refine ⟨(), checkLink_ok_iff.2 here, none, looked, ?_⟩
        simp only [bind_ok, lift_ok]
        refine ⟨index, made, _, (buildLinks_ok_iff others).2 ⟨_, assembled, rfl⟩, ?_⟩
        exact ofElements_ok_iff.2 ⟨path, rfl, same, qualified, used⟩
  | some qualifier =>
    obtain ⟨segments, written⟩ := first
    -- behind a qualifier the first link is built like the others
    simp only [Path.build, bind_ok, lift_ok, pure_ok]
    constructor
    · rintro ⟨built, made, start, started, _, -, index, done, elements, linked, rfl⟩
      obtain ⟨parts, assembled, rfl⟩ := (buildLinks_ok_iff others).1 linked
      have head : Link.Assembles context depth ⟨segments, written⟩ _ :=
        (Link.assembles_iff here).2 ⟨index, done, rfl⟩
      exact ⟨_, rfl, .qualified made (startPath_ok_iff.1 started) (.cons head assembled)⟩
    · rintro ⟨path, rfl, assembled⟩
      cases assembled with
      | qualified made started assembled =>
        cases assembled with
        | cons head assembled =>
          obtain ⟨index, done, rfl⟩ := (Link.assembles_iff here).1 head
          exact ⟨_, made, _, startPath_ok_iff.2 started, (), checkLink_ok_iff.2 here, index, done,
            _, (buildLinks_ok_iff others).2 ⟨_, assembled, rfl⟩, rfl⟩

/-- Only the first of two links with the name of an entity becomes the entity. -/
theorem Path.build_assembles_iff_cat :
    let entities := EntityRegistry.register .empty ⟨"Cat", "app.Cat"⟩
    let context : Context := ⟨{ Registries.empty with entities }, .standard, Temporal.iso⟩
    let link := Link.indexed "Cat" (.namedParameter "i")
    let i := Expression.parameter (.named "i")
    let cat := PathElement.indexed (.entity ⟨"Cat", "app.Cat", "Cat"⟩) i
    let path : QueryExpr.Path := ⟨cat, [.indexed (.property "Cat") i], false, false⟩
    (∀ other ∈ [link, link], other.segments ≠ []) ∧
      (∀ constant, context.leadingConstant? link.segments ≠ .ok (some constant)) ∧
      (Path.build context 0 .empty ⟨none, [link, link]⟩).result = .ok (.path path) ∧
      Path.Assembles context 0 ⟨none, [link, link]⟩ path := by
  intro entities context link i cat path
  have nonempty : ∀ other ∈ [link, link], other.segments ≠ [] := by
    intro other member
    have same : other = link := by simpa using member
    rw [same]
    exact Dotted.segments_ne_nil "Cat"
  have unresolved : ∀ constant, context.leadingConstant? link.segments ≠ .ok (some constant) := by
    intro constant found
    cases found
  have built : (Path.build context 0 .empty ⟨none, [link, link]⟩).result = .ok (.path path) := rfl
  obtain ⟨_, same, assembled⟩ :=
    (Path.build_assembles_iff nonempty fun _ _ => unresolved).1 built
  cases same
  exact ⟨nonempty, unresolved, built, assembled⟩

end Syntax

end QueryExpr
