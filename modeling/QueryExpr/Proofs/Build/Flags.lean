import QueryExpr.Proofs.Build.Rules
import QueryExpr.Syntax.Construct

/-!
# The flags of paths

A path is flagged where it is the path of a collection access or is counted or tested as a
collection, and nowhere else. The builder sets the flags of paths that are already built, so what is
passed on from step to step is more than the flags at their places: what a step hands to the next is
no flagged path itself. By `Session.answer_flags` all flags of an answer are where they belong.
-/

namespace QueryExpr

namespace Path

/-- A path without its two flags. -/
def IsUnflagged (path : Path) : Prop :=
  path.collectionQualified = false ∧ path.usedInCollectionFunction = false

/-- The flags of a path that is counted or tested as a collection. -/
def IsCounted (path : Path) : Prop :=
  path.collectionQualified = false ∧ path.usedInCollectionFunction = true

/-- The flags of the path of a collection access. Keys and indices always flag it. -/
def IsAccessed (access : CollectionAccess) (path : Path) : Prop :=
  path.usedInCollectionFunction = false ∧
    (access = .mapKey ∨ access = .listIndex → path.collectionQualified = true)

end Path

/-- A path, by itself or as an expression, has neither flag. -/
def Part.IsUnflagged : Part → Prop
  | path steps | expression (.path steps) => steps.IsUnflagged
  | _ => True

/-- The flags of the arguments of a call of `SIZE`, which counts the first of them. -/
def Expression.CountFirst : List Expression → Prop
  | [] => True
  | first :: rest =>
    (∃ path, first = .path path ∧ path.IsCounted) ∧ MadeOf Part.IsUnflagged rest

/-- The paths that stand directly in a part have the flags that belong there, and a path does not
have both flags. The flags of a path as an expression are for the part around it to say. -/
def Part.FlagsFit (part : Part) : Prop :=
  match part with
  | path steps => ¬ (steps.collectionQualified ∧ steps.usedInCollectionFunction)
  | expression (.path _) => True
  | expression (.collection access steps) | element (.collection access steps) =>
    steps.IsAccessed access
  | expression (.function name arguments orderBy window) =>
    (if Case.lower name = "size" then Expression.CountFirst arguments
      else MadeOf IsUnflagged arguments) ∧ MadeOf IsUnflagged orderBy ∧ MadeOf IsUnflagged window
  | predicate ⟨.isEmpty steps, _⟩ => steps.IsCounted
  | predicate ⟨.memberOf e steps, _⟩ => (expression e).IsUnflagged ∧ steps.IsCounted
  | _ => MadeOf IsUnflagged part.inner

/-- A part that has no flag itself and in which all flags are where they belong. -/
def Part.Tidy (part : Part) : Prop :=
  part.IsUnflagged ∧ part.Deeply Part.FlagsFit

namespace Part

/-- Only paths as a whole have flags. -/
lemma unflagged_elements (elements : List PathElement) : MadeOf IsUnflagged elements := by
  induction elements with
  | nil => exact madeOf_nil
  | cons first rest ih => exact madeOf_cons.2 ⟨madeOf_element.2 trivial, ih⟩

/-- A part that sets no flag and is no path must not have flagged paths directly in it. -/
lemma flagsFit_iff {part : Part} (flag : part.setsFlag = false)
    (top : ∀ steps, part ≠ .expression (.path steps)) :
    part.FlagsFit ↔ MadeOf IsUnflagged part.inner := by
  cases part with
  | expression e =>
    cases e with
    | path steps => exact absurd rfl (top steps)
    | function name arguments orderBy window =>
      have other : Case.lower name ≠ "size" := beq_eq_false_iff_ne.1 flag
      rw [FlagsFit, if_neg other]
      exact (madeOf_function_inner name).symm
    | collection => cases flag
    | _ => exact .rfl
  | predicate p =>
    obtain ⟨kind, negated⟩ := p
    cases kind with
    | isEmpty | memberOf => cases flag
    | _ => exact .rfl
  | path steps =>
    obtain ⟨qualified, -⟩ := Bool.or_eq_false_iff.1 flag
    refine iff_of_true (fun both => ?_) (madeOf_parts.2 (unflagged_elements _))
    cases qualified.symm.trans both.1
  | element element =>
    cases element with
    | collection => cases flag
    | _ => exact .rfl
  | frame => exact .rfl

/-- A part that sets no flag is tidy if what stands in it is. -/
lemma tidy_of_inner {part : Part} (flag : part.setsFlag = false) (h : MadeOf Tidy part.inner) :
    part.Tidy := by
  have inside : MadeOf (Deeply FlagsFit) part.inner := fun inner member => (h inner member).2
  by_cases top : ∃ steps, part = .expression (.path steps)
  · obtain ⟨steps, rfl⟩ := top
    exact ⟨(madeOf_path.1 (madeOf_parts.1 h)).1, deeply_iff.2 ⟨trivial, inside⟩⟩
  · have fit : part.FlagsFit := (flagsFit_iff flag fun steps same => top ⟨steps, same⟩).2
      fun inner member => (h inner member).1
    refine ⟨?_, deeply_iff.2 ⟨fit, inside⟩⟩
    cases part with
    | path steps => exact Bool.or_eq_false_iff.1 flag
    | expression e =>
      cases e with
      | path steps => exact absurd ⟨steps, rfl⟩ top
      | _ => trivial
    | _ => trivial

/-- What stands in a tidy part is tidy, unless the part sets a flag. -/
lemma Tidy.inner {part : Part} (h : part.Tidy) (flag : part.setsFlag = false) :
    MadeOf Tidy part.inner := by
  obtain ⟨unflagged, deep⟩ := h
  obtain ⟨fit, inside⟩ := deeply_iff.1 deep
  by_cases top : ∃ steps, part = .expression (.path steps)
  · obtain ⟨steps, rfl⟩ := top
    exact madeOf_parts.2 (madeOf_path.2 ⟨unflagged, madeOf_path.1 (madeOf_parts.1 inside)⟩)
  · have plain := (flagsFit_iff flag fun steps same => top ⟨steps, same⟩).1 fit
    exact fun inner member => ⟨plain inner member, inside inner member⟩

/-- The flags of a path are not those of what stands in it. -/
lemma deeply_flagged {path : Path} (h : Deeply FlagsFit (.path path)) {qualified used : Bool}
    (one : ¬ (qualified ∧ used)) :
    Deeply FlagsFit (.path (Path.mk path.first path.rest qualified used)) := by
  have inside := (deeply_iff.1 h).2
  exact deeply_iff.2 ⟨one, inside⟩

/-- A collection access has the flags that it sets on a path without any. -/
lemma tidy_access (access : CollectionAccess) {path : Path} (h : Tidy (.path path)) :
    Tidy (.expression (.collection access { path with collectionQualified := true })) := by
  obtain ⟨⟨-, unused⟩, deep⟩ := h
  have one : ¬ (true ∧ path.usedInCollectionFunction) := by simp [unused]
  refine ⟨trivial, deeply_iff.2 ⟨⟨unused, fun _ => rfl⟩, ?_⟩⟩
  exact madeOf_parts.2 (madeOf_path.2 (deeply_flagged deep one))

/-- A path without flags can be counted. -/
lemma deeply_counted {path : Path} (h : Tidy (.path path)) :
    Path.IsCounted { path with usedInCollectionFunction := true } ∧
      Deeply FlagsFit (.path { path with usedInCollectionFunction := true }) := by
  obtain ⟨⟨unqualified, -⟩, deep⟩ := h
  exact ⟨⟨unqualified, rfl⟩, deeply_flagged deep (by simp [unqualified])⟩

/-- Parts stay tidy when they are put together and taken apart. -/
lemma composes_tidy : Part.Composes Tidy where
  plain _ _ := tidy_of_inner
  inner _ flag _ h := h.inner flag
  append path elements hp he := by
    -- a tidy path has no flag itself, so what is appended stands in one without flags
    have flag : (Part.path (path.append elements)).setsFlag = false :=
      Bool.or_eq_false_iff.2 hp.1
    refine tidy_of_inner flag (madeOf_parts.2 ?_)
    have same : (Part.path path).setsFlag = false := flag
    rw [Path.elements_append]
    exact madeOf_append.2 ⟨madeOf_parts.1 (hp.inner same), he⟩
  element e element same h := by
    unfold PathElement.ofExpression? at same
    split at same <;> cases same
    · exact tidy_of_inner rfl (h.inner rfl)
    · obtain ⟨fit, inside⟩ := deeply_iff.1 h.2
      exact ⟨trivial, deeply_iff.2 ⟨fit, inside⟩⟩
  isEmpty path negated h := by
    obtain ⟨counted, deep⟩ := deeply_counted h
    exact ⟨trivial, deeply_iff.2 ⟨counted, madeOf_parts.2 (madeOf_path.2 deep)⟩⟩
  memberOf e path negated he h := by
    obtain ⟨counted, deep⟩ := deeply_counted h
    refine ⟨trivial, deeply_iff.2 ⟨⟨he.1, counted⟩, madeOf_append.2 ⟨?_, ?_⟩⟩⟩
    · exact madeOf_parts.2 (madeOf_expression.2 he.2)
    · exact madeOf_parts.2 (madeOf_path.2 deep)
  size name path rest named h hr := by
    obtain ⟨counted, deep⟩ := deeply_counted h
    have unflagged : MadeOf IsUnflagged rest := fun part member => (hr part member).1
    have others : MadeOf (Deeply FlagsFit) rest := fun part member => (hr part member).2
    refine ⟨trivial, deeply_iff.2 ⟨⟨?fit, madeOf_nil, madeOf_none⟩, ?inside⟩⟩
    case fit =>
      rw [if_pos named]
      exact ⟨⟨_, rfl, counted⟩, unflagged⟩
    case inside =>
      have first : Deeply FlagsFit (.expression (.path _)) :=
        deeply_iff.2 ⟨trivial, madeOf_parts.2 (madeOf_path.2 deep)⟩
      exact (madeOf_function_inner name).2
        ⟨madeOf_cons.2 ⟨madeOf_expression.2 first, others⟩, madeOf_nil, madeOf_none⟩
  nullary name := by
    refine ⟨trivial, deeply_iff.2 ⟨⟨?fit, madeOf_nil, madeOf_none⟩, ?inside⟩⟩
    case fit =>
      split
      · trivial
      · exact madeOf_nil
    case inside => exact (madeOf_function_inner name).2 ⟨madeOf_nil, madeOf_nil, madeOf_none⟩
  access access path := tidy_access access
  content access path content h := by
    have keyless : ¬ (access = .mapKey ∨ access = .listIndex) := by
      obtain rfl | rfl := content <;> simp
    refine ⟨trivial, deeply_iff.2 ⟨⟨h.1.2, fun keyed => absurd keyed keyless⟩, ?_⟩⟩
    exact madeOf_parts.2 (madeOf_path.2 h.2)

/-- A negated predicate has the same parts at the same places. -/
lemma tidy_negated {kind : PredicateKind} (h : Tidy (.predicate ⟨kind, false⟩)) :
    Tidy (.predicate ⟨kind, true⟩) := by
  obtain ⟨fit, inside⟩ := deeply_iff.1 h.2
  refine ⟨trivial, deeply_iff.2 ⟨?_, inside⟩⟩
  cases kind <;> exact fit

end Part

/-- The steps of a build set flags where they belong. -/
lemma Context.forms_tidy (context : Context) {written : List String → Prop}
    {asked : Expression → Parameter → Prop} : context.Forms written asked Part.Tidy := by
  apply Forms.of_inner Part.composes_tidy
  case made => exact fun _ flag _ => Part.tidy_of_inner flag
  case negated => exact fun _ => Part.tidy_negated
  case marked =>
    intro operand parameter negated _ ho _
    have item (p : Parameter) : MadeOf Part.Tidy (Expression.parameter p) :=
      madeOf_expression.2 (Part.tidy_of_inner rfl madeOf_nil)
    refine Part.tidy_of_inner rfl (madeOf_append.2 ⟨?_, ?_⟩)
    · exact madeOf_parts.2 (madeOf_expression.2 ho)
    · exact madeOf_parts.2 (madeOf_cons.2 ⟨item _, madeOf_nil⟩)

/-- All flags of an answer are where they belong, if the macros keep to it: the answer is no flagged
path, and the paths that stand in any part of it have the flags that the part asks for. -/
theorem Session.answer_flags {session : Session} {request : Request}
    (macros : ∀ name, session.context.Preserves Part.Tidy name) {e}
    (h : (session.answer request).1 = .ok e) :
    (Part.expression e).IsUnflagged ∧
      ∀ part : Part, part.Within (.expression e) → part.FlagsFit :=
  madeOf_expression.1 (answer_madeOf session.context.forms_tidy macros h)

open Syntax in
/-- The size of a path that a macro hands on, compared with a path that starts with a key. -/
theorem Session.answer_flags_size :
    let session := Session.start .withFirst ""
    let size := Node.call "Size" [.call "first" [.dottedPath "a.b"]]
    let key := Node.qualifiedPath (.pathFor .key "m") [.dotted "c"]
    let request := Request.expression (.binary (.comparison .gt) size key)
    let counted : QueryExpr.Path := { Path.dotted "a.b" with usedInCollectionFunction := true }
    let qualified : QueryExpr.Path := { Path.dotted "m" with collectionQualified := true }
    let keyed : QueryExpr.Path :=
      ⟨.collection .mapKey qualified, [.property "c"], false, false⟩
    let e := Expression.predicate
      (.ofSign .gt (.call "Size" [.path counted]) (.path keyed) .one)
    (∀ name, session.context.Preserves Part.Tidy name) ∧ (session.answer request).1 = .ok e ∧
      (Part.expression e).IsUnflagged ∧
        ∀ part : Part, part.Within (.expression e) → part.FlagsFit := by
  intro session size key request counted qualified keyed e
  have macros : ∀ name, Context.withFirst.Preserves Part.Tidy name :=
    Context.preserves_first Part.composes_tidy rfl
  have built : ((Session.start .withFirst "").answer request).1 = .ok e := rfl
  exact ⟨macros, built, answer_flags macros built⟩

end QueryExpr
