import Mathlib.Logic.Relation
import QueryExpr.Expression.Basic
import QueryExpr.Proofs.Syntax.Nesting

/-!
# Parts of expressions

Everything that an expression is made of: the expressions, predicates, paths, path elements and
frames that stand in it, through whatever clause, list or index, however deep. `HasParts` lists the
topmost parts of a piece of data, so that lists, optional clauses and windows are spoken about like
expressions: data is made of parts with a property if the topmost ones have it. A rule is a
condition on single parts, and data obeys it if all parts of the data at any depth do.
-/

namespace QueryExpr

/-- A part of an expression. -/
inductive Part where
  | expression (expression : Expression)
  | predicate (predicate : Predicate)
  | path (path : Path)
  | element (element : PathElement)
  | frame (frame : Frame Expression)

/-- Data made of parts. -/
class HasParts (α : Type) where
  /-- The topmost parts. -/
  parts : α → List Part

open HasParts

section Instances

variable {α : Type} [HasParts α]

/-- A part has itself. -/
instance : HasParts Part := ⟨fun part => [part]⟩

/-- An expression is one part. -/
instance : HasParts Expression := ⟨fun expression => [.expression expression]⟩

/-- A predicate is one part. -/
instance : HasParts Predicate := ⟨fun predicate => [.predicate predicate]⟩

/-- A path is one part. -/
instance : HasParts Path := ⟨fun path => [.path path]⟩

/-- An element of a path is one part. -/
instance : HasParts PathElement := ⟨fun element => [.element element]⟩

/-- A frame is one part. -/
instance : HasParts (Frame Expression) := ⟨fun frame => [.frame frame]⟩

/-- The parts of a list are those of its items. -/
instance : HasParts (List α) := ⟨List.flatMap parts⟩

/-- The parts of an optional value are those of the value. -/
instance : HasParts (Option α) := ⟨fun data => data.toList.flatMap parts⟩

/-- The parts of a bound are those of what it counts from. -/
instance : HasParts (Bound Expression) := ⟨fun bound => parts bound.offsets⟩

/-- The parts of a branch are those of its condition and its result. -/
instance : HasParts Branch := ⟨fun branch => parts branch.condition ++ parts branch.result⟩

/-- The parts of an item of an ordering are those of what it sorts by. -/
instance : HasParts OrderItem := ⟨fun item => parts item.expression⟩

/-- The parts of a window are those of its partition, its ordering, its filter and its frame. -/
instance : HasParts Window where
  parts window :=
    parts window.partitionBy ++ parts window.orderBy ++ parts window.filter ++ parts window.frame

end Instances

/-- The parts that stand directly in an expression. -/
def Expression.inner : Expression → List Part
  | path steps => parts steps
  | parameter _ | literal _ => []
  | function _ arguments orderBy window => parts arguments ++ parts orderBy ++ parts window
  | aggregate _ _ arguments orderBy filter => parts arguments ++ parts orderBy ++ parts filter
  | arithmetic left _ right => parts left ++ parts right
  | minus operand | treat operand _ | typeOf operand => parts operand
  | collection _ steps => parts steps
  | trim _ character operand => parts character ++ parts operand
  | simpleCase operand branches otherwise => parts operand ++ parts branches ++ parts otherwise
  | searchedCase branches otherwise => parts branches ++ parts otherwise
  | predicate condition => parts condition

/-- The parts that stand directly in a predicate. -/
def PredicateKind.inner : PredicateKind → List Part
  | comparison _ left right _ => parts left ++ parts right
  | between operand low high => parts operand ++ parts low ++ parts high
  | like operand pattern escape => parts operand ++ parts pattern ++ parts escape
  | inList operand items => parts operand ++ parts items
  | isNull operand | existence operand => parts operand
  | isEmpty collection => parts collection
  | memberOf element collection => parts element ++ parts collection
  | compound _ children => parts children
  | boolean _ => []

/-- The parts that stand directly in an element of a path. -/
def PathElement.inner : PathElement → List Part
  | property _ => []
  | indexed _ index => parts index
  | treat operand _ => parts operand
  | collection _ path => parts path

namespace Part

/-- The parts that stand directly in a part. -/
def inner : Part → List Part
  | expression whole => whole.inner
  | predicate whole => whole.kind.inner
  | path whole => parts whole.elements
  | element whole => whole.inner
  | frame whole => parts whole.start ++ parts whole.stop

/-- One part stands directly in another. -/
def Contains (outer inner : Part) : Prop :=
  inner ∈ outer.inner

/-- A part is another one or stands in it, however deep. -/
def Within (part whole : Part) : Prop :=
  Relation.ReflTransGen Contains whole part

end Part

section MadeOf

variable {α : Type} [HasParts α] {good : Part → Prop}

/-- The topmost parts have a property. -/
def MadeOf (good : Part → Prop) (data : α) : Prop :=
  ∀ part ∈ parts data, good part

/-- Data has a property of its parts if the list of them has. -/
lemma madeOf_iff_parts {data : α} : MadeOf good data ↔ MadeOf good (parts data) := by
  have same : (parts data).flatMap parts = parts data := List.flatMap_singleton' _
  show _ ↔ ∀ part ∈ (parts data).flatMap parts, _
  rw [same]
  rfl

/-- The parts of data have a property together if the data has. -/
@[simp] lemma madeOf_parts {data : α} : MadeOf good (parts data) ↔ MadeOf good data :=
  madeOf_iff_parts.symm

/-- An empty list has every property of parts. -/
@[simp] lemma madeOf_nil : MadeOf good ([] : List α) :=
  List.forall_mem_nil _

/-- A list has a property if both its halves have. -/
@[simp] lemma madeOf_append {first second : List α} :
    MadeOf good (first ++ second) ↔ MadeOf good first ∧ MadeOf good second := by
  show (∀ part ∈ (first ++ second).flatMap parts, _) ↔ _
  rw [List.flatMap_append, List.forall_mem_append]
  rfl

/-- A list has a property if its first item and the others have. -/
@[simp] lemma madeOf_cons {first : α} {rest : List α} :
    MadeOf good (first :: rest) ↔ MadeOf good first ∧ MadeOf good rest := by
  show (∀ part ∈ (first :: rest).flatMap parts, _) ↔ _
  rw [List.flatMap_cons, List.forall_mem_append]
  rfl

/-- What is missing has every property of parts. -/
@[simp] lemma madeOf_none : MadeOf good (none : Option α) :=
  List.forall_mem_nil _

/-- An optional value has a property if the value has. -/
@[simp] lemma madeOf_some {data : α} : MadeOf good (some data) ↔ MadeOf good data := by
  show (∀ part ∈ [data].flatMap parts, _) ↔ _
  rw [List.flatMap_singleton]
  rfl

/-- A part is made of itself. -/
lemma madeOf_part {part : Part} : MadeOf good part ↔ good part :=
  List.forall_mem_singleton

/-- An expression is made of itself as a part. -/
lemma madeOf_expression {e : Expression} : MadeOf good e ↔ good (.expression e) :=
  madeOf_part

/-- A predicate is made of itself as a part. -/
lemma madeOf_predicate {p : Predicate} : MadeOf good p ↔ good (.predicate p) :=
  madeOf_part

/-- A path is made of itself as a part. -/
lemma madeOf_path {path : Path} : MadeOf good path ↔ good (.path path) :=
  madeOf_part

/-- An element of a path is made of itself as a part. -/
lemma madeOf_element {element : PathElement} : MadeOf good element ↔ good (.element element) :=
  madeOf_part

/-- A frame is made of itself as a part. -/
lemma madeOf_frame {frame : Frame Expression} : MadeOf good frame ↔ good (.frame frame) :=
  madeOf_part

/-- An optional value has a property as a list too. -/
lemma madeOf_toList {data : Option α} (h : MadeOf good data) : MadeOf good data.toList :=
  h

/-- An optional list has a property as a list that is empty without it. -/
lemma madeOf_getD {data : Option (List α)} (h : MadeOf good data) :
    MadeOf good (data.getD []) := by
  cases data with
  | none => exact madeOf_nil
  | some list => exact madeOf_some.1 h

/-- The items behind the first have a property that all have. -/
lemma madeOf_tail {list : List α} (h : MadeOf good list) : MadeOf good list.tail := by
  cases list with
  | nil => exact h
  | cons first rest => exact (madeOf_cons.1 h).2

/-- A branch has a property if its condition and its result have. -/
lemma madeOf_branch {condition result : Expression} :
    MadeOf good (Branch.mk condition result) ↔ MadeOf good condition ∧ MadeOf good result := by
  rw [madeOf_iff_parts]
  change MadeOf good (parts condition ++ parts result) ↔ _
  simp only [madeOf_append, madeOf_parts]

/-- A bound has a property if what it counts from has. -/
lemma madeOf_bound {bound : Bound Expression} : MadeOf good bound ↔ MadeOf good bound.offsets :=
  .rfl

/-- A window has a property if its partition, its ordering, its filter and its frame have. -/
lemma madeOf_window {name : Option String} {partitionBy : List Expression}
    {orderBy : List OrderItem} {filter : Option Predicate} {frame : Option (Frame Expression)} :
    MadeOf good (Window.mk name partitionBy orderBy filter frame) ↔
      MadeOf good partitionBy ∧ MadeOf good orderBy ∧ MadeOf good filter ∧ MadeOf good frame := by
  rw [madeOf_iff_parts]
  change MadeOf good (parts partitionBy ++ parts orderBy ++
    parts filter ++ parts frame) ↔ _
  simp only [madeOf_append, madeOf_parts, and_assoc]

/-- The arguments and clauses of a call are made of the same parts as the call. -/
lemma madeOf_function_inner (name : String) {arguments orderBy window} :
    MadeOf good (Expression.function name arguments orderBy window).inner ↔
      MadeOf good arguments ∧ MadeOf good orderBy ∧ MadeOf good window := by
  rw [Expression.inner, madeOf_append, madeOf_append, and_assoc]
  simp only [madeOf_parts]

/-- What stands in a pattern match has a property if the operand, the pattern and the escape
have. -/
lemma madeOf_like_inner {operand pattern : Expression} {escape : Option Expression} :
    MadeOf good (PredicateKind.like operand pattern escape).inner ↔
      MadeOf good operand ∧ MadeOf good pattern ∧ MadeOf good escape := by
  rw [PredicateKind.inner, madeOf_append, madeOf_append, and_assoc]
  simp only [madeOf_parts]

/-- A comparison is made of its operands, whatever sign it is written with. -/
lemma madeOf_ofSign_inner {sign : ComparisonSign} {left right : Expression} {quantifier} :
    MadeOf good (Predicate.ofSign sign left right quantifier).kind.inner ↔
      MadeOf good left ∧ MadeOf good right := by
  have same : (Predicate.ofSign sign left right quantifier).kind.inner =
      parts left ++ parts right := by
    cases sign <;> rfl
  rw [same, madeOf_append, madeOf_parts, madeOf_parts]

end MadeOf

section Rules

variable {α : Type} [HasParts α] {rule : Part → Prop}

/-- All parts, at any depth, satisfy a rule. -/
def Obeys (rule : Part → Prop) (data : α) : Prop :=
  ∀ whole ∈ parts data, ∀ part : Part, part.Within whole → rule part

/-- A part and all that stands in it satisfy a rule. -/
def Part.Deeply (rule : Part → Prop) (whole : Part) : Prop :=
  ∀ part : Part, part.Within whole → rule part

/-- A rule holds at every depth of a part if it holds of the part and at every depth in it. -/
lemma Part.deeply_iff {part : Part} :
    part.Deeply rule ↔ rule part ∧ MadeOf (Part.Deeply rule) part.inner := by
  constructor
  · intro h
    refine ⟨h part .refl, ?_⟩
    intro top member other within
    obtain ⟨child, inside, same⟩ := List.mem_flatMap.1 member
    obtain rfl := List.mem_singleton.1 same
    exact h other (.head inside within)
  · rintro ⟨own, inside⟩ other within
    obtain rfl | ⟨child, direct, deeper⟩ := within.cases_head
    · exact own
    · exact inside child (List.mem_flatMap.2 ⟨child, direct, .head _⟩) other deeper

end Rules

end QueryExpr
