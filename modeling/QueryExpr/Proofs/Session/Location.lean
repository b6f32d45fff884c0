import QueryExpr.Proofs.Build.Blame
import QueryExpr.Proofs.Source.Span

/-!
# Where an error is

An error is reported at the span of a node of the tree or of an item of an ordering in it, and shows
the source text there. Only text that the grammar could not match is shown as the tree holds it. By
`Session.answer_placed` every error of a request has such a place, and a code of its class.
-/

namespace QueryExpr

open Syntax Traced

/-- The span of a node of a tree, or of an item of an ordering in it. -/
def Syntax.Node.Marks (tree : Node) (span : Span) : Prop :=
  ∃ node : Node, node.Within tree ∧ (span = node.span ∨ ∃ item ∈ node.kind.items, span = item.span)

/-- A node of text that the grammar could not match, with its span. -/
def Syntax.Node.HoldsUnmatched (tree : Node) (text : String) (span : Span) : Prop :=
  ∃ node : Node, node.Within tree ∧ node.kind = .atom (.unmatched text) ∧ node.span = span

/-- Whether a code is one for errors of a class. -/
def Complaint.has (complaint : Complaint) (code : ErrorCode) : Bool :=
  match complaint with
  | query _ => code.isQuery
  | argument _ _ => code.isArgument
  | internal _ | nesting _ => code.isInternal

/-- A cause has a code for the class that it is reported in. -/
lemma Cause.has_code (cause : Cause) : cause.complaint.has cause.code := by
  cases cause with
  | resolve error =>
    cases error with
    | illegalClause clause => cases clause <;> rfl
    | _ => rfl
  | _ => rfl

/-- The code for text that the grammar could not match. -/
def ErrorCode.unmatched : ErrorCode := ⟨16⟩

/-- Only unmatched text is reported with the code for it. -/
lemma Cause.code_eq_unmatched {cause : Cause} :
    cause.code = .unmatched ↔ ∃ text, cause = .unmatched text := by
  cases cause with
  | unmatched text => exact iff_of_true rfl ⟨text, rfl⟩
  | resolve error =>
    cases error with
    | illegalClause clause => cases clause <;> exact iff_of_false nofun nofun
    | _ => exact iff_of_false nofun nofun
  | _ => exact iff_of_false nofun nofun

namespace Syntax

/-- What has to be a predicate stands in the alternative. -/
lemma Kind.conditions_subset_inner (kind : Kind) : ∀ node ∈ kind.conditions, node ∈ kind.inner := by
  intro node member
  cases kind with
  | connective | negation => exact member
  | searchedCase branches otherwise =>
    obtain ⟨branch, standing, rfl⟩ := List.mem_map.1 member
    exact List.mem_append_left _ (List.mem_flatMap.2 ⟨branch, standing, .head _⟩)
  | count distinct argument filter window =>
    exact List.mem_append_left _ (List.mem_append_right _ member)
  | call c => exact List.mem_append_left _ (List.mem_append_right _ member)
  | _ => cases member

/-- A fault is at a span of a tree, and for text that could not be matched at a node that holds
it. -/
structure Node.Places (tree : Node) (fault : Fault) : Prop where
  marks : tree.Marks fault.span
  unmatched : ∀ text, fault.cause = .unmatched text → tree.HoldsUnmatched text fault.span

variable {context : Context} {node : Node} {fault : Fault}

/-- What a node raises is placed in it. -/
lemma Node.Raises.places (raises : node.Raises context fault) : node.Places fault := by
  cases raises with
  | refused _ own =>
    exact ⟨⟨node, .refl, .inl rfl⟩, fun text same => ⟨node, .refl, own text same, rfl⟩⟩
  | qualifier inside => exact ⟨⟨_, .single inside, .inl rfl⟩, nofun⟩
  | collation member => exact ⟨⟨node, .refl, .inr ⟨_, member, rfl⟩⟩, nofun⟩
  | condition member _ =>
    exact ⟨⟨_, .single (node.kind.conditions_subset_inner _ member), .inl rfl⟩, nofun⟩
  | type _ => exact ⟨⟨_, .single (.head _), .inl rfl⟩, nofun⟩
  | _ => exact ⟨⟨_, .refl, .inl rfl⟩, nofun⟩

/-- What has a place in a part of a tree has it in the tree. -/
lemma Node.Places.outer {part whole : Node} (within : part.Within whole)
    (places : part.Places fault) : whole.Places fault := by
  obtain ⟨⟨node, inside, span⟩, unmatched⟩ := places
  refine ⟨⟨node, within.trans inside, span⟩, fun text same => ?_⟩
  obtain ⟨node, inside, kind, span⟩ := unmatched text same
  exact ⟨node, within.trans inside, kind, span⟩

/-- Every fault of a build has a place in the tree. -/
lemma Node.build_places (depth : Nat) (tree : Node) :
    Fails tree.Places (tree.build context depth) :=
  (tree.build_accounts depth).fails.mono fun _ ⟨_, within, raises⟩ => raises.places.outer within

end Syntax

/-- Every fault of a request is placed in its tree. -/
lemma Request.build_places (context : Context) (depth : Nat) (request : Request) :
    Fails request.tree.Places (request.build context depth) := by
  cases request with
  | expression tree => exact tree.build_places depth
  | predicate tree =>
    refine .bind (.bind (tree.build_places depth) fun _ => ?_) fun _ => .pure _
    refine .lift fun fault failed => ?_
    cases asPredicate_error failed
    exact ⟨⟨tree, .refl, .inl rfl⟩, nofun⟩

/-- Every error of a request is at the span of a node or of an item of an ordering of the tree, and
its location is that of the span in the source. It shows the bytes of the source that the span
counts off, or nothing where there are none; only for text that the grammar could not match it shows
what the node there holds. Its code is one for its class. -/
theorem Session.answer_placed {session : Session} {request : Request} {error}
    (h : (session.answer request).1 = .error error) :
    ∃ span, request.tree.Marks span ∧
      error.location = some ⟨(lineColumn session.source span.start).1,
        (lineColumn session.source span.start).2, span.start, span.stop - span.start⟩ ∧
      (error.code ≠ .unmatched → span.Covers session.source error.expression) ∧
      (error.code = .unmatched → request.tree.HoldsUnmatched error.expression span) ∧
      error.complaint.has error.code := by
  rw [answer_eq_report] at h
  obtain ⟨fault, failed, rfl⟩ := report_error.1 h
  have places := request.build_places _ _ fault failed
  refine ⟨fault.span, places.marks, ?location, ?source, ?held, ?code⟩
  case code =>
    rw [Fault.complaint_report, Fault.code_report]
    exact fault.cause.has_code
  case location =>
    unfold Fault.report
    split <;> rfl
  case source =>
    intro matched
    rw [Fault.code_report, ne_eq, Cause.code_eq_unmatched] at matched
    have shown : (fault.report session.source).expression = fault.span.text session.source := by
      unfold Fault.report
      split
      · next text same => exact absurd ⟨text, same⟩ matched
      · rfl
    rw [shown]
    exact Span.covers_text _ _
  case held =>
    intro unmatched
    rw [Fault.code_report, Cause.code_eq_unmatched] at unmatched
    obtain ⟨text, same⟩ := unmatched
    have shown : (fault.report session.source).expression = text := by
      rw [Fault.report, same]
    rw [shown]
    exact places.unmatched text same

/-- A call that cannot be resolved, on the second line and behind a letter of two bytes. -/
theorem Session.answer_placed_second_line :
    let session := Session.start .plain "é\n+ g(b)"
    let call := (Node.call "g" [.identifier "b"]).located 5 9
    let request := Request.expression ((Node.binary .add (.identifier "é") call).located 0 9)
    let error : BuildError := ⟨⟨8⟩, .query "No function or macro with the name 'g' could be found",
      "g(b)", some ⟨2, 3, 5, 4⟩⟩
    (session.answer request).1 = .error error ∧ ∃ span, request.tree.Marks span ∧
      some ⟨2, 3, 5, 4⟩ = some (span.location session.source) ∧
      span.Covers session.source "g(b)" ∧ error.complaint.has error.code := by
  intro session call request error
  have shown : Fault.report "é\n+ g(b)" ⟨.resolve (.unresolved "g"), ⟨5, 9⟩⟩ =
      ⟨⟨8⟩, .query "No function or macro with the name 'g' could be found", "g(b)",
        some ⟨2, 3, 5, 4⟩⟩ := rfl
  have failed : (session.answer request).1 = .error error := by
    rw [answer_eq_report]
    simp only [session, request, call]
    exact report_error.2 ⟨_, rfl, shown.symm⟩
  obtain ⟨span, marks, location, covers, -, has⟩ := Session.answer_placed failed
  exact ⟨failed, span, marks, location, covers (by decide), has⟩

/-- Text that could not be matched, where a path has to stand: it is refused before it is built, and
the error shows the source and not what the node holds. -/
theorem Session.unmatched_operand_shows_source :
    let session := Session.start .plain "TYPE(c.)"
    let operand : Node := ⟨.atom (.unmatched "c.name +"), ⟨5, 7⟩⟩
    let request := Request.expression ⟨.typeOf operand, ⟨0, 8⟩⟩
    ∃ error, (session.answer request).1 = .error error ∧
      ¬ ∃ node : Node, node.Within request.tree ∧
        ((error.location = some (node.span.location session.source) ∧
          (∀ text, node.kind = .atom (.unmatched text) → error.expression = text) ∧
          ((∀ text, node.kind ≠ .atom (.unmatched text)) →
            node.span.Covers session.source error.expression)) ∨
        ∃ item ∈ node.kind.items, error.location = some (item.span.location session.source) ∧
          item.span.Covers session.source error.expression) := by
  intro session operand request
  let error : BuildError := ⟨⟨200⟩, .internal "TYPE expects a path or parameter, got Error", "c.",
    some ⟨1, 6, 5, 2⟩⟩
  have shown : Fault.report "TYPE(c.)" ⟨.typeOperand "Error", ⟨5, 7⟩⟩ =
      ⟨⟨200⟩, .internal "TYPE expects a path or parameter, got Error", "c.", some ⟨1, 6, 5, 2⟩⟩ :=
    rfl
  have failed : (session.answer request).1 = .error error := by
    rw [answer_eq_report]
    exact report_error.2 ⟨_, rfl, shown.symm⟩
  refine ⟨error, failed, ?_⟩
  rintro ⟨node, within, place⟩
  -- nothing but the operand is where the error is
  have nodes : ∀ node : Node, node.Within request.tree → node = request.tree ∨ node = operand :=
    Node.forall_within (.inl rfl) fun inner member => by
      obtain rfl := List.mem_singleton.1 member
      exact Node.forall_within (.inr rfl) (List.forall_mem_nil _)
  obtain rfl | rfl := nodes node within
  · obtain ⟨location, -⟩ | ⟨item, member, -⟩ := place
    · exact absurd location (by decide)
    · cases member
  · obtain ⟨-, held, -⟩ | ⟨item, member, -⟩ := place
    · exact absurd (held "c.name +" rfl) (by decide)
    · cases member

end QueryExpr
