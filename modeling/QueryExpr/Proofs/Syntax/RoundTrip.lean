import QueryExpr.Proofs.Syntax.Form
import QueryExpr.Proofs.Syntax.Grammar
import QueryExpr.Syntax.Decode

/-!
# Parse trees survive their JSON form

A tree is read back from each of its JSON forms. Everything in an alternative is read with a given
decoder for nodes, so each lemma reads one kind of clause or alternative from decoders that read the
nodes in it, and the induction is on the height of the JSON value alone.
-/

namespace QueryExpr

open Json

/-- Both ends are numbers of 64 bits. -/
def Span.IsSized (span : Span) : Prop :=
  span.start < Nat.pow 2 64 ∧ span.stop < Nat.pow 2 64

/-- A span is read from its form if both its ends are numbers of 64 bits. -/
lemma Span.reads {span : Span} (sized : span.IsSized) (depth : Nat) :
    Reads depth Span.ofJson? span.form span := by
  refine .record fun _ start _ stop => ?_
  simp only [makes_nil, start.required (.exactly (asNatural_natural sized.1)),
    stop.required (.exactly (asNatural_natural sized.2))]
  rfl

/-- The span of a record. -/
lemma Json.Fills.span {span : Span} {depth : Nat} {slot : Slot}
    (fills : Fills depth span.field slot) (sized : span.IsSized) :
    slot.orDefault Span.ofJson? Span.empty = some span :=
  fills.orDefault (span.reads sized depth) id

namespace Syntax

variable {node : Decoder Node} {depth : Nat}

/-- The nodes given are read. -/
def ReadsAll (depth : Nat) (node : Decoder Node) (nodes : List Node) : Prop :=
  ∀ inner ∈ nodes, Reads depth node inner.form inner

/-- Nodes are read if the first one and the others are. -/
lemma readsAll_cons {first : Node} {rest : List Node} :
    ReadsAll depth node (first :: rest) ↔
      Reads depth node first.form first ∧ ReadsAll depth node rest :=
  List.forall_mem_cons

/-- A single node is read as it is read alone. -/
lemma readsAll_singleton {inner : Node} :
    ReadsAll depth node [inner] ↔ Reads depth node inner.form inner :=
  List.forall_mem_singleton

/-- Two nodes are read if each of them is. -/
lemma readsAll_pair {left right : Node} :
    ReadsAll depth node [left, right] ↔
      Reads depth node left.form left ∧ Reads depth node right.form right :=
  readsAll_cons.trans (and_congr_right' readsAll_singleton)

/-- Nodes are read if those of both parts are. -/
lemma readsAll_append {first rest : List Node} :
    ReadsAll depth node (first ++ rest) ↔ ReadsAll depth node first ∧ ReadsAll depth node rest :=
  List.forall_mem_append

/-- Nodes that are read are read from their forms one by one. -/
lemma ReadsAll.nodes {nodes : List Node} (reads : ReadsAll depth node nodes) :
    List.Forall₂ (Reads depth node) (nodeForms nodes) nodes := by
  induction nodes with
  | nil => exact .nil
  | cons first rest ih =>
    obtain ⟨here, others⟩ := readsAll_cons.1 reads
    exact .cons here (ih others)

/-- A node that may be missing is read from its form if it is there. -/
lemma ReadsAll.option {inner : Option Node} (reads : ReadsAll depth node inner.toList) :
    Option.Rel (Reads depth node) (optionForm inner) inner := by
  cases inner with
  | none => exact .none
  | some inner => exact .some (reads inner (List.mem_singleton_self inner))

/-! ## Clauses and paths -/

/-- Two operands are read from the fields for the left and the right one. -/
lemma pair_reads {left right : Node} (reads : ReadsAll depth node [left, right]) :
    Reads depth (pairOfJson? node)
      (.record [.required "left" left.form, .required "right" right.form]) (left, right) := by
  obtain ⟨hl, hr⟩ := readsAll_pair.1 reads
  refine .record fun _ left _ right => ?_
  simp only [makes_nil, left.required hl, right.required hr]
  rfl

/-- An operand with a negation flag is read, also where the flag is left out. -/
lemma flagged_reads {operand : Node} (reads : ReadsAll depth node [operand]) (flag : Bool) :
    Reads depth (flaggedOfJson? node)
      (.record [.flag "not" flag, .required "operand" operand.form]) (flag, operand) := by
  refine .record fun _ negated _ inner => ?_
  simp only [makes_nil, negated.flag, inner.required (readsAll_singleton.1 reads)]
  rfl

/-- An arithmetic operation is read if its sign is one of those that the decoder knows. -/
lemma arithmetic_reads {left right : Node} (reads : ReadsAll depth node [left, right])
    {ops : List (String × BinaryOp)} {word : String} {op : BinaryOp}
    (found : ops.lookup word = some op) :
    Reads depth (arithmeticOfJson? node ops) (BinaryOp.form.arithmetic left.form right.form word)
      (.binary op left right) := by
  obtain ⟨hl, hr⟩ := readsAll_pair.1 reads
  refine .record fun _ left _ sign _ right => ?_
  exact Option.bind_eq_some_iff.2 ⟨_, left.required hl, Option.bind_eq_some_iff.2
    ⟨op, sign.required (.exactly found), Option.bind_eq_some_iff.2 ⟨_, right.required hr, rfl⟩⟩⟩

/-- Branches are read if their conditions and results are. -/
lemma branches_reads {branches : List Branch}
    (reads : ReadsAll depth node (branches.flatMap Branch.inner)) :
    List.Forall₂ (Reads depth (Branch.ofJson? node)) (branchForms branches) branches := by
  induction branches with
  | nil => exact .nil
  | cons branch rest ih =>
    cases branch
    obtain ⟨here, others⟩ := readsAll_append.1 reads
    obtain ⟨hc, hr⟩ := readsAll_pair.1 here
    refine .cons ?_ (ih others)
    refine .record fun _ condition _ result => ?_
    simp only [makes_nil, condition.required hc, result.required hr]
    rfl

/-- The items of an ordering are read if what they sort by is, and their spans are sized. -/
lemma items_reads {items : List OrderItem}
    (reads : ReadsAll depth node (items.map OrderItem.expression))
    (sized : ∀ item ∈ items, item.span.IsSized) :
    List.Forall₂ (Reads depth (OrderItem.ofJson? node)) (itemForms items) items := by
  induction items with
  | nil => exact .nil
  | cons item rest ih =>
    cases item
    obtain ⟨here, others⟩ := readsAll_cons.1 reads
    obtain ⟨small, small'⟩ := List.forall_mem_cons.1 sized
    refine .cons ?_ (ih others small')
    refine .record fun _ expression _ descending _ nulls _ collation _ span => ?_
    simp only [makes_nil, expression.required here, descending.flag,
      nulls.optionalOrCut (Reads.option .tag _) rfl,
      collation.optionalOrCut (Reads.option .string _) rfl, span.span small]
    rfl

/-- A bound is read if what it counts from is. -/
lemma bound_reads {offset : Bound Node} (reads : ReadsAll depth node offset.offsets) :
    Reads depth (boundOfJson? node) (boundForm offset) offset := by
  cases offset with
  | unboundedPreceding | currentRow | unboundedFollowing => exact .exactly rfl
  | preceding inner | following inner =>
    exact .tagged (readsAll_singleton.1 reads) fun _ read => congrArg (Option.map _) read

/-- A frame is read if what its bounds count from is. -/
lemma frame_reads {frame : Option (Frame Node)}
    (reads : ReadsAll depth node (frame.toList.flatMap Frame.offsets)) :
    Option.Rel (Reads depth (frameOfJson? node)) (frameForm frame) frame := by
  cases frame with
  | none => exact .none
  | some frame =>
    cases frame with
    | mk mode start stop exclusion =>
      rw [Option.toList_some, List.flatMap_singleton] at reads
      obtain ⟨hs, he⟩ := readsAll_append.1 reads
      have stops : Option.Rel (Reads depth (boundOfJson? node)) (stopForm stop) stop := by
        cases stop with
        | none => exact .none
        | some stop =>
          rw [Option.toList_some, List.flatMap_singleton] at he
          exact .some (bound_reads he)
      refine .some (.record fun _ mode _ start _ stop _ exclusion => ?_)
      simp only [makes_nil, mode.required (.tag _), start.required (bound_reads hs),
        stop.optionalOrCut stops rfl, exclusion.optionalOrCut (Reads.option .tag _) rfl]
      rfl

/-- A window is read if the nodes in it are, and the spans of its ordering are sized. -/
lemma over_reads {window : Option Over}
    (reads : ReadsAll depth node (window.toList.flatMap Over.inner))
    (sized : ∀ item ∈ window.toList.flatMap Over.items, item.span.IsSized) :
    Option.Rel (Reads depth (Over.ofJson? node)) (overForm window) window := by
  cases window with
  | none => exact .none
  | some window =>
    rw [Option.toList_some, List.flatMap_singleton] at reads sized
    cases window with
    | named name =>
      exact .some (Reads.tagged (.string name) fun _ read => congrArg (Option.map _) read)
    | inline name partitionBy orderBy frame =>
      obtain ⟨outer, hf⟩ := readsAll_append.1 reads
      obtain ⟨hp, ho⟩ := readsAll_append.1 outer
      refine .some (Reads.tagged (.record fun _ name _ partitionBy _ orderBy _ frame => ?_)
        fun _ read => read)
      simp only [makes_nil, name.optionalOrCut (Reads.option .string _) rfl,
        partitionBy.list hp.nodes, orderBy.list (items_reads ho sized),
        frame.optionalOrCut (frame_reads hf) rfl]
      rfl

/-- A call is read if the nodes in it are, and the spans of its orderings are sized. -/
lemma call_reads {call : Call} (reads : ReadsAll depth node call.inner)
    (sized : ∀ item ∈ (Kind.call call).items, item.span.IsSized) (null : node .null = none) :
    Reads depth (Call.ofJson? node) call.form call := by
  cases call with
  | mk name distinct arguments withinGroup filter window =>
    obtain ⟨before, hw⟩ := readsAll_append.1 reads
    obtain ⟨before, hf⟩ := readsAll_append.1 before
    obtain ⟨ha, hg⟩ := readsAll_append.1 before
    obtain ⟨smallGroup, smallWindow⟩ := List.forall_mem_append.1 sized
    have group : Option.Rel (Reads depth (asList (OrderItem.ofJson? node))) (groupForm withinGroup)
        withinGroup := by
      cases withinGroup with
      | none => exact .none
      | some items => exact .some (.items (items_reads hg smallGroup))
    refine .record fun _ name _ distinct _ arguments _ withinGroup _ filter _ window => ?_
    simp only [makes_nil, name.required (.string _), distinct.flag, arguments.list ha.nodes,
      withinGroup.optionalOrCut group rfl, filter.optionalOrCut hf.option null,
      window.optionalOrCut (over_reads hw smallWindow) rfl]
    rfl

/-- A path without links has no value where the others have their links. -/
lemma links_option {decode : Decoder (List Link)} {links : List Link}
    (reads : ∀ {form}, linksForm links = some form → Reads depth decode form links) :
    Option.Rel (Reads depth decode) (linksForm links) (links.head?.map fun _ => links) := by
  cases links with
  | nil => exact .none
  | cons link rest =>
    cases link
    exact .some (reads rfl)

/-- Links that are missing when there are none give the same list back. -/
lemma getD_links (links : List Link) : (links.head?.map fun _ => links).getD [] = links := by
  cases links <;> rfl

/-- There are no more links than the height of the JSON value, which is why that bounds them. -/
lemma links_reads {links : List Link}
    (reads : ReadsAll depth node (links.flatMap fun link => link.index.toList))
    (null : node .null = none) {form : Form} (hasForm : linksForm links = some form) (lower : Nat)
    (le : lower ≤ depth) : Reads lower (linksOfJson? node lower) form links := by
  -- each link takes one level of the height, and the nodes in it are read at any lower height
  induction links generalizing form lower with
  | nil => cases hasForm
  | cons link rest ih =>
    cases link with
    | mk segments index =>
      cases hasForm
      obtain ⟨here, others⟩ := readsAll_append.1 reads
      intro json written low
      cases lower with
      | zero => exact absurd (Form.height_pos written) (Nat.not_lt.2 low)
      | succ lower =>
        have small : lower ≤ depth := Nat.le_of_succ_le le
        have inner : ReadsAll lower node index.toList := fun node mem => (here node mem).mono small
        have later := links_option fun hasForm => ih others hasForm lower small
        refine Form.read written low fun _ segments _ index _ next => ?_
        have null' : linksOfJson? node lower .null = none := by cases lower <;> rfl
        simp only [makes_nil, segments.required (.strings _),
          index.optionalOrCut inner.option null, next.optionalOrCut later null']
        exact congrArg (fun rest => some (_ :: rest)) (getD_links rest)

/-- A path is read if its qualifier and the indices of its links are. -/
lemma path_reads {path : Path} (reads : ReadsAll depth node path.inner)
    (null : node .null = none) : Reads depth (Path.ofJson? node) path.form path := by
  cases path with
  | mk qualifier links =>
    obtain ⟨hq, hl⟩ := readsAll_append.1 reads
    have later : Option.Rel (Reads depth fun json => linksOfJson? node json.height json)
        (linksForm links) (links.head?.map fun _ => links) :=
      links_option fun hasForm json written low =>
        links_reads hl null hasForm json.height low json written le_rfl
    refine .record fun _ qualifier _ links => ?_
    simp only [makes_nil, qualifier.optionalOrCut hq.option null, links.optionalOrCut later rfl]
    exact congrArg (fun links => some (Path.mk _ links)) (getD_links _)

/-! ## Alternatives -/

/-- An alternative without operands is read from its form. -/
lemma Atom.reads (leaf : Atom) : Reads depth (Kind.ofJson? node) leaf.form (.atom leaf) := by
  cases leaf with
  | numeric text kind negative =>
    refine .tagged (.record fun _ text _ kind _ negative => ?_) fun _ read => read
    simp only [makes_nil, text.required (.string _), kind.required (.tag _), negative.flag]
    rfl
  | temporal kind body =>
    refine .tagged (.record fun _ kind _ body => ?_) fun _ read => read
    simp only [makes_nil, kind.required (.tag _), body.required (.string _)]
    rfl
  | constant segments | subpath segments =>
    exact .exactly (congrArg (Option.map _) (asList_strings segments))
  | null | boolean | string | namedParameter | positionalParameter | temporalFunction | object
  | identifier | unmatched => exact .exactly rfl

/-- An alternative with one operand is read if the operand is. -/
lemma UnaryOp.reads {op : UnaryOp} {operand : Node} (reads : ReadsAll depth node [operand]) :
    Reads depth (Kind.ofJson? node) (Kind.unary op operand).form (.unary op operand) := by
  cases op with
  | grouped | plus | minus | outer =>
    exact .tagged (readsAll_singleton.1 reads) fun _ read => congrArg (Option.map _) read
  | existence flag | isNull flag | isEmpty flag =>
    exact .tagged (flagged_reads reads flag) fun _ read => congrArg (Option.map _) read

/-- An alternative with two operands is read if both are. -/
lemma BinaryOp.reads {op : BinaryOp} {left right : Node}
    (reads : ReadsAll depth node [left, right]) :
    Reads depth (Kind.ofJson? node) (Kind.binary op left right).form (.binary op left right) := by
  obtain ⟨hl, hr⟩ := readsAll_pair.1 reads
  cases op with
  | concatenation => exact .tagged (pair_reads reads) fun _ read => congrArg (Option.map _) read
  | multiply | divide | modulo | add | subtract =>
    exact .tagged (arithmetic_reads reads rfl) fun _ read => read
  | comparison sign =>
    refine .tagged (.record fun _ sign _ left _ right => ?_) fun _ read => read
    simp only [makes_nil, sign.required (.tag _), left.required hl, right.required hr]
    rfl
  | quantified sign word =>
    refine .tagged (.record fun _ sign _ left _ word _ right => ?_) fun _ read => read
    simp only [makes_nil, sign.required (.tag _), left.required hl,
      word.optional (Reads.option .tag _) rfl, right.required hr]
    rfl

/-- An alternative is read if the nodes in it are. -/
lemma Kind.reads {kind : Kind} (reads : ReadsAll depth node kind.inner)
    (sized : ∀ item ∈ kind.items, item.span.IsSized) (null : node .null = none) :
    Reads depth (Kind.ofJson? node) kind.form kind := by
  -- one case for each alternative, with `reads` taken apart in the order of `Kind.inner`
  cases kind with
  | atom leaf => exact leaf.reads
  | unary op operand => exact UnaryOp.reads reads
  | binary op left right => exact BinaryOp.reads reads
  | connective op left right =>
    cases op <;> exact .tagged (pair_reads reads) fun _ read => congrArg (Option.map _) read
  | negation operand | typeOf operand =>
    exact .tagged (readsAll_singleton.1 reads) fun _ read => congrArg (Option.map _) read
  | between negated operand low high =>
    obtain ⟨ho, others⟩ := readsAll_cons.1 reads
    obtain ⟨hl, hh⟩ := readsAll_pair.1 others
    refine .tagged (.record fun _ negated _ operand _ low _ high => ?_) fun _ read => read
    simp only [makes_nil, negated.flag, operand.required ho, low.required hl, high.required hh]
    rfl
  | like negated operand pattern escape =>
    obtain ⟨ho, others⟩ := readsAll_cons.1 reads
    obtain ⟨hp, he⟩ := readsAll_cons.1 others
    refine .tagged (.record fun _ negated _ operand _ pattern _ escape => ?_) fun _ read => read
    simp only [makes_nil, negated.flag, operand.required ho, pattern.required hp,
      escape.optionalOrCut he.option null]
    rfl
  | inList negated operand items parenthesized =>
    obtain ⟨ho, hi⟩ := readsAll_cons.1 reads
    refine .tagged (.record fun _ negated _ operand _ items _ parenthesized => ?_)
      fun _ read => read
    simp only [makes_nil, negated.flag, operand.required ho, items.required (.items hi.nodes),
      parenthesized.flag]
    rfl
  | simpleCase operand branches otherwise =>
    obtain ⟨ho, others⟩ := readsAll_cons.1 reads
    obtain ⟨hb, he⟩ := readsAll_append.1 others
    refine .tagged (.record fun _ operand _ branches _ otherwise => ?_) fun _ read => read
    simp only [makes_nil, operand.required ho, branches.required (.items (branches_reads hb)),
      otherwise.optional he.option null]
    rfl
  | searchedCase branches otherwise =>
    obtain ⟨hb, he⟩ := readsAll_append.1 reads
    refine .tagged (.record fun _ branches _ otherwise => ?_) fun _ read => read
    simp only [makes_nil, branches.required (.items (branches_reads hb)),
      otherwise.optional he.option null]
    rfl
  | trim side character operand =>
    obtain ⟨hc, ho⟩ := readsAll_append.1 reads
    refine .tagged (.record fun _ side _ character _ operand => ?_) fun _ read => read
    simp only [makes_nil, side.optional (Reads.option .tag _) rfl,
      character.optional hc.option null, operand.required (readsAll_singleton.1 ho)]
    rfl
  | count distinct argument filter window =>
    obtain ⟨before, hw⟩ := readsAll_append.1 reads
    obtain ⟨ha, hf⟩ := readsAll_append.1 before
    refine .tagged (.record fun _ distinct _ argument _ filter _ window => ?_) fun _ read => read
    simp only [makes_nil, distinct.flag, argument.optional ha.option null,
      filter.optionalOrCut hf.option null, window.optionalOrCut (over_reads hw sized) rfl]
    rfl
  | call call =>
    exact .tagged (call_reads reads sized null) fun _ read => congrArg (Option.map _) read
  | path role path =>
    have inner := path_reads reads null
    cases role with
    | treat entityName =>
      refine .tagged (.record fun _ path _ entityName => ?_) fun _ read => read
      simp only [makes_nil, path.required inner, entityName.required (.string _)]
      rfl
    | plain | value | key | entry =>
      exact .tagged inner fun _ read => congrArg (Option.map _) read
  | memberOf negated element collection =>
    obtain ⟨he, hc⟩ := readsAll_cons.1 reads
    refine .tagged (.record fun _ negated _ element _ collection => ?_) fun _ read => read
    simp only [makes_nil, negated.flag, element.required he,
      collection.required (path_reads hc null)]
    rfl
  | applied head arguments =>
    have inner : Reads depth (asList node) (.items (nodeForms arguments)) arguments :=
      .items (ReadsAll.nodes reads)
    cases head with
    | constructor className =>
      refine .tagged (.record fun _ className _ arguments => ?_) fun _ read => read
      simp only [makes_nil, className.required (.strings _), arguments.required inner]
      rfl
    | expansion name =>
      refine .tagged (.record fun _ name _ arguments => ?_) fun _ read => read
      simp only [makes_nil, name.required (.string _), arguments.required inner]
      rfl

/-! ## Trees -/

/-- All spans in a tree are made of numbers of 64 bits. -/
def Node.IsSized (tree : Node) : Prop :=
  ∀ node : Node, node.Within tree →
    node.span.IsSized ∧ ∀ item ∈ node.kind.items, item.span.IsSized

/-- The nodes in a sized tree are sized. -/
lemma Node.IsSized.inner {tree node : Node} (sized : tree.IsSized) (h : node ∈ tree.kind.inner) :
    node.IsSized :=
  fun part within => sized part (.head h within)

/-- A tree is read from JSON values that are not higher than the decoder goes down. -/
lemma Node.reads (depth : Nat) {tree : Node} (sized : tree.IsSized) :
    Reads depth (Node.ofHeight? depth) tree.form tree := by
  induction depth generalizing tree with
  | zero =>
    cases tree
    exact fun json written low => absurd (Form.height_pos written) (Nat.not_lt.2 low)
  | succ depth ih =>
    obtain ⟨small, smallItems⟩ := sized tree .refl
    -- only nodes take the decoder down, by one level each, whatever stands between them
    have inner : ReadsAll depth (Node.ofHeight? depth) tree.kind.inner :=
      fun node mem => ih (sized.inner mem)
    have null : Node.ofHeight? depth .null = none := by cases depth <;> rfl
    have kinds := Kind.reads inner smallItems null
    cases tree with
    | mk kind span =>
      intro json written low
      refine Form.read written low fun _ kind _ span => ?_
      simp only [makes_nil, kind.required kinds, span.span small]
      rfl

/-- Parse trees survive their JSON form. What is written for a tree is one of its forms, and each of
its forms is read back as the tree, from the JSON value and from the compact text of it. -/
theorem Node.json_round_trip (tree : Node) (sized : tree.IsSized) :
    (tree.form tree.toJson ∧ tree.toJson.IsProper ∧ Node.ofJson? tree.toJson = some tree) ∧
      ∀ json, tree.form json → Node.ofJson? json = some tree ∧
        (json.IsProper → json.height ≤ maxHeight → Node.ofText? json.print = some tree) := by
  have read : ∀ json, tree.form json → Node.ofJson? json = some tree :=
    fun json written => Node.reads json.height sized json written le_rfl
  obtain ⟨written, proper⟩ := tree.specimen
  refine ⟨⟨written, proper, read _ written⟩, fun json written => ⟨read json written, ?_⟩⟩
  intro proper low
  rw [Node.ofText?, readLimited?_print proper low]
  exact read json written

/-- A flag and a span are left out, a member of another name is added, and fields change places. -/
theorem Node.json_round_trip_isNull :
    let operand : Node := ⟨.atom (.namedParameter "p"), ⟨3, 5⟩⟩
    let tree : Node := ⟨.unary (.isNull false) operand, ⟨0, 0⟩⟩
    let inner := Json.object [("span", .object [("end", .natural 5), ("start", .natural 3)]),
      ("kind", .tagged "NamedParameter" (.string "p"))]
    let json := Json.object [("note", .array [.natural 7]),
      ("kind", .tagged "IsNull" (.object [("operand", inner)]))]
    tree.IsSized ∧ tree.form json ∧ json.IsProper ∧ json.height ≤ maxHeight ∧
      Node.ofJson? json = some tree ∧ Node.ofText? json.print = some tree := by
  intro operand tree inner json
  have small : ∀ start stop, start < 6 → stop < 6 → Span.IsSized ⟨start, stop⟩ := by
    intro start stop first second
    exact ⟨first.trans (by decide), second.trans (by decide)⟩
  have sized : tree.IsSized := by
    refine Node.forall_within ⟨small 0 0 (by decide) (by decide), List.forall_mem_nil _⟩ ?_
    refine List.forall_mem_singleton.2 (Node.forall_within ?_ (List.forall_mem_nil _))
    exact ⟨small 3 5 (by decide) (by decide), List.forall_mem_nil _⟩
  have pair : ∀ {first second : Field} {members}, first.Held members → second.Held members →
      Form.record [first, second] (.object members) := by
    intro first second members held held'
    exact ⟨members, rfl, List.forall_mem_cons.2 ⟨held, List.forall_mem_singleton.2 held'⟩⟩
  have span : Span.form ⟨3, 5⟩ (.object [("end", .natural 5), ("start", .natural 3)]) :=
    pair (.given rfl rfl) (.given rfl rfl)
  have operand_written : operand.form inner := pair (.given rfl rfl) (.given rfl span)
  have content : (UnaryOp.isNull false).form operand.form (.object [("operand", inner)]) :=
    pair (.omitted rfl rfl) (.given rfl operand_written)
  have written : tree.form json := pair (.given rfl ⟨_, rfl, content⟩) (.omitted rfl rfl)
  have number := isNumber_toString
  have proper : json.IsProper :=
    ⟨⟨number 7, trivial⟩, ⟨⟨⟨⟨number 5, number 3, trivial⟩, ⟨trivial, trivial⟩, trivial⟩, trivial⟩,
      trivial⟩, trivial⟩
  have low : json.height ≤ maxHeight := by decide
  obtain ⟨-, forms⟩ := Node.json_round_trip tree sized
  obtain ⟨read, text⟩ := forms json written
  exact ⟨sized, written, proper, low, read, text proper low⟩

end Syntax

end QueryExpr
