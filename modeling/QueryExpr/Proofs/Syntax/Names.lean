import QueryExpr.Proofs.Syntax.Nesting

/-!
# Written names

The dotted names that a tree is written with, wherever they stand in it: those that have to be a
constant or an entity, and the links of paths.
-/

namespace QueryExpr.Syntax

/-- The dotted names of a path, one for each link. -/
def Path.names (path : Path) : List (List String) :=
  path.links.map Link.segments

/-- The dotted names of an alternative, without those of the nodes in it. -/
def Kind.names : Kind → List (List String)
  | .atom (.constant segments) | .atom (.subpath segments) => [segments]
  | .path _ p | .memberOf _ _ p => p.names
  | _ => []

/-- A dotted name stands in a tree. -/
def Node.Writes (tree : Node) (segments : List String) : Prop :=
  ∃ node : Node, node.Within tree ∧ segments ∈ node.kind.names

/-- A dotted name of an alternative is tried as an enum constant. A name in a path has to have a
least number of segments for that. -/
def Kind.Tries (least : Nat) (kind : Kind) (segments : List String) : Prop :=
  segments ∈ kind.names ∧ (kind = .atom (.constant segments) ∨ least ≤ segments.length)

/-- A dotted name that stands in a tree is tried as an enum constant. -/
def Node.Tries (least : Nat) (tree : Node) (segments : List String) : Prop :=
  ∃ node : Node, node.Within tree ∧ node.kind.Tries least segments

/-- A name that is tried as an enum constant stands in the tree. -/
lemma Node.Tries.writes {least : Nat} {tree : Node} {segments : List String}
    (tries : tree.Tries least segments) : tree.Writes segments := by
  obtain ⟨node, within, member, -⟩ := tries
  exact ⟨node, within, member⟩

end QueryExpr.Syntax
