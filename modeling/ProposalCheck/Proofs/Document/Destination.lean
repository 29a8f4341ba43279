import ProposalCheck.Proofs.Document.Spans

/-!
# Where the destinations of links stand

The destination of a link or an image is looked for once the text of the link has been read, so on the line on which
that text ends. If it is found, the node has its bytes, and they stand on the last line of the node.

## Main definitions

* `Node.IsPinned`: the span of a link holds its destination and stands on its last line

## Main results

* `Body.Pieces.isPinned`: pieces of text are pinned
* `Document.HasTree.isPinned`: every node of a document is pinned
-/

namespace ProposalCheck

open Markdown

/-- If a link or an image has a span, it holds the destination, which is not empty, and stands on the last line of
the node. -/
def Node.IsPinned (lines : Lines) (node : Node) : Prop :=
  ∀ destination span, node.destination? = some destination → node.span = some span →
    destination ≠ "" ∧ ∃ first last row, node.lines = some (first, last) ∧ lines.row (last : Nat) = .ok row ∧
      row.Holds span destination

theorem Node.isPinned_of_span {lines : Lines} {node : Node} (h : node.span = none) : node.IsPinned lines := by
  intro destination span _ hspan
  rw [h] at hspan
  cases hspan

theorem Node.isPinned_of_destination {lines : Lines} {node : Node} (h : node.destination? = none) :
    node.IsPinned lines := by
  intro destination span hdestination
  rw [h] at hdestination
  cases hdestination

/-- A node is pinned if its destination was found on its last line. -/
theorem Node.isPinned_of_locate? {lines : Lines} {node : Node} {destination : String} {span : Span}
    {first last column after : Nat} (hdestination : node.destination? = some destination) (hempty : destination ≠ "")
    (hspan : node.span = some span) (hlines : node.lines = some (first, last))
    (hfound : Body.locate? lines last column destination = some (span, after)) : node.IsPinned lines := by
  intro other found hother hfoundSpan
  obtain rfl := Option.some.inj (hdestination.symm.trans hother)
  obtain rfl := Option.some.inj (hspan.symm.trans hfoundSpan)
  obtain ⟨row, hrow, hholds⟩ := Body.locate?_holds hfound
  exact ⟨hempty, first, last, row, hlines, hrow, hholds⟩

namespace Body

variable {lines : Lines}

theorem Pieces.isPinned {parent index : Nat} {cursor after : Option Cursor} {trees : List Tree} {indices : List Nat}
    {nodes : List Node} (h : Pieces lines parent index cursor trees indices nodes after) :
    ∀ node ∈ nodes, node.IsPinned lines := by
  induction h with
  | nil => exact List.forall_mem_nil _
  | line _ _ ih => exact List.forall_mem_cons.mpr ⟨Node.isPinned_of_span rfl, ih⟩
  | word hkind _ _ ih =>
    refine List.forall_mem_cons.mpr ⟨Node.isPinned_of_destination ?_, ih⟩
    rw [Node.destination?, pieceOf_kind]
    split <;> first | rfl | (rename_i hlink; rw [hlink] at hkind; cases hkind)
  | part _ _ hlinks _ ihbelow ih =>
    refine List.forall_mem_cons.mpr ⟨?_, List.forall_mem_append.mpr ⟨ihbelow, ih⟩⟩
    cases hlinks with
    | missed => exact Node.isPinned_of_span rfl
    | found hkind hempty hfound =>
      -- the destination is looked for where the cursor is after the text
      refine Node.isPinned_of_locate? ?_ hempty rfl rfl hfound
      rcases hkind with hkind | hkind <;> rw [Node.destination?, pieceOf_kind, hkind]

/-- A block that is a link has no span. -/
theorem isPinned_nodeOf {element : Element} {children : List Tree} {inherited : Option (Nat × Nat)} {offset : Nat}
    {span : Option Span} (h : spanOf lines (placeOf offset inherited element) element.kind children = .ok span)
    (parent : Option Nat) (index : Nat) (indices : List Nat) :
    (nodeOf offset parent index inherited element indices span).IsPinned lines := by
  rw [spanOf.eq_def] at h
  split at h
  case h_6 =>
    cases h
    exact Node.isPinned_of_span rfl
  all_goals
    rename_i hkind
    refine Node.isPinned_of_destination ?_
    simp only [Node.destination?, nodeOf, hkind]

theorem Placed.isPinned {offset index : Nat} {parent : Option Nat} {inherited : Option (Nat × Nat)} {trees : List Tree}
    {indices : List Nat} {nodes : List Node} (h : Placed lines offset parent index inherited trees indices nodes) :
    ∀ node ∈ nodes, node.IsPinned lines := by
  induction h with
  | nil => exact List.forall_mem_nil _
  | text _ hpieces hspan _ ih =>
    exact List.forall_mem_cons.mpr ⟨isPinned_nodeOf hspan _ _ _, List.forall_mem_append.mpr ⟨hpieces.isPinned, ih⟩⟩
  | block _ _ hspan _ ihbelow ih =>
    exact List.forall_mem_cons.mpr ⟨isPinned_nodeOf hspan _ _ _, List.forall_mem_append.mpr ⟨ihbelow, ih⟩⟩

/-- The span of every link or image of a body holds its destination and stands on its last line. -/
theorem isPinned_of_ofTree {body : Body} {firstLine : Nat} {tree : Tree} (h : ofTree lines firstLine tree = .ok body)
    {node : Node} (hnode : node ∈ body.nodes) : node.IsPinned lines :=
  (placed_of_ofTree h).isPinned node (Array.mem_toList_iff.mpr hnode)

end Body

/-- The span of every link or image of a document holds its destination and stands on its last line. -/
theorem Document.HasTree.isPinned {document : Document} (h : document.HasTree) {node : Node}
    (hnode : node ∈ document.body.nodes) : node.IsPinned document.lines := by
  obtain ⟨tree, htree⟩ := h
  exact Body.isPinned_of_ofTree htree hnode

end ProposalCheck
