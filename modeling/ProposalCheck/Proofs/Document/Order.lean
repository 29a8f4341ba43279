import ProposalCheck.Proofs.Document.Destination
import ProposalCheck.Proofs.Document.Placed

/-!
# The order of the nodes

The nodes of a body are written down each before what is below it. A visit from the first node follows the
children of every node, so it comes to all nodes, and to each of them once, in the order in which they are
written.

## Main definitions

* `Body.Visits`: a visit from some nodes comes to a list of nodes and then goes on
* `Body.Forest`, `Body.IsTree`: nodes that are those of some trees, or of one tree

## Main results

* `Body.isTree_of_ofTree`: the nodes of a body are those of one tree
* `Body.Forest.visits`: the nodes of some trees are visited as they are written
* `Document.HasTree.all_eq`: all nodes of a document are visited in order
-/

namespace ProposalCheck

open Markdown

namespace Body

variable {body : Body} {lines : Lines} {index : Nat} {node : Node} {nodes others : List Node}

/-- A visit from the nodes with some indices comes to `nodes`, and then goes on with what is left of the stack. -/
def Visits (body : Body) (indices : List Nat) (nodes : List Node) : Prop :=
  ∀ fuel stack, body.visit (nodes.length + fuel) (indices ++ stack) = nodes ++ body.visit fuel stack

theorem visits_nil : body.Visits [] [] := fun fuel stack => by
  rw [List.length_nil, Nat.zero_add, List.nil_append, List.nil_append]

theorem Visits.append {indices more : List Nat} (h : body.Visits indices nodes) (hmore : body.Visits more others) :
    body.Visits (indices ++ more) (nodes ++ others) := by
  intro fuel stack
  rw [List.length_append, Nat.add_assoc, List.append_assoc, h, hmore, List.append_assoc]

/-- A node is visited before what is below it. -/
theorem Visits.below (hnode : body.nodes[index]? = some node) (hbelow : body.Visits node.children nodes) :
    body.Visits [index] (node :: nodes) := by
  intro fuel stack
  rw [List.length_cons, Nat.add_right_comm, List.singleton_append, visit, hnode]
  exact congrArg (node :: ·) (hbelow fuel stack)

/-! ### Nodes that are written one after the other -/

/-- The nodes of a body go on with `nodes` from an index. -/
def WrittenAt (body : Body) (index : Nat) (nodes : List Node) : Prop := nodes <+: body.nodes.toList.drop index

theorem WrittenAt.head (h : body.WrittenAt index (node :: nodes)) : body.nodes[index]? = some node := by
  obtain ⟨rest, hrest⟩ := h
  rw [← Array.getElem?_toList, ← Nat.add_zero index, ← List.getElem?_drop, ← hrest]
  rfl

theorem WrittenAt.left (h : body.WrittenAt index (nodes ++ others)) : body.WrittenAt index nodes :=
  (List.prefix_append nodes others).trans h

theorem WrittenAt.right (h : body.WrittenAt index (nodes ++ others)) :
    body.WrittenAt (index + nodes.length) others := by
  obtain ⟨rest, hrest⟩ := h
  refine ⟨rest, ?_⟩
  rw [← List.drop_drop, ← hrest, List.append_assoc, List.drop_left]

theorem WrittenAt.tail (h : body.WrittenAt index (node :: nodes)) : body.WrittenAt (index + 1) nodes := by
  rw [← List.singleton_append] at h
  exact h.right

theorem WrittenAt.getElem? (h : body.WrittenAt index nodes) {k : Nat} (hk : k < nodes.length) :
    body.nodes[index + k]? = nodes[k]? := by
  obtain ⟨rest, hrest⟩ := h
  rw [← Array.getElem?_toList, ← List.getElem?_drop, ← hrest, List.getElem?_append_left hk]

/-! ### Trees -/

/-- Some nodes are those of trees below a node, each node before what is below it: the index of the first one, and
the indices of those that are right below. -/
inductive Forest : Option Nat → Nat → List Nat → List Node → Prop
  | nil {parent : Option Nat} {index : Nat} : Forest parent index [] []
  | cons {parent : Option Nat} {index : Nat} {node : Node} {below others : List Node} {indices : List Nat} :
      node.index = index → node.parent = parent → Forest (some index) (index + 1) node.children below →
      Forest parent (index + 1 + below.length) indices others →
      Forest parent index (index :: indices) (node :: (below ++ others))

/-- A node without children stands before others. -/
theorem Forest.leaf {parent : Option Nat} {indices : List Nat} (hindex : node.index = index)
    (hparent : node.parent = parent) (hchildren : node.children = []) (h : Forest parent (index + 1) indices others) :
    Forest parent index (index :: indices) (node :: others) := by
  rw [← List.nil_append others]
  exact .cons hindex hparent (hchildren ▸ .nil) h

theorem Pieces.forest {parent : Nat} {cursor after : Option Cursor} {trees : List Tree} {indices : List Nat}
    (h : Pieces lines parent index cursor trees indices nodes after) : Forest (some parent) index indices nodes := by
  induction h with
  | nil => exact .nil
  | line _ _ ih => exact .leaf rfl rfl rfl ih
  | word _ _ _ ih => exact .leaf rfl rfl rfl ih
  | part _ _ _ _ ihbelow ih => exact .cons rfl rfl ihbelow ih

theorem Placed.forest {offset : Nat} {parent : Option Nat} {inherited : Option (Nat × Nat)} {trees : List Tree}
    {indices : List Nat} (h : Placed lines offset parent index inherited trees indices nodes) :
    Forest parent index indices nodes := by
  induction h with
  | nil => exact .nil
  | text _ hpieces _ _ ih => exact .cons rfl rfl hpieces.forest ih
  | block _ _ _ _ ihbelow ih => exact .cons rfl rfl ihbelow ih

/-- The nodes of a tree are visited as they are written. -/
theorem Forest.visits {parent : Option Nat} {indices : List Nat} (h : Forest parent index indices nodes)
    (hwritten : body.WrittenAt index nodes) : body.Visits indices nodes := by
  induction h with
  | nil => exact visits_nil
  | cons _ _ _ _ ihbelow ih =>
    rw [← List.cons_append] at hwritten
    have hothers := hwritten.right
    rw [List.length_cons, Nat.add_comm _ 1, ← Nat.add_assoc] at hothers
    exact (Visits.below hwritten.left.head (ihbelow hwritten.left.tail)).append (ih hothers)

/-- The nodes of a body are those of one tree. -/
def IsTree (body : Body) : Prop := Forest none 0 [0] body.nodes.toList

/-- The body of a tree holds the nodes of one. -/
theorem isTree_of_ofTree {firstLine : Nat} {tree : Tree} (h : ofTree lines firstLine tree = .ok body) : body.IsTree :=
  (placed_of_ofTree h).forest

theorem visit_nil (body : Body) (fuel : Nat) : body.visit fuel [] = [] := by
  cases fuel <;> rfl

/-- All nodes of a body are visited, in the order in which they are written. -/
theorem IsTree.all_eq (h : body.IsTree) : body.all = body.nodes.toList := by
  have hwritten : body.WrittenAt 0 body.nodes.toList := List.prefix_rfl
  have hvisits := h.visits hwritten 0 []
  rw [Nat.add_zero, List.append_nil, visit_nil, List.append_nil, Array.length_toList] at hvisits
  exact hvisits

end Body

theorem Document.HasTree.isTree {document : Document} (h : document.HasTree) : document.body.IsTree := by
  obtain ⟨tree, htree⟩ := h
  exact Body.isTree_of_ofTree htree

/-- All nodes of a document are visited, in the order in which they are written. -/
theorem Document.HasTree.all_eq {document : Document} (h : document.HasTree) :
    document.body.all = document.body.nodes.toList := h.isTree.all_eq

end ProposalCheck
