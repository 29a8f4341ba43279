import Mathlib.Data.List.Forall2
import Mathlib.Logic.Relation
import ProposalCheck.Proofs.Document.Order
import ProposalCheck.Proofs.Markdown.Content

/-!
# Nodes are numbered in order

Each node of a body is written before what is below it, and its index is the number of nodes before it. So a node and
what is below it is a run of the nodes, parents come before their children, and the way up from any node ends at the
first one.

## Main definitions

* `Body.IsParent`, `Body.IsBelow`: a node right below another, and one anywhere below another or the same
* `Body.IsNumbered`: the indices of a body number its nodes in order
* `Node.Shows`: a node with the kind and the text of an element

## Main results

* `Body.IsTree.exists_isRun`: a node and what is below it is a run of the nodes
* `Body.numbered_ofTree`: a body is numbered in order, with one node for each element of its tree
-/

namespace ProposalCheck

open Markdown

namespace Body

variable {body : Body} {lines : Lines} {index : Nat} {parent : Option Nat} {indices : List Nat} {node : Node}
  {nodes : List Node}

/-- A node whose parent is another. -/
def IsParent (body : Body) (parent child : Nat) : Prop :=
  ∃ node, body.nodes[child]? = some node ∧ node.parent = some parent

/-- A node that is another or anywhere below it. -/
def IsBelow (body : Body) : Nat → Nat → Prop := Relation.ReflTransGen body.IsParent

/-! ### Forests -/

namespace Forest

/-- The indices of the nodes count up from the first one. -/
theorem map_index (h : Forest parent index indices nodes) : nodes.map Node.index = List.range' index nodes.length := by
  induction h with
  | nil => rfl
  | cons hindex _ _ _ ihbelow ih =>
    rw [List.map_cons, List.map_append, hindex, ihbelow, ih, List.range'_append_1, List.length_cons, List.length_append]
    rfl

theorem index_mem (h : Forest parent index indices nodes) (hnode : node ∈ nodes) :
    index ≤ node.index ∧ node.index < index + nodes.length := by
  have hmem : node.index ∈ nodes.map Node.index := List.mem_map_of_mem hnode
  rwa [h.map_index, List.mem_range'_1] at hmem

/-- The nodes right below a node are among the nodes, in ascending order. -/
theorem indices_spec (h : Forest parent index indices nodes) :
    indices.Pairwise (· < ·) ∧ ∀ i ∈ indices, index ≤ i ∧ i < index + nodes.length := by
  induction h with
  | nil => exact ⟨.nil, by simp⟩
  | cons _ _ _ _ _ ih =>
    obtain ⟨hsorted, hbounds⟩ := ih
    rw [List.length_cons, List.length_append]
    refine ⟨List.pairwise_cons.mpr ⟨fun i hi => ?_, hsorted⟩, List.forall_mem_cons.mpr ⟨by omega, fun i hi => ?_⟩⟩
    all_goals
      have := hbounds i hi
      omega

/-- What is below a node is written right behind it. -/
theorem exists_below (h : Forest parent index indices nodes) (hnode : node ∈ nodes) :
    ∃ front below back, nodes = front ++ (node :: below ++ back) ∧ node.index = index + front.length ∧
      Forest (some node.index) (node.index + 1) node.children below := by
  induction h with
  | nil => cases hnode
  | @cons _ index first inside others _ hindex _ hbelow _ ihbelow ih =>
    -- the node is the first one, or below it, or behind all that is below it
    rcases List.mem_cons.mp hnode with rfl | hnode
    · refine ⟨[], inside, others, rfl, hindex, ?_⟩
      rw [hindex]
      exact hbelow
    · rcases List.mem_append.mp hnode with hnode | hnode
      · obtain ⟨front, below, back, rfl, hnodeIndex, hforest⟩ := ihbelow hnode
        refine ⟨first :: front, below, back ++ others, ?_, ?_, hforest⟩
        · simp only [List.cons_append, List.append_assoc]
        · rw [hnodeIndex, List.length_cons]
          omega
      · obtain ⟨front, below, back, rfl, hnodeIndex, hforest⟩ := ih hnode
        refine ⟨first :: (inside ++ front), below, back, ?_, ?_, hforest⟩
        · simp only [List.cons_append, List.append_assoc]
        · rw [hnodeIndex, List.length_cons, List.length_append]
          omega

/-- What is listed below a node is among the nodes. -/
theorem lt_of_mem_children (h : Forest parent index indices nodes) (hnode : node ∈ nodes) {child : Nat}
    (hchild : child ∈ node.children) : child < index + nodes.length := by
  obtain ⟨front, below, back, rfl, hindex, hforest⟩ := h.exists_below hnode
  have := (hforest.indices_spec.2 child hchild).2
  simp only [List.length_append, List.length_cons]
  omega

/-- The nodes with the indices right below the parent have it as their parent. -/
theorem exists_of_mem_indices (h : Forest parent index indices nodes) {i : Nat} (hi : i ∈ indices) :
    ∃ node ∈ nodes, node.index = i ∧ node.parent = parent := by
  induction h with
  | nil => cases hi
  | cons hindex hparent _ _ _ ih =>
    rcases List.mem_cons.mp hi with rfl | hi
    · exact ⟨_, List.mem_cons_self, hindex, hparent⟩
    · obtain ⟨node, hnode, hspec⟩ := ih hi
      exact ⟨node, List.mem_cons_of_mem _ (List.mem_append_right _ hnode), hspec⟩

/-- A node is right below the parent, or else below another of the nodes, which lists it and comes before it. -/
theorem parent_cases (h : Forest parent index indices nodes) (hnode : node ∈ nodes) :
    (node.parent = parent ∧ node.index ∈ indices) ∨
      ∃ holder ∈ nodes, node.parent = some holder.index ∧ node.index ∈ holder.children ∧
        holder.index < node.index := by
  induction h with
  | nil => cases hnode
  | @cons _ _ first _ _ _ hindex hparent hbelow _ ihbelow ih =>
    rcases List.mem_cons.mp hnode with rfl | hnode
    · exact .inl ⟨hparent, List.mem_cons.mpr (.inl hindex)⟩
    · rcases List.mem_append.mp hnode with hnode | hnode
      · refine .inr ?_
        rcases ihbelow hnode with ⟨hfirst, hmem⟩ | ⟨holder, hholder, hspec⟩
        · have := (hbelow.indices_spec.2 _ hmem).1
          exact ⟨first, List.mem_cons_self, hindex ▸ hfirst, hmem, by omega⟩
        · exact ⟨holder, List.mem_cons_of_mem _ (List.mem_append_left _ hholder), hspec⟩
      · rcases ih hnode with ⟨hfirst, hmem⟩ | ⟨holder, hholder, hspec⟩
        · exact .inl ⟨hfirst, List.mem_cons_of_mem _ hmem⟩
        · exact .inr ⟨holder, List.mem_cons_of_mem _ (List.mem_append_right _ hholder), hspec⟩

/-- All nodes that are written below a node are below it. -/
theorem isBelow {holder : Nat} (h : Forest (some holder) index indices nodes) (hwritten : body.WrittenAt index nodes)
    (hnode : node ∈ nodes) : body.IsBelow holder node.index := by
  generalize hsome : some holder = parent at h
  induction h generalizing holder with
  | nil => cases hnode
  | @cons _ index first below _ _ hindex hparent _ _ ihbelow ih =>
    rw [← List.cons_append] at hwritten
    have hstep : body.IsParent holder index := ⟨first, hwritten.left.head, hsome ▸ hparent⟩
    rcases List.mem_cons.mp hnode with rfl | hnode
    · exact .single (hindex ▸ hstep)
    · rcases List.mem_append.mp hnode with hnode | hnode
      · exact .head hstep (ihbelow hwritten.left.tail hnode rfl)
      · have hothers := hwritten.right
        rw [List.length_cons, Nat.add_comm _ 1, ← Nat.add_assoc] at hothers
        exact ih hothers hnode hsome

end Forest

/-! ### Bodies -/

namespace IsTree

/-- Each node stands at its index. -/
theorem getElem?_iff (h : body.IsTree) : body.nodes[index]? = some node ↔ node ∈ body.nodes ∧ node.index = index := by
  have hat : ∀ {i : Nat} {other : Node}, body.nodes[i]? = some other → other.index = i := by
    intro i other hother
    have hindex := congrArg (·[i]?) h.map_index
    simp only [List.getElem?_map, Array.getElem?_toList, hother, Option.map_some] at hindex
    rw [List.getElem?_range' (by simpa using (Array.getElem?_eq_some_iff.mp hother).1)] at hindex
    simpa using hindex
  constructor
  · exact fun hnode => ⟨Array.mem_of_getElem? hnode, hat hnode⟩
  · rintro ⟨hmem, rfl⟩
    obtain ⟨i, hi⟩ := Array.getElem?_of_mem hmem
    rwa [hat hi]

theorem getElem?_index (h : body.IsTree) (hnode : node ∈ body.nodes) : body.nodes[node.index]? = some node :=
  h.getElem?_iff.mpr ⟨hnode, rfl⟩

theorem eq_of_index_eq (h : body.IsTree) {other : Node} (hnode : node ∈ body.nodes) (hother : other ∈ body.nodes)
    (heq : node.index = other.index) : node = other :=
  Option.some.inj ((h.getElem?_index hnode).symm.trans (heq ▸ h.getElem?_index hother))

/-- The first node has no parent, and every other node is listed by a node before it. -/
theorem parent_cases (h : body.IsTree) (hnode : node ∈ body.nodes) :
    (node.parent = none ∧ node.index = 0) ∨
      ∃ holder ∈ body.nodes, node.parent = some holder.index ∧ node.index ∈ holder.children ∧
        holder.index < node.index := by
  rcases Forest.parent_cases h (Array.mem_toList_iff.mpr hnode) with ⟨hparent, hindex⟩ | ⟨holder, hholder, hspec⟩
  · exact .inl ⟨hparent, List.mem_singleton.mp hindex⟩
  · exact .inr ⟨holder, Array.mem_toList_iff.mp hholder, hspec⟩

theorem parent_eq_none_iff (h : body.IsTree) (hnode : node ∈ body.nodes) : node.parent = none ↔ node.index = 0 := by
  rcases h.parent_cases hnode with ⟨hparent, hindex⟩ | ⟨holder, -, hparent, -, hlt⟩
  · simp [hparent, hindex]
  · simp only [hparent, reduceCtorEq, false_iff]
    omega

theorem parent_lt (h : body.IsTree) {child : Nat} (hparent : body.IsParent index child) : index < child := by
  obtain ⟨node, hnode, hparent⟩ := hparent
  obtain ⟨hmem, rfl⟩ := h.getElem?_iff.mp hnode
  rcases h.parent_cases hmem with ⟨hnone, -⟩ | ⟨holder, -, hholder, -, hlt⟩
  · rw [hnone] at hparent
    cases hparent
  · rw [hholder] at hparent
    cases hparent
    exact hlt

/-- The way up from a node ends. -/
theorem wellFounded_isParent (h : body.IsTree) : WellFounded body.IsParent :=
  Subrelation.wf h.parent_lt Nat.lt_wfRel.wf

/-- What is below a node is written right behind it. -/
theorem exists_below (h : body.IsTree) (hnode : node ∈ body.nodes) :
    ∃ below, body.WrittenAt node.index (node :: below) ∧
      Forest (some node.index) (node.index + 1) node.children below := by
  obtain ⟨front, below, back, hnodes, hindex, hforest⟩ := Forest.exists_below h (Array.mem_toList_iff.mpr hnode)
  refine ⟨below, ⟨back, ?_⟩, hforest⟩
  rw [hnodes, hindex, Nat.zero_add, List.drop_left]

/-- The children of a node are the nodes whose parent it is. -/
theorem mem_children_iff (h : body.IsTree) (hnode : node ∈ body.nodes) {child : Nat} :
    child ∈ node.children ↔ body.IsParent node.index child := by
  constructor
  · intro hchild
    obtain ⟨below, hwritten, hforest⟩ := h.exists_below hnode
    -- the children of a node are the roots of the forest that is written behind it
    obtain ⟨other, hother, rfl, hparent⟩ := hforest.exists_of_mem_indices hchild
    have hmem : other ∈ body.nodes := by
      obtain ⟨back, hback⟩ := hwritten.tail
      refine Array.mem_toList_iff.mp (List.mem_of_mem_drop (i := node.index + 1) ?_)
      rw [← hback]
      exact List.mem_append_left _ hother
    exact ⟨other, h.getElem?_index hmem, hparent⟩
  · rintro ⟨other, hother, hparent⟩
    obtain ⟨hmem, rfl⟩ := h.getElem?_iff.mp hother
    rcases h.parent_cases hmem with ⟨hnone, -⟩ | ⟨holder, hholder, hsome, hchild, -⟩
    · rw [hnone] at hparent
      cases hparent
    · -- what lists the child has the index of its parent, so it is the parent
      have hindex : holder.index = node.index := Option.some.inj (hsome.symm.trans hparent)
      rwa [h.eq_of_index_eq hholder hnode hindex] at hchild

/-- What is below a node are the nodes that are written for it behind the node. -/
theorem isBelow_iff (h : body.IsTree) {below : List Node} (hwritten : body.WrittenAt node.index (node :: below))
    (hforest : Forest (some node.index) (node.index + 1) node.children below) (other : Nat) :
    body.IsBelow node.index other ↔ node.index ≤ other ∧ other < node.index + (node :: below).length := by
  have htree : Forest node.parent node.index [node.index] (node :: below) := by
    rw [← List.append_nil below]
    exact .cons rfl rfl hforest .nil
  have hmem : ∀ {other : Nat}, node.index ≤ other → other < node.index + (node :: below).length →
      ∃ found ∈ node :: below, body.nodes[other]? = some found := by
    intro other hle hlt
    obtain ⟨k, rfl⟩ := Nat.exists_eq_add_of_le hle
    have hk : k < (node :: below).length := by omega
    exact ⟨(node :: below)[k], List.getElem_mem hk, (hwritten.getElem? hk).trans (List.getElem?_eq_getElem hk)⟩
  refine ⟨fun hbelow => ?_, fun ⟨hle, hlt⟩ => ?_⟩
  · -- a step down leads from a node of the run to another of its nodes
    induction hbelow with
    | refl => exact ⟨Nat.le_refl _, by rw [List.length_cons]; omega⟩
    | @tail holder child _ hstep ih =>
      obtain ⟨found, hfound, hat⟩ := hmem ih.1 ih.2
      obtain ⟨hinside, rfl⟩ := h.getElem?_iff.mp hat
      have hchild := htree.lt_of_mem_children hfound ((h.mem_children_iff hinside).mpr hstep)
      exact ⟨Nat.le_trans ih.1 (Nat.le_of_lt (h.parent_lt hstep)), hchild⟩
  · -- a node of the run is the first one, or has been written for it
    obtain ⟨found, hfound, hat⟩ := hmem hle hlt
    obtain ⟨-, rfl⟩ := h.getElem?_iff.mp hat
    rcases List.mem_cons.mp hfound with rfl | hfound
    · exact .refl
    · exact hforest.isBelow hwritten.tail hfound

end IsTree

/-- A node and what is below it are a number of nodes in a row. A visit comes to each of them once and goes on with
what is left of the stack, so it needs no more steps than there are nodes in the run. -/
structure IsRun (body : Body) (index count : Nat) : Prop where
  le_size : index + count ≤ body.nodes.size
  isBelow_iff : ∀ other, body.IsBelow index other ↔ index ≤ other ∧ other < index + count
  descendants_eq : body.descendants index = (body.nodes.toList.drop index).take count
  visit_eq : ∀ fuel stack, body.visit (count + fuel) (index :: stack) = body.descendants index ++ body.visit fuel stack

theorem WrittenAt.le_size (h : body.WrittenAt index nodes) (hnodes : nodes ≠ []) :
    index + nodes.length ≤ body.nodes.size := by
  have hle := List.IsPrefix.length_le h
  have hpos := List.length_pos_iff.mpr hnodes
  rw [List.length_drop, @Array.length_toList _ body.nodes] at hle
  omega

theorem Visits.descendants_eq (h : body.Visits [index] nodes) (hle : nodes.length ≤ body.nodes.size) :
    body.descendants index = nodes := by
  obtain ⟨fuel, hfuel⟩ := Nat.exists_eq_add_of_le hle
  have hvisit := h fuel []
  rwa [List.append_nil, visit_nil, List.append_nil, ← hfuel] at hvisit

theorem IsTree.exists_isRun (h : body.IsTree) (hnode : node ∈ body.nodes) : ∃ count, body.IsRun node.index count := by
  obtain ⟨below, hwritten, hforest⟩ := h.exists_below hnode
  have hvisits := Visits.below hwritten.head (hforest.visits hwritten.tail)
  have hle := hwritten.le_size (List.cons_ne_nil _ _)
  have hdescendants := hvisits.descendants_eq (by omega)
  refine ⟨(node :: below).length, hle, h.isBelow_iff hwritten hforest, ?_, fun fuel stack => ?_⟩
  · rw [hdescendants]
    exact List.prefix_iff_eq_take.mp hwritten
  · rw [hdescendants]
    exact hvisits fuel stack

/-- The nodes of a body are numbered in order. -/
structure IsNumbered (body : Body) : Prop where
  index : ∀ i (node : Node), body.nodes[i]? = some node → node.index = i
  root : ∀ node ∈ body.nodes, node.parent = none ↔ node.index = 0
  parent_lt : ∀ parent child, body.IsParent parent child → parent < child
  increasing : ∀ node ∈ body.nodes, node.children.Pairwise (· < ·)
  children : ∀ node ∈ body.nodes, ∀ child, child ∈ node.children ↔ body.IsParent node.index child
  run : ∀ node ∈ body.nodes, ∃ count, body.IsRun node.index count
  all : body.all = body.nodes.toList
  ends : WellFounded body.IsParent

theorem IsTree.isNumbered (h : body.IsTree) : body.IsNumbered where
  index _ _ hnode := (h.getElem?_iff.mp hnode).2
  root _ hnode := h.parent_eq_none_iff hnode
  parent_lt _ _ := h.parent_lt
  increasing node hnode := by
    obtain ⟨below, -, hforest⟩ := h.exists_below hnode
    exact hforest.indices_spec.1
  children _ hnode _ := h.mem_children_iff hnode
  run _ hnode := h.exists_isRun hnode
  all := h.all_eq
  ends := h.wellFounded_isParent

end Body

/-! ### One node for each element -/

/-- A node has the kind and the text of an element. -/
structure Node.Shows (node : Node) (element : Element) : Prop where
  kind : node.kind = element.kind
  content : node.content = element.content
  markup : node.markup = element.markup

namespace Body

variable {lines : Lines} {trees : List Tree} {indices : List Nat} {nodes : List Node}

theorem Pieces.shows {parent index : Nat} {cursor after : Option Cursor}
    (h : Pieces lines parent index cursor trees indices nodes after) (hproper : ∀ tree ∈ trees, tree.IsProper) :
    List.Forall₂ Node.Shows nodes (elementsIn trees) := by
  induction h with
  | nil => exact .nil
  | line hkind _ ih =>
    rw [List.forall_mem_cons] at hproper
    obtain ⟨hempty, -⟩ := hproper.1
    obtain rfl := hempty (by simp [Kind.isPlain, hkind])
    exact .cons ⟨rfl, rfl, rfl⟩ (ih hproper.2)
  | word hkind _ _ ih =>
    rw [List.forall_mem_cons] at hproper
    obtain ⟨hempty, -⟩ := hproper.1
    obtain rfl := hempty (by simp [Kind.isPlain, hkind])
    exact .cons ⟨rfl, rfl, rfl⟩ (ih hproper.2)
  | part _ _ _ _ ihbelow ih =>
    rw [List.forall_mem_cons] at hproper
    obtain ⟨-, hchildren⟩ := hproper.1
    exact .cons ⟨rfl, rfl, rfl⟩ (List.rel_append (ihbelow hchildren) (ih hproper.2))

theorem Placed.shows {offset index : Nat} {parent : Option Nat} {inherited : Option (Nat × Nat)}
    (h : Placed lines offset parent index inherited trees indices nodes) (hproper : ∀ tree ∈ trees, tree.IsProper) :
    List.Forall₂ Node.Shows nodes (elementsIn trees) := by
  induction h with
  | nil => exact .nil
  | text _ hpieces _ _ ih =>
    rw [List.forall_mem_cons] at hproper
    obtain ⟨-, hchildren⟩ := hproper.1
    exact .cons ⟨rfl, rfl, rfl⟩ (List.rel_append (hpieces.shows hchildren) (ih hproper.2))
  | block _ _ _ _ ihbelow ih =>
    rw [List.forall_mem_cons] at hproper
    obtain ⟨-, hchildren⟩ := hproper.1
    exact .cons ⟨rfl, rfl, rfl⟩ (List.rel_append (ihbelow hchildren) (ih hproper.2))

/-- The nodes of a body are numbered in order, and there is one for each element of the tree if only pieces that may
hold others do. All trees of Markdown texts are such. -/
theorem numbered_ofTree :
    (∀ lines firstLine tree body, ofTree lines firstLine tree = .ok body → body.IsNumbered ∧
      (tree.IsProper → List.Forall₂ Node.Shows body.nodes.toList tree.elements)) ∧
    ∀ text, (Tree.ofMarkdown text).IsProper := by
  refine ⟨fun lines firstLine tree body h => ⟨(isTree_of_ofTree h).isNumbered, fun hproper => ?_⟩,
    fun text => (Tree.isRead_ofMarkdown text).isProper⟩
  have hshows := (placed_of_ofTree h).shows (List.forall_mem_singleton.mpr hproper)
  rwa [elementsIn, elementsIn, List.append_nil] at hshows

/-- A paragraph with a link in it. -/
theorem numbered_ofTree_link :
    ∃ body, ofTree (Lines.ofString "a [b](c)") 1 (Tree.ofMarkdown "a [b](c)") = .ok body ∧ body.nodes.size = 6 ∧
      body.IsNumbered ∧ List.Forall₂ Node.Shows body.nodes.toList (Tree.ofMarkdown "a [b](c)").elements := by
  have hsize : (ofTree (Lines.ofString "a [b](c)") 1 (Tree.ofMarkdown "a [b](c)")).map (·.nodes.size) = .ok 6 := by
    decide +kernel
  obtain ⟨body, hbody, hnodes⟩ := exists_of_map_eq_ok hsize
  obtain ⟨hnumbered, hshows⟩ := numbered_ofTree.1 _ _ _ _ hbody
  exact ⟨body, hbody, hnodes, hnumbered, hshows (numbered_ofTree.2 _)⟩

end Body

end ProposalCheck
