import ProposalCheck.Document.Body
import ProposalCheck.Proofs.Markdown.Tree
import ProposalCheck.Proofs.Source.Rows

/-!
# Where the nodes of a body stand

A tree that fits a number of lines gives nodes that stand on as many lines of a document. If the document
has these lines, every node finds its place.

## Main definitions

* `Node.Stands`: the lines of a node, and the room for the content of a fence

## Main results

* `Body.stands_of_placeBlock`: the nodes of a tree stand on the lines that the tree fits
* `Body.exists_placeBlock`: a tree that fits a document has nodes
-/

namespace ProposalCheck

open Markdown

/-- Lines, where there are some, lie between two others. -/
def Lies (first last : Nat) (place : Option (Nat × Nat)) : Prop :=
  ∀ start stop, place = some (start, stop) → first ≤ start ∧ start ≤ stop ∧ stop ≤ last

theorem Lies.mono {first last first' last' : Nat} {place : Option (Nat × Nat)} (h : Lies first last place)
    (hfirst : first' ≤ first) (hlast : last ≤ last') : Lies first' last' place := by
  intro start stop heq
  obtain ⟨hstart, hle, hstop⟩ := h start stop heq
  exact ⟨Nat.le_trans hfirst hstart, hle, Nat.le_trans hstop hlast⟩

/-- The lines of a node lie between two others, and those of a fence have room for its content. -/
structure Node.Stands (first last : Nat) (node : Node) : Prop where
  lines : Lies first last node.lines
  fence : node.kind = .fence → ∃ start stop, node.lines = some (start, stop) ∧
    '\r' ∉ node.content.toList ∧ start + lineCount node.content.toList ≤ stop

namespace Body

variable {lines : Lines}

/-! ### Pieces of text -/

/-- Some nodes lie between two lines, and no fence is among them. -/
def Stand (first last : Nat) (nodes : List Node) : Prop :=
  ∀ node ∈ nodes, node.kind ≠ .fence ∧ Lies first last node.lines

theorem Stand.mono {first last first' last' : Nat} {nodes : List Node} (h : Stand first last nodes)
    (hfirst : first' ≤ first) (hlast : last ≤ last') : Stand first' last' nodes := fun node hnode =>
  ⟨(h node hnode).1, (h node hnode).2.mono hfirst hlast⟩

mutual

/-- The cursor goes past a piece of text, line by line, and the nodes of the piece stand where it goes. -/
theorem exists_placeInline (parent index : Nat) (place : Cursor) :
    ∀ tree : Tree, tree.All (·.kind ≠ .fence) → ∃ nodes after,
      placeInline lines parent index (some place) tree = (nodes, some after) ∧
        place.line ≤ after.line ∧ after.line ≤ place.line + tree.breaks ∧
        Stand place.line after.line nodes
  | .node element children, .node hkind hchildren => by
    rw [placeInline]
    split
    rename_i below indices span after hpieces
    have hbelow : ∃ last, after = some last ∧ place.line ≤ last.line ∧
        last.line ≤ place.line + (Markdown.Tree.node element children).breaks ∧
        Stand place.line last.line below := by
      split at hpieces
      case h_1 | h_2 =>
        rename_i hbreak
        cases hpieces
        exact ⟨_, rfl, Nat.le_succ _, by simp [Tree.breaks, Kind.isBreak, hbreak], by simp [Stand]⟩
      case h_3 | h_4 | h_5 =>
        -- wherever the text is found, it stands on one line
        have hline : ∃ last, after = some last ∧ last.line = place.line ∧ below = [] := by
          split_ifs at hpieces
          · cases hpieces
            exact ⟨_, rfl, rfl, rfl⟩
          · split at hpieces <;> cases hpieces <;> exact ⟨_, rfl, rfl, rfl⟩
        obtain ⟨last, rfl, hline, rfl⟩ := hline
        exact ⟨last, rfl, Nat.le_of_eq hline.symm, by omega, by simp [Stand]⟩
      case h_6 =>
        obtain ⟨inner, innerIndices, reached, hinner, hle, hbreaks, hstand⟩ :=
          exists_placeInlines index (index + 1) place children hchildren
        rw [hinner] at hpieces
        dsimp only at hpieces
        -- where the destination is found, the cursor goes on within its line
        have hline : ∃ last, after = some last ∧ last.line = reached.line ∧ below = inner := by
          split at hpieces
          case h_1 | h_2 =>
            rename_i hsome
            cases hsome
            split_ifs at hpieces
            · cases hpieces
              exact ⟨_, rfl, rfl, rfl⟩
            · split at hpieces <;> cases hpieces <;> exact ⟨_, rfl, rfl, rfl⟩
          case h_3 =>
            cases hpieces
            exact ⟨_, rfl, rfl, rfl⟩
        obtain ⟨last, rfl, hline, rfl⟩ := hline
        rw [← hline] at hle hbreaks hstand
        exact ⟨last, rfl, hle, by rw [Tree.breaks]; omega, hstand⟩
    obtain ⟨last, rfl, hle, hbreaks, hstand⟩ := hbelow
    refine ⟨_, last, rfl, hle, hbreaks, fun node hnode => ?_⟩
    rcases List.mem_cons.mp hnode with rfl | hnode
    · refine ⟨hkind, fun start stop heq => ?_⟩
      cases heq
      exact ⟨Nat.le_refl _, hle, Nat.le_refl _⟩
    · exact hstand node hnode

/-- The same for several pieces. -/
theorem exists_placeInlines (parent index : Nat) (place : Cursor) :
    ∀ trees : List Tree, (∀ tree ∈ trees, tree.All (·.kind ≠ .fence)) → ∃ nodes indices after,
      placeInlines lines parent index (some place) trees = (nodes, indices, some after) ∧
        place.line ≤ after.line ∧ after.line ≤ place.line + breaksIn trees ∧
        Stand place.line after.line nodes
  | [], _ => ⟨[], [], place, rfl, Nat.le_refl _, Nat.le_refl _, by simp [Stand]⟩
  | tree :: rest, h => by
    obtain ⟨nodes, after, hplace, hle, hbreaks, hstand⟩ :=
      exists_placeInline parent index place tree (h tree List.mem_cons_self)
    obtain ⟨others, indices, last, hrest, hle', hbreaks', hstand'⟩ :=
      exists_placeInlines parent (index + nodes.length) after rest fun other hother =>
        h other (List.mem_cons_of_mem _ hother)
    -- both pieces stand between the first line of the first one and the last line of the second
    refine ⟨nodes ++ others, index :: indices, last, ?_, Nat.le_trans hle hle', ?_, ?_⟩
    · rw [placeInlines, hplace]
      dsimp only
      rw [hrest]
    · rw [breaksIn_cons]
      omega
    · intro node hnode
      rcases List.mem_append.mp hnode with hnode | hnode
      · exact hstand.mono (Nat.le_refl _) hle' node hnode
      · exact hstand'.mono hle (Nat.le_refl _) node hnode

end

/-! ### Blocks -/

variable {count offset : Nat}

theorem lies_documentLines {range : LineRange} (hfirst : range.first < count) (hstop : range.stop ≤ count) :
    Lies (offset + 1) (count + offset) (some (documentLines offset range)) := by
  intro start stop heq
  cases heq
  omega

/-- The lines of a block: its own, or else those of the block around it. -/
def placeOf (offset : Nat) (inherited : Option (Nat × Nat)) (element : Element) : Option (Nat × Nat) :=
  if element.kind = .root then none else (element.lines.map (documentLines offset)).or inherited

theorem placeOf_of_lines {inherited : Option (Nat × Nat)} {element : Element} {range : LineRange}
    (hkind : element.kind ≠ .root) (hlines : element.lines = some range) :
    placeOf offset inherited element = some (documentLines offset range) := by
  rw [placeOf, if_neg hkind, hlines]
  rfl

theorem lies_placeOf {element : Element} {inherited : Option (Nat × Nat)} (hfits : element.Fits count)
    (hinherited : Lies (offset + 1) (count + offset) inherited) :
    Lies (offset + 1) (count + offset) (placeOf offset inherited element) := by
  rw [placeOf]
  split_ifs
  · intro start stop heq
    cases heq
  · cases hlines : element.lines with
    | none => simpa using hinherited
    | some range =>
      obtain ⟨hfirst, hstop⟩ := hfits.lines range hlines
      exact lies_documentLines hfirst hstop

/-- A node for an element. -/
def nodeOf (offset : Nat) (parent : Option Nat) (index : Nat) (inherited : Option (Nat × Nat))
    (element : Element) (indices : List Nat) (span : Option Span) : Node where
  index
  parent
  children := indices
  lines := placeOf offset inherited element
  span
  kind := element.kind
  content := element.content
  info := element.info
  markup := element.markup

theorem stands_nodeOf {parent : Option Nat} {index : Nat} {inherited : Option (Nat × Nat)} {element : Element}
    (hfits : element.Fits count) (hinherited : Lies (offset + 1) (count + offset) inherited)
    (indices : List Nat) (span : Option Span) :
    (nodeOf offset parent index inherited element indices span).Stands (offset + 1) (count + offset) where
  lines := lies_placeOf hfits hinherited
  fence hkind := by
    obtain ⟨range, hlines, hreturn, hroom⟩ := hfits.fence hkind
    refine ⟨_, _, placeOf_of_lines (by rw [show element.kind = _ from hkind]; decide) hlines, hreturn, ?_⟩
    show range.first + offset + 1 + lineCount element.content.toList ≤ _
    omega

/-- The nodes of a block of text are that of the block and those of the pieces in it, which stand on the
lines of the block. -/
theorem exists_placeBlock_text {element : Element} {pieces : List Tree} (hkind : element.kind = .inline)
    (hfits : element.Fits count) (hbreaks : breaksIn pieces ≤ element.content.toList.count '\n')
    (hpieces : ∀ piece ∈ pieces, piece.All (·.kind ≠ .fence)) (parent : Option Nat) (index : Nat)
    (inherited : Option (Nat × Nat)) :
    ∃ below indices,
      placeBlock lines offset parent index inherited (.node element pieces) =
        .ok (nodeOf offset parent index inherited element indices none :: below) ∧
      Stand (offset + 1) (count + offset) below := by
  obtain ⟨range, hlines, hroom⟩ := hfits.text hkind
  obtain ⟨hfirst, hstop⟩ := hfits.lines range hlines
  have hplace := @placeOf_of_lines offset inherited element range (by rw [hkind]; decide) hlines
  -- the cursor starts on the first line of the block and goes on one line for each break, of which there are
  -- not too many
  obtain ⟨nodes, indices, after, hinlines, hle, hlast, hstand⟩ :=
    @exists_placeInlines lines index (index + 1) ⟨range.first + offset + 1, 0⟩ pieces hpieces
  refine ⟨nodes, indices, ?_, hstand.mono (by dsimp only; omega) (by dsimp only at hlast; omega)⟩
  have hspan : spanOf lines (placeOf offset inherited element) element.kind pieces = .ok none := by
    rw [hplace, hkind]
    rfl
  rw [placeBlock]
  dsimp only
  rw [if_pos hkind, ← placeOf, hspan, nodeOf, hplace]
  have hcursor : (some (documentLines offset range)).map (fun place => ({ line := place.1 } : Cursor)) =
      some ⟨range.first + offset + 1, 0⟩ := rfl
  rw [hcursor, hinlines]
  rfl

/-- Any other block has the nodes of the blocks in it below its own. -/
theorem placeBlock_eq {element : Element} {children : List Tree} (hkind : element.kind ≠ .inline)
    (parent : Option Nat) (index : Nat) (inherited : Option (Nat × Nat)) :
    placeBlock lines offset parent index inherited (.node element children) = do
      let (below, indices) ←
        placeBlocks lines offset index (index + 1) (placeOf offset inherited element) children
      let span ← spanOf lines (placeOf offset inherited element) element.kind children
      return nodeOf offset parent index inherited element indices span :: below := by
  rw [placeBlock]
  dsimp only
  rw [if_neg hkind]
  rfl

mutual

/-- The nodes of a tree stand on the lines that the tree fits. -/
theorem stands_of_placeBlock (parent : Option Nat) (index : Nat) (inherited : Option (Nat × Nat))
    (hinherited : Lies (offset + 1) (count + offset) inherited) :
    ∀ tree : Tree, tree.Fits count → ∀ nodes,
      placeBlock lines offset parent index inherited tree = .ok nodes →
        ∀ node ∈ nodes, node.Stands (offset + 1) (count + offset)
  | .node element pieces, .text hkind hfits hbreaks hpieces, nodes, h => by
    obtain ⟨below, indices, heq, hstand⟩ :=
      exists_placeBlock_text hkind hfits hbreaks hpieces parent index inherited
    obtain rfl := Except.ok.inj (h.symm.trans heq)
    intro node hnode
    rcases List.mem_cons.mp hnode with rfl | hnode
    · exact stands_nodeOf hfits hinherited _ _
    · exact ⟨(hstand node hnode).2, fun hfence => absurd hfence (hstand node hnode).1⟩
  | .node element children, .block hkind hfits hchildren, nodes, h => by
    rw [placeBlock_eq hkind] at h
    obtain ⟨⟨below, indices⟩, hbelow, h⟩ := exists_of_bind_eq_ok h
    obtain ⟨span, -, h⟩ := exists_of_bind_eq_ok h
    obtain rfl := Except.ok.inj h
    intro node hnode
    rcases List.mem_cons.mp hnode with rfl | hnode
    · exact stands_nodeOf hfits hinherited _ _
    · exact stands_of_placeBlocks _ _ _ (lies_placeOf hfits hinherited) children hchildren below indices
        hbelow node hnode

/-- The same for several trees. -/
theorem stands_of_placeBlocks (parent index : Nat) (inherited : Option (Nat × Nat))
    (hinherited : Lies (offset + 1) (count + offset) inherited) :
    ∀ trees : List Tree, (∀ tree ∈ trees, tree.Fits count) → ∀ nodes indices,
      placeBlocks lines offset parent index inherited trees = .ok (nodes, indices) →
        ∀ node ∈ nodes, node.Stands (offset + 1) (count + offset)
  | [], _, nodes, indices, h => by
    cases h
    simp
  | tree :: rest, hfits, nodes, indices, h => by
    rw [placeBlocks] at h
    obtain ⟨first, hfirst, h⟩ := exists_of_bind_eq_ok h
    obtain ⟨⟨others, more⟩, hothers, h⟩ := exists_of_bind_eq_ok h
    cases h
    intro node hnode
    rcases List.mem_append.mp hnode with hnode | hnode
    · exact stands_of_placeBlock _ _ _ hinherited tree (hfits tree List.mem_cons_self) first hfirst node hnode
    · exact stands_of_placeBlocks _ _ _ hinherited rest (fun other hother =>
        hfits other (List.mem_cons_of_mem _ hother)) others more hothers node hnode

end

/-! ### Documents with enough lines -/

theorem exists_lineSpan {line : Nat} (hfirst : 1 ≤ line) (hlast : line ≤ lines.count) :
    ∃ span, lines.lineSpan line = .ok span := by
  have hlt : line - 1 < lines.rowList.length := by
    rw [Lines.length_rowList]
    omega
  have hspan := Lines.lineSpan_of_getElem? (List.getElem?_eq_getElem hlt)
  rw [show ((line - 1 : Nat) : Int) + 1 = line by omega] at hspan
  exact ⟨_, hspan⟩

theorem exists_blockSpan {first last : Nat} (hfirst : 1 ≤ first) (hle : first ≤ last)
    (hlast : last ≤ lines.count) : ∃ span, blockSpan lines first last = .ok span := by
  obtain ⟨start, hstart⟩ := exists_lineSpan hfirst (Nat.le_trans hle hlast)
  obtain ⟨stop, hstop⟩ := exists_lineSpan (Nat.le_trans hfirst hle) hlast
  refine ⟨⟨start.start, stop.stop⟩, ?_⟩
  rw [blockSpan, hstart, show min (last : Int) lines.count = last by omega, hstop]
  rfl

theorem exists_spanOf {place : Option (Nat × Nat)} (hplace : Lies (offset + 1) (count + offset) place)
    (hcount : count + offset ≤ lines.count) (kind : Kind) (children : List Tree) :
    ∃ span, spanOf lines place kind children = .ok span := by
  unfold spanOf
  split
  case h_1 =>
    dsimp only
    split_ifs <;> exact ⟨_, rfl⟩
  case h_2 | h_3 | h_4 | h_5 =>
    obtain ⟨hfirst, hle, hlast⟩ := hplace _ _ rfl
    obtain ⟨span, hspan⟩ := @exists_blockSpan lines _ _ (by omega) hle (by omega)
    rw [hspan]
    exact ⟨_, rfl⟩
  case h_6 => exact ⟨_, rfl⟩

mutual

/-- A tree that fits a document has nodes in it. -/
theorem exists_placeBlock (hcount : count + offset ≤ lines.count) (parent : Option Nat) (index : Nat)
    (inherited : Option (Nat × Nat)) (hinherited : Lies (offset + 1) (count + offset) inherited) :
    ∀ tree : Tree, tree.Fits count →
      ∃ nodes, placeBlock lines offset parent index inherited tree = .ok nodes
  | .node element pieces, .text hkind hfits hbreaks hpieces => by
    obtain ⟨below, indices, heq, -⟩ :=
      exists_placeBlock_text hkind hfits hbreaks hpieces parent index inherited
    exact ⟨_, heq⟩
  | .node element children, .block hkind hfits hchildren => by
    have hplace := lies_placeOf hfits hinherited
    obtain ⟨below, indices, hbelow⟩ :=
      exists_placeBlocks hcount index (index + 1) _ hplace children hchildren
    obtain ⟨span, hspan⟩ := exists_spanOf hplace hcount element.kind children
    rw [placeBlock_eq hkind, hbelow]
    exact ⟨_, by rw [hspan]; rfl⟩

/-- The same for several trees. -/
theorem exists_placeBlocks (hcount : count + offset ≤ lines.count) (parent index : Nat)
    (inherited : Option (Nat × Nat)) (hinherited : Lies (offset + 1) (count + offset) inherited) :
    ∀ trees : List Tree, (∀ tree ∈ trees, tree.Fits count) →
      ∃ nodes indices, placeBlocks lines offset parent index inherited trees = .ok (nodes, indices)
  | [], _ => ⟨[], [], rfl⟩
  | tree :: rest, hfits => by
    obtain ⟨nodes, hnodes⟩ :=
      exists_placeBlock hcount (some parent) index inherited hinherited tree (hfits tree List.mem_cons_self)
    obtain ⟨others, indices, hothers⟩ :=
      exists_placeBlocks hcount parent (index + nodes.length) inherited hinherited rest fun other hother =>
        hfits other (List.mem_cons_of_mem _ hother)
    refine ⟨nodes ++ others, index :: indices, ?_⟩
    rw [placeBlocks, hnodes]
    dsimp only [bind, Except.bind]
    rw [hothers]
    rfl

end

/-! ### Going through a body -/

theorem mem_nodes_of_mem_visit {body : Body} {node : Node} {fuel : Nat} {stack : List Nat}
    (h : node ∈ body.visit fuel stack) : node ∈ body.nodes := by
  induction fuel generalizing stack with
  | zero => simp [visit] at h
  | succ fuel ih =>
    cases stack with
    | nil => simp [visit] at h
    | cons index rest =>
      rw [visit] at h
      split at h
      · rename_i found hfound
        rcases List.mem_cons.mp h with rfl | h
        · exact Array.mem_of_getElem? hfound
        · exact ih h
      · exact ih h

theorem mem_nodes_of_mem_all {body : Body} {node : Node} (h : node ∈ body.all) : node ∈ body.nodes :=
  mem_nodes_of_mem_visit h

end Body

end ProposalCheck
