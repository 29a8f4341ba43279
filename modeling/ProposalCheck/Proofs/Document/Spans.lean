import ProposalCheck.Proofs.Document.Load
import ProposalCheck.Proofs.Document.Placed
import ProposalCheck.Proofs.Source.Slice
import ProposalCheck.Proofs.Text.Split

/-!
# Where nodes stand in a document

A piece of text is looked for in its line, from left to right. Where it is found, the document holds exactly
its characters. A block that is not read as text has the bytes of its lines. So the span of every node lies in
the document, between characters.

## Main definitions

* `Node.IsShown`: the span of a node lies in the document, and a piece of text stands there
* `Node.IsHeld`: a word stands on its first line
* `Row.Holds`: a span of the document lies in a row and holds some text
* `linesText`: the text of several lines
* `Document.HasTree`: the nodes of a document are those of a tree

## Main results

* `Body.locate?_holds`, `Body.locate?_covers`: text that is found stands where it is found
* `Body.blockSpan_covers`: a block stands for the text of its lines
* `Body.isShown_of_ofTree`, `Document.isShown_of_mem`: every node is shown
-/

namespace ProposalCheck

open Markdown

/-- The span of a node begins and ends between characters of the source, and a piece of text stands there. -/
structure Node.IsShown (lines : Lines) (node : Node) : Prop where
  isWithin : ∀ span, node.span = some span → span.IsWithin lines.source
  covers : node.kind = .text → ∀ span, node.span = some span →
    span.Covers lines.source.toList node.content.toList

/-- A span of a document lies in the text of a row and holds exactly some text. -/
def Row.Holds (row : Row) (span : Span) (text : String) : Prop :=
  ∃ range : Span, range.Covers row.text.toList text.toList ∧
    span = ⟨row.start + range.start, row.start + range.stop⟩

/-- If a word has a span, it stands there, on its first line. -/
def Node.IsHeld (lines : Lines) (node : Node) : Prop :=
  node.kind.isWord → ∀ span, node.span = some span → ∃ first last row, node.lines = some (first, last) ∧
    lines.row (first : Nat) = .ok row ∧ row.Holds span node.content

/-- What stands in a row of a document stands in the document. -/
theorem Row.Holds.covers {lines : Lines} {line : Nat} {row : Row} {span : Span} {text : String}
    (h : row.Holds span text) (hrow : lines.row line = .ok row) : span.Covers lines.source.toList text.toList := by
  obtain ⟨_, ⟨front, back, htext, rfl⟩, rfl⟩ := h
  obtain ⟨k, -, hk⟩ := Lines.exists_of_row hrow
  obtain ⟨before, rest, hsource, hspan⟩ := Lines.row_covers hk
  have hstart : row.start = byteLength before := congrArg Span.start hspan
  refine ⟨before ++ front, back ++ rest, ?_, ?_⟩
  · rw [hsource, htext]
    simp only [List.append_assoc]
  · rw [byteLength_append, hstart, Nat.add_assoc]

/-! ### The text of several lines -/

/-- The text of some lines and one more: the first ones with their line ends, and the last one without. -/
def linesText (rows : List Row) (last : Row) : List Char :=
  (rows.flatMap fun row => row.chars ++ ['\n']) ++ last.text.toList

/-- The text before a row. -/
theorem Row.Tiles.exists_split {start j : Nat} {cs : List Char} {rows : List Row} {row : Row} (h : Tiles start cs rows)
    (hrow : rows[j]? = some row) : ∃ after, cs = ((rows.take j).flatMap fun row => row.chars ++ ['\n']) ++
      (row.chars ++ after) ∧ start + byteLength ((rows.take j).flatMap fun row => row.chars ++ ['\n']) = row.start := by
  induction h generalizing j with
  | last =>
    obtain ⟨rfl, rfl⟩ : j = 0 ∧ row = _ := by
      rw [List.getElem?_singleton] at hrow
      split_ifs at hrow with hj
      exact ⟨hj, (Option.some.inj hrow).symm⟩
    exact ⟨[], by simp, rfl⟩
  | @feed start cs rest rows _ _ ih =>
    cases j with
    | zero =>
      obtain rfl : _ = row := Option.some.inj hrow
      exact ⟨'\n' :: rest, rfl, rfl⟩
    | succ j =>
      obtain ⟨after, rfl, hstart⟩ := ih hrow
      -- the rows before it are the first one with its line feed, and those that come before it in the rest
      refine ⟨after, by simp, ?_⟩
      rw [← hstart, List.take_succ_cons, List.flatMap_cons, byteLength_append, byteLength_append]
      simp only [byteLength]
      rw [show ('\n').utf8Size = 1 from rfl]
      omega

/-! ### Looking for text -/

namespace Body

variable {lines : Lines}

/-- Text that stands behind a column is found from there. -/
theorem exists_findIn? {needle text front back : List Char} {column : Nat} (htext : text = front ++ (needle ++ back))
    (hcolumn : column ≤ front.length) : ∃ found, findIn? needle text column = some found := by
  induction text generalizing front column with
  | nil =>
    obtain ⟨rfl, hnil⟩ := List.append_eq_nil_iff.mp htext.symm
    obtain rfl : column = 0 := Nat.le_zero.mp hcolumn
    rw [findIn?, (List.append_eq_nil_iff.mp hnil).1]
    exact ⟨0, rfl⟩
  | cons c text ih =>
    rw [findIn?]
    split_ifs with hhere
    · exact ⟨0, rfl⟩
    · cases front with
      | nil =>
        -- the text stands right here
        obtain rfl : column = 0 := Nat.le_zero.mp hcolumn
        refine absurd ?_ hhere
        rw [htext, List.nil_append, dropStart?_append]
        rfl
      | cons d front =>
        obtain ⟨-, rfl⟩ := List.cons.inj htext
        rw [List.length_cons] at hcolumn
        obtain ⟨found, hfound⟩ := @ih front (column - 1) rfl (by omega)
        exact ⟨found + 1, by rw [hfound]; rfl⟩

/-- Text that is found stands behind as many characters as it is found after, and these reach the column from which it
is looked for. -/
theorem exists_of_findIn? {needle text : List Char} {column found : Nat} (h : findIn? needle text column = some found) :
    column ≤ found ∧ ∃ front after, text = front ++ (needle ++ after) ∧ front.length = found := by
  induction text generalizing column found with
  | nil =>
    rw [findIn?] at h
    split_ifs at h with hempty
    obtain ⟨rfl, rfl⟩ := by simpa using hempty
    exact ⟨Nat.zero_le _, [], [], rfl, Option.some.inj h⟩
  | cons c text ih =>
    rw [findIn?] at h
    split_ifs at h with hhere
    · obtain ⟨rfl, hsome⟩ := by simpa using hhere
      obtain ⟨rest, hrest⟩ := Option.isSome_iff_exists.mp hsome
      exact ⟨Nat.zero_le _, [], rest, by rw [List.nil_append, ← eq_of_dropStart? hrest], Option.some.inj h⟩
    · obtain ⟨later, hlater, rfl⟩ := Option.map_eq_some_iff.mp h
      obtain ⟨hle, front, after, rfl, rfl⟩ := ih hlater
      exact ⟨by omega, c :: front, after, rfl, rfl⟩

/-- Text that is found in a line stands in that line. -/
theorem locate?_holds {line column after : Nat} {needle : String} {span : Span}
    (h : locate? lines line column needle = some (span, after)) :
    ∃ row, lines.row line = .ok row ∧ row.Holds span needle := by
  rw [locate?] at h
  cases hrow : lines.row line with
  | error error =>
    rw [hrow] at h
    cases h
  | ok row =>
    rw [hrow] at h
    obtain ⟨found, hfound, heq⟩ := Option.map_eq_some_iff.mp h
    obtain ⟨rfl, -⟩ := Prod.mk.inj heq
    obtain ⟨-, front, behind, htext, rfl⟩ := exists_of_findIn? hfound
    refine ⟨row, rfl, _, ⟨_, _, htext, rfl⟩, ?_⟩
    rw [htext, List.take_left, byteLength_toList, Nat.add_assoc]

/-- Text that is found in a line of a document stands in the document. -/
theorem locate?_covers {line column after : Nat} {needle : String} {span : Span}
    (h : locate? lines line column needle = some (span, after)) :
    span.Covers lines.source.toList needle.toList := by
  obtain ⟨row, hrow, hholds⟩ := locate?_holds h
  exact hholds.covers hrow

/-! ### Pieces of text -/

theorem Finds.covers {content : String} {cursor after : Option Cursor} {span : Span}
    (h : Finds lines content cursor (some span) after) : span.Covers lines.source.toList content.toList := by
  cases h with
  | found _ hfound => exact locate?_covers hfound

theorem Links.isWithin {kind : Kind} {cursor inner after : Option Cursor} {span : Span}
    (h : Links lines kind cursor inner (some span) after) : span.IsWithin lines.source := by
  cases h with
  | found _ _ hfound => exact (locate?_covers hfound).isWithin

theorem Pieces.isShown {parent index : Nat} {cursor after : Option Cursor} {trees : List Tree} {indices : List Nat}
    {nodes : List Node} (h : Pieces lines parent index cursor trees indices nodes after) :
    ∀ node ∈ nodes, node.IsShown lines := by
  induction h with
  | nil => exact List.forall_mem_nil _
  | line _ _ ih => exact List.forall_mem_cons.mpr ⟨⟨by simp [pieceOf], by simp [pieceOf]⟩, ih⟩
  | word _ hfinds _ ih =>
    refine List.forall_mem_cons.mpr ⟨⟨?_, fun _ => ?_⟩, ih⟩
    all_goals
      rintro span hspan
      obtain rfl : _ = some span := hspan
    · exact hfinds.covers.isWithin
    · exact hfinds.covers
  | part hkind _ hlinks _ ihbelow ih =>
    refine List.forall_mem_cons.mpr ⟨⟨?_, fun htext => ?_⟩, List.forall_mem_append.mpr ⟨ihbelow, ih⟩⟩
    · rintro span hspan
      obtain rfl : _ = some span := hspan
      exact hlinks.isWithin
    · -- a piece with pieces in it is no text
      rw [pieceOf_kind] at htext
      rw [htext] at hkind
      cases hkind

/-- A word stands on the line of the cursor. -/
theorem Pieces.isHeld {parent index : Nat} {cursor after : Option Cursor} {trees : List Tree} {indices : List Nat}
    {nodes : List Node} (h : Pieces lines parent index cursor trees indices nodes after) :
    ∀ node ∈ nodes, node.IsHeld lines := by
  induction h with
  | nil => exact List.forall_mem_nil _
  | line _ _ ih => exact List.forall_mem_cons.mpr ⟨fun _ _ hspan => by simp [pieceOf] at hspan, ih⟩
  | word _ hfinds _ ih =>
    refine List.forall_mem_cons.mpr ⟨fun _ span hspan => ?_, ih⟩
    obtain rfl : _ = some span := hspan
    cases hfinds with
    | found _ hfound =>
      obtain ⟨row, hrow, hholds⟩ := locate?_holds hfound
      exact ⟨_, _, row, rfl, hrow, hholds⟩
  -- a piece with pieces in it is no word
  | part hkind _ _ _ ihbelow ih =>
    refine List.forall_mem_cons.mpr ⟨fun hword => ?_, List.forall_mem_append.mpr ⟨ihbelow, ih⟩⟩
    rw [pieceOf_kind] at hword
    rw [Kind.isPlain, hword, Bool.or_true] at hkind
    cases hkind

/-! ### Blocks -/

/-- A block stands for the text of its lines. -/
theorem blockSpan_covers {first last : Nat} {span : Span} (h : blockSpan lines first last = .ok span) (hle : first ≤ last) :
    ∃ k j row, first = k + 1 ∧ min last lines.count = k + j + 1 ∧ lines.rowList[k + j]? = some row ∧
      span.Covers lines.source.toList (linesText ((lines.rowList.drop k).take j) row) := by
  have hmin : min (last : Int) lines.count = ((min last lines.count : Nat) : Int) := by omega
  rw [blockSpan, hmin] at h
  obtain ⟨top, htop, h⟩ := exists_of_bind_eq_ok h
  obtain ⟨bottom, hbottom, h⟩ := exists_of_bind_eq_ok h
  obtain rfl := Except.ok.inj h
  obtain ⟨row, hrow, htop⟩ := exists_of_bind_eq_ok htop
  obtain rfl := Except.ok.inj htop
  obtain ⟨k, rfl, hk⟩ := Lines.exists_of_row hrow
  obtain ⟨later, hlater, hbottom⟩ := exists_of_bind_eq_ok hbottom
  obtain rfl := Except.ok.inj hbottom
  obtain ⟨i, hi, hlater⟩ := Lines.exists_of_row hlater
  have hcount : k < lines.count := (List.getElem?_eq_some_iff.mp hk).1
  obtain ⟨j, rfl⟩ : ∃ j, i = k + j := ⟨i - k, by omega⟩
  refine ⟨k, j, later, rfl, hi, hlater, ?_⟩
  -- the source is what comes before the first row, the rows up to the last one, and what comes behind it
  obtain ⟨before, rest, hsource, hstart, htiles⟩ := Lines.tiles_drop hk
  obtain ⟨after, hrest, hlaterStart⟩ := htiles.exists_split (by rw [List.getElem?_drop]; exact hlater)
  obtain ⟨tail, hchars⟩ := Row.exists_append_of_dropReturn later.chars
  refine ⟨before, tail ++ after, ?_, ?_⟩
  · rw [hsource, hrest, linesText, Row.text, String.toList_ofList]
    conv_lhs => rw [hchars]
    simp only [List.append_assoc]
  · rw [Row.span, Row.span, linesText, byteLength_append, ← hlaterStart, ← hstart, Row.text, String.toList_ofList]
    simp only [Nat.add_assoc]

/-- Lines that are in order have a span of the document. -/
theorem blockSpan_isWithin {first last : Nat} {span : Span} (h : blockSpan lines first last = .ok span)
    (hle : first ≤ last) : span.IsWithin lines.source := by
  obtain ⟨k, j, row, -, -, -, hcovers⟩ := blockSpan_covers h hle
  exact hcovers.isWithin

/-- The first line of a place is not below the last. -/
def IsOrdered (place : Option (Nat × Nat)) : Prop := ∀ first last, place = some (first, last) → first ≤ last

theorem isOrdered_placeOf {inherited : Option (Nat × Nat)} (h : IsOrdered inherited) (offset : Nat)
    (element : Element) : IsOrdered (placeOf offset inherited element) := by
  intro first last hplace
  rw [placeOf] at hplace
  split_ifs at hplace
  cases hlines : element.lines with
  | none =>
    rw [hlines] at hplace
    exact h first last hplace
  | some range =>
    rw [hlines] at hplace
    cases hplace
    omega

/-- What a block stands for begins and ends between characters. Only a piece of text is looked for as text. -/
theorem spanOf_isWithin {place : Option (Nat × Nat)} {kind : Kind} {children : List Tree} {span : Span}
    (h : spanOf lines place kind children = .ok (some span)) (hplace : IsOrdered place) :
    span.IsWithin lines.source ∧ kind ≠ .text := by
  rw [spanOf.eq_def] at h
  split at h
  · dsimp only at h
    split_ifs at h
    · cases h
    · obtain ⟨found, hfound, rfl⟩ := Option.map_eq_some_iff.mp (Except.ok.inj h)
      exact ⟨(locate?_covers hfound).isWithin, by simp⟩
  case h_2 | h_3 | h_4 | h_5 =>
    rename_i first last
    obtain ⟨found, hfound, heq⟩ := exists_of_map_eq_ok h
    obtain rfl := Option.some.inj heq
    exact ⟨blockSpan_isWithin hfound (hplace first last rfl), by simp⟩
  · cases h

theorem isShown_nodeOf {element : Element} {children : List Tree} {inherited : Option (Nat × Nat)} {offset : Nat}
    {span : Option Span} (h : spanOf lines (placeOf offset inherited element) element.kind children = .ok span)
    (hinherited : IsOrdered inherited) (parent : Option Nat) (index : Nat) (indices : List Nat) :
    (nodeOf offset parent index inherited element indices span).IsShown lines := by
  have hspan : ∀ place, span = some place → place.IsWithin lines.source ∧ element.kind ≠ .text := by
    intro place hplace
    subst hplace
    exact spanOf_isWithin h (isOrdered_placeOf hinherited offset element)
  exact ⟨fun place hplace => (hspan place hplace).1, fun htext place hplace => absurd htext (hspan place hplace).2⟩

theorem Placed.isShown {offset index : Nat} {parent : Option Nat} {inherited : Option (Nat × Nat)} {trees : List Tree}
    {indices : List Nat} {nodes : List Node} (h : Placed lines offset parent index inherited trees indices nodes)
    (hinherited : IsOrdered inherited) : ∀ node ∈ nodes, node.IsShown lines := by
  induction h with
  | nil => exact List.forall_mem_nil _
  | text _ hpieces hspan _ ih =>
    exact List.forall_mem_cons.mpr ⟨isShown_nodeOf hspan hinherited _ _ _,
      List.forall_mem_append.mpr ⟨hpieces.isShown, ih hinherited⟩⟩
  | block _ _ hspan _ ihbelow ih =>
    exact List.forall_mem_cons.mpr ⟨isShown_nodeOf hspan hinherited _ _ _,
      List.forall_mem_append.mpr ⟨ihbelow (isOrdered_placeOf hinherited _ _), ih hinherited⟩⟩

/-- A block that is a word has no span. -/
theorem isHeld_nodeOf {element : Element} {children : List Tree} {inherited : Option (Nat × Nat)} {offset : Nat}
    {span : Option Span} (h : spanOf lines (placeOf offset inherited element) element.kind children = .ok span)
    (parent : Option Nat) (index : Nat) (indices : List Nat) :
    (nodeOf offset parent index inherited element indices span).IsHeld lines := by
  intro hword place hplace
  replace hword : element.kind.isWord := hword
  obtain rfl : span = some place := hplace
  rw [spanOf.eq_def] at h
  split at h
  case h_6 => cases h
  all_goals
    rename_i hkind
    rw [hkind] at hword
    cases hword

theorem Placed.isHeld {offset index : Nat} {parent : Option Nat} {inherited : Option (Nat × Nat)} {trees : List Tree}
    {indices : List Nat} {nodes : List Node} (h : Placed lines offset parent index inherited trees indices nodes) :
    ∀ node ∈ nodes, node.IsHeld lines := by
  induction h with
  | nil => exact List.forall_mem_nil _
  | text _ hpieces hspan _ ih =>
    exact List.forall_mem_cons.mpr ⟨isHeld_nodeOf hspan _ _ _, List.forall_mem_append.mpr ⟨hpieces.isHeld, ih⟩⟩
  | block _ _ hspan _ ihbelow ih =>
    exact List.forall_mem_cons.mpr ⟨isHeld_nodeOf hspan _ _ _, List.forall_mem_append.mpr ⟨ihbelow, ih⟩⟩

/-- Every node of a body stands where it says, and so does its text. -/
theorem isShown_of_ofTree {body : Body} {firstLine : Nat} {tree : Tree} (h : ofTree lines firstLine tree = .ok body)
    {node : Node} (hnode : node ∈ body.nodes) : node.IsShown lines :=
  (placed_of_ofTree h).isShown (fun _ _ hnone => by cases hnone) node (Array.mem_toList_iff.mpr hnode)

end Body

namespace Document

variable {text : String} {origin : Option String} {document : Document} {node : Node}

/-- The nodes of the body are those of a Markdown tree. -/
def HasTree (document : Document) : Prop :=
  ∃ tree, Body.ofTree document.lines document.body.firstLine tree = .ok document.body

/-- A document that is read from a text has the tree of its body. -/
theorem hasTree_of_ofString (h : ofString text origin = .ok document) : document.HasTree := by
  obtain ⟨closing, nodes, -, hnodes, heq⟩ := exists_of_ofString h
  refine ⟨Tree.ofMarkdown (Body.textFrom (Lines.ofString text) (closing + 1)), ?_⟩
  rw [heq, Body.ofTree]
  dsimp only
  rw [Nat.add_sub_cancel, hnodes]
  rfl

/-- In a document with a tree, every node stands where it says. -/
theorem HasTree.isShown (h : document.HasTree) (hnode : node ∈ document.body.nodes) : node.IsShown document.lines := by
  obtain ⟨tree, htree⟩ := h
  exact Body.isShown_of_ofTree htree hnode

/-- In a document with a tree, every word that has a span stands there, on its first line. -/
theorem HasTree.isHeld (h : document.HasTree) (hnode : node ∈ document.body.nodes) : node.IsHeld document.lines := by
  obtain ⟨tree, htree⟩ := h
  exact (Body.placed_of_ofTree htree).isHeld node (Array.mem_toList_iff.mpr hnode)

/-- Every node of a document stands where it says, and so does its text. -/
theorem isShown_of_mem (h : ofString text origin = .ok document) (hnode : node ∈ document.body.nodes) :
    node.IsShown document.lines := (hasTree_of_ofString h).isShown hnode

end Document

end ProposalCheck
