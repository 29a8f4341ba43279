import ProposalCheck.Proofs.Document.Cursor

/-!
# Nodes that are read from a text

A document is read from a text, so of its nodes more is known than of those of any tree: each is the node of a block, or
of a piece in a block of text. What stands in the content of a block of HTML stands in the lines of the block, although
blocks read some characters in another way than the document has them. A piece of text is looked for behind what has
been found before it in its block, so it is found if and only if it stands there.

## Main definitions

* `IsBlockNode`, `IsPieceNode`: nodes for blocks, and nodes for pieces in a block of text
* `IsExposed`: a piece stands on its first line, behind what has been found before it in its block

## Main results

* `Document.cases_of_ofString`: the nodes of a document are those of blocks and of pieces
* `Document.isSome_span_iff`: which pieces of text are found
* `Document.exists_linesText_of_html`: a block of HTML has a span, which holds what stands in its content
-/

namespace ProposalCheck

open Markdown

/-! ### Rows of blocks and lines of the document -/

namespace Markdown

/-- A character as blocks read it. -/
def readChar (c : Char) : Char := if c.toNat = 0 then '\uFFFD' else c

theorem unifyLineEnds_eq_map {cs : List Char} (h : '\r' ∉ cs) : unifyLineEnds cs = cs.map readChar := by
  fun_induction unifyLineEnds cs with
  | case1 => rfl
  | case2 rest ih => simp at h
  | case3 rest _ ih => simp at h
  | case4 c rest _ _ ih =>
    rw [List.mem_cons, not_or] at h
    rw [ih h.2]
    rfl

/-- What has none of the characters that are replaced stands where it is read. -/
theorem infix_of_infix_map_readChar {needle cs : List Char} (hneedle : '\uFFFD' ∉ needle)
    (h : needle <:+: cs.map readChar) : needle <:+: cs := by
  obtain ⟨part, hpart, rfl⟩ := List.infix_map_iff.mp h
  have hsame : part.map readChar = part := by
    refine (List.map_congr_left fun c hc => ?_).trans (List.map_id part)
    rw [readChar]
    split_ifs with hzero
    · refine absurd (List.mem_map.mpr ⟨c, hc, ?_⟩) hneedle
      rw [readChar, if_pos hzero]
    · rfl
  rwa [hsame]

theorem intercalate_cons (text next : List Char) (texts : List (List Char)) :
    ['\n'].intercalate (text :: next :: texts) = text ++ '\n' :: ['\n'].intercalate (next :: texts) := by
  rw [List.intercalate_cons_cons, List.append_assoc, List.singleton_append]

theorem map_intercalate {f : Char → Char} (hf : f '\n' = '\n') (texts : List (List Char)) :
    (['\n'].intercalate texts).map f = ['\n'].intercalate (texts.map (·.map f)) := by
  induction texts with
  | nil => rfl
  | cons text texts ih =>
    cases texts with
    | nil => simp
    | cons next texts =>
      rw [intercalate_cons, List.map_append, List.map_cons, hf, ih]
      exact (intercalate_cons _ _ _).symm

theorem mem_intercalate {c : Char} {texts : List (List Char)} {text : List Char} (htext : text ∈ texts) (hc : c ∈ text) :
    c ∈ ['\n'].intercalate texts := by
  induction texts with
  | nil => cases htext
  | cons first texts ih =>
    cases texts with
    | nil => rwa [List.intercalate_singleton, ← List.mem_singleton.mp htext]
    | cons next texts =>
      rw [intercalate_cons]
      rcases List.mem_cons.mp htext with rfl | htext
      · exact List.mem_append_left _ hc
      · exact List.mem_append_right _ (List.mem_cons_of_mem _ (ih htext))

/-- A text up to its first line feed is known. -/
theorem append_feed_inj {front others back rest : List Char} (hfront : '\n' ∉ front) (hothers : '\n' ∉ others)
    (h : front ++ '\n' :: back = others ++ '\n' :: rest) : front = others ∧ back = rest := by
  have hrows := congrArg (Row.ofChars 0) h
  rw [Row.ofChars_append_feed hfront, Row.ofChars_append_feed hothers] at hrows
  obtain rfl : front = others := congrArg Row.chars (List.cons.inj hrows).1
  exact ⟨rfl, (List.cons.inj (List.append_cancel_left h)).2⟩

theorem eq_singleton_of_intercalate {cs : List Char} {texts : List (List Char)} (hcs : '\n' ∉ cs) (hne : cs ≠ [])
    (h : cs = ['\n'].intercalate texts) : texts = [cs] := by
  cases texts with
  | nil => exact absurd h hne
  | cons text texts =>
    cases texts with
    | nil => rw [h, List.intercalate_singleton]
    | cons next texts =>
      rw [h, intercalate_cons] at hcs
      exact absurd (List.mem_append_right _ List.mem_cons_self) hcs

theorem exists_cons_of_intercalate {cs back : List Char} {texts : List (List Char)} (hcs : '\n' ∉ cs)
    (hfree : ∀ text ∈ texts, '\n' ∉ text) (h : cs ++ '\n' :: back = ['\n'].intercalate texts) :
    ∃ rest, texts = cs :: rest ∧ back = ['\n'].intercalate rest := by
  cases texts with
  | nil => simp at h
  | cons text texts =>
    rw [List.forall_mem_cons] at hfree
    cases texts with
    | nil =>
      rw [List.intercalate_singleton] at h
      exact absurd (h ▸ List.mem_append_right _ List.mem_cons_self) hfree.1
    | cons next texts =>
      rw [intercalate_cons] at h
      obtain ⟨rfl, rfl⟩ := append_feed_inj hcs hfree.1 h
      exact ⟨_, rfl, rfl⟩

theorem feed_not_mem_sliceOf_skipWhile (text : Array Char) (first fuel : Nat) :
    '\n' ∉ sliceOf text first (skipWhile (· ≠ '\n') text first fuel) := by
  intro hmem
  obtain ⟨j, hj, hlt, hget⟩ := mem_sliceOf hmem
  obtain ⟨c, hc, hne⟩ := exists_of_lt_skipWhile hj hlt
  obtain rfl := Option.some.inj (hget.symm.trans hc)
  simp at hne

/-- Nothing stands behind the end of a text. -/
theorem sliceOf_of_size_le {text : Array Char} {first last : Nat} (hlast : text.size ≤ last) :
    sliceOf text first last = sliceOf text first text.size := by
  rw [@sliceOf_append _ first _ _ hlast, BlockScope.sliceOf_eq_nil (.inr (Nat.le_max_right _ _)),
    List.append_nil]

theorem sliceOf_ne_nil {text : Array Char} {first : Nat} (h : first < text.size) :
    sliceOf text first text.size ≠ [] := by
  rw [← List.length_pos_iff, length_sliceOf, Nat.min_self]
  omega

/-- The rows of a text that is joined from lines are the lines. -/
theorem getElem?_of_rowsFrom {text : Array Char} {fuel first i : Nat} {row : BlockRow} {texts : List (List Char)}
    (hfree : ∀ line ∈ texts, '\n' ∉ line) (htext : sliceOf text first text.size = ['\n'].intercalate texts)
    (h : (rowsFrom text fuel first)[i]? = some row) : texts[i]? = some (sliceOf text row.first row.last) := by
  induction fuel generalizing first i texts with
  | zero => simp [rowsFrom] at h
  | succ fuel ih =>
    rw [rowsFrom] at h
    dsimp only at h
    have hfirst := @le_skipWhile (· ≠ '\n') text first (text.size - first)
    have hline := feed_not_mem_sliceOf_skipWhile text first (text.size - first)
    have hnext := @exists_of_skipWhile_lt (· ≠ '\n') text first (text.size - first) (by omega)
    generalize skipWhile (· ≠ '\n') text first (text.size - first) = last at *
    split_ifs at h with hend hlast hempty
    · simp at h
    · simp at h
    · -- the last line, which no line feed ends
      obtain ⟨rfl, rfl⟩ : i = 0 ∧ row = BlockRow.ofLine text first last := by
        rw [List.getElem?_singleton] at h
        split_ifs at h with hi
        exact ⟨hi, (Option.some.inj h).symm⟩
      have hall := @sliceOf_of_size_le text first last hlast
      have hne : sliceOf text first last ≠ [] := hall ▸ sliceOf_ne_nil (Nat.lt_of_not_le hend)
      rw [eq_singleton_of_intercalate hline hne (hall.trans htext)]
      rfl
    · -- the first line, and the line feed that ends it
      obtain ⟨c, hc, hfeed⟩ := hnext (by omega)
      obtain rfl : c = '\n' := by simpa using hfeed
      rw [@sliceOf_append _ first last text.size (by omega), Nat.max_eq_right hfirst,
        sliceOf_cons hc (by omega)] at htext
      obtain ⟨rest, rfl, hrest⟩ := exists_cons_of_intercalate hline hfree htext
      cases i with
      | zero =>
        rw [List.getElem?_cons_zero] at h
        obtain rfl := Option.some.inj h
        rfl
      | succ i =>
        rw [List.getElem?_cons_succ] at h ⊢
        exact ih (List.forall_mem_cons.mp hfree).2 hrest h

end Markdown

theorem infix_linesText {rows : List Row} {row last : Row} (h : row ∈ rows ∨ row = last) :
    row.text.toList <:+: linesText rows last := by
  rcases h with hmem | rfl
  · obtain ⟨front, back, rfl⟩ := List.append_of_mem hmem
    obtain ⟨tail, hchars⟩ := Row.exists_append_of_dropReturn row.chars
    refine List.IsInfix.trans ?_ (List.prefix_append _ _).isInfix
    rw [List.flatMap_append, List.flatMap_cons, Row.text, String.toList_ofList]
    refine List.IsInfix.trans ?_ (List.suffix_append _ _).isInfix
    conv_rhs => rw [hchars]
    exact ⟨[], tail ++ ['\n'] ++ back.flatMap fun row => row.chars ++ ['\n'], by simp⟩
  · exact (List.suffix_append _ _).isInfix

namespace Body

variable {lines : Lines} {body : Body}

theorem toList_textFrom (closing : Nat) : (textFrom lines (closing + 1)).toList =
    ['\n'].intercalate ((lines.rowList.drop closing).map fun row => row.text.toList) := by
  rw [textFrom, String.toList_intercalate, List.map_map, Nat.add_sub_cancel]
  rfl

theorem return_not_mem_text {closing i : Nat} {row : Row} (h : '\r' ∉ (textFrom lines (closing + 1)).toList)
    (hrow : lines.rowList[closing + i]? = some row) : '\r' ∉ row.text.toList := by
  intro hmem
  rw [toList_textFrom] at h
  rw [← List.getElem?_drop] at hrow
  exact h (mem_intercalate (List.mem_map_of_mem (List.mem_of_getElem? hrow)) hmem)

/-- What stands in a row of blocks, and has no gaps, stands in the line of the document. -/
theorem exists_row_of_rowText {closing line : Nat} {needle : List Char}
    (hplain : '\r' ∉ (textFrom lines (closing + 1)).toList) (hsolid : IsSolid needle) (hneedle : '\uFFFD' ∉ needle)
    (h : needle <:+: (scopeOf (textFrom lines (closing + 1))).rowText line) :
    ∃ row, lines.rowList[closing + line]? = some row ∧ needle <:+: row.text.toList := by
  -- blocks read the lines of the body joined by line feeds, and only replace some characters in them
  let texts := ((lines.rowList.drop closing).map fun row => row.text.toList.map readChar)
  have htext : Markdown.unifyLineEnds (textFrom lines (closing + 1)).toList = ['\n'].intercalate texts := by
    rw [unifyLineEnds_eq_map hplain, toList_textFrom, map_intercalate (by decide), List.map_map]
    rfl
  have hfree : ∀ line ∈ texts, '\n' ∉ line := by
    intro line hline hfeed
    obtain ⟨row, hrow, rfl⟩ := List.mem_map.mp hline
    obtain ⟨c, hc, heq⟩ := List.mem_map.mp hfeed
    have hfeed : c = '\n' := by
      rw [readChar] at heq
      split_ifs at heq
      · exact absurd heq (by decide)
      · exact heq
    have hrow := Row.newline_not_mem_text (lines.tiles.newline_not_mem row (List.mem_of_mem_drop hrow))
    exact hrow (hfeed ▸ hc)
  rw [BlockScope.rowText, BlockScope.row, Array.getD_eq_getD_getElem?] at h
  cases hrow : (scopeOf (textFrom lines (closing + 1))).rows[line]? with
  | none =>
    rw [hrow, Option.getD_none, BlockScope.sliceOf_eq_nil (.inl (Nat.le_refl _))] at h
    exact absurd (List.eq_nil_of_infix_nil h) hsolid.ne_nil
  | some row =>
    rw [hrow, Option.getD_some] at h
    have hat := @getElem?_of_rowsFrom (Markdown.unifyLineEnds _).toArray _ _ _ _ _ hfree
      (by rw [sliceOf, Array.extract_size, htext]) ((List.getElem?_toArray ..).symm.trans hrow)
    rw [List.getElem?_map, List.getElem?_drop] at hat
    obtain ⟨found, hfound, heq⟩ := Option.map_eq_some_iff.mp hat
    refine ⟨found, hfound, infix_of_infix_map_readChar hneedle ?_⟩
    rw [heq]
    exact h

end Body

namespace Body

variable {lines : Lines} {body : Body} {base : BlockScope} {node : Node}

/-! ### Nodes of blocks and of pieces -/

/-- A node for an element of a block. -/
def IsBlockNode (lines : Lines) (offset : Nat) (base : BlockScope) (node : Node) : Prop :=
  ∃ parent index inherited element indices children span, element.IsBlock base ∧
    spanOf lines (placeOf offset inherited element) element.kind children = .ok span ∧
    node = nodeOf offset parent index inherited element indices span

theorem IsBlockNode.isPiece {offset : Nat} (h : IsBlockNode lines offset base node) : node.kind.isPiece = false := by
  obtain ⟨_, _, _, element, _, _, _, helement, -, rfl⟩ := h
  exact helement.kind

/-- A node below a block of text. The cursor goes from the start of the block over the pieces. -/
def IsPieceNode (body : Body) (lines : Lines) (nodes : List Node) (node : Node) : Prop :=
  node.kind.isPiece ∧ ∃ block ∈ nodes, block.kind = .inline ∧
    ∃ pieces, body.HoldsPieces lines block (cursorOf block.lines) pieces ∧ node ∈ pieces

theorem Pieces.isPiece {parent index : Nat} {cursor after : Option Cursor} {trees : List Tree} {indices : List Nat}
    {nodes : List Node} (h : Pieces lines parent index cursor trees indices nodes after)
    (htrees : ∀ tree ∈ trees, tree.All (·.kind.isPiece)) : ∀ node ∈ nodes, node.kind.isPiece := by
  induction h with
  | nil => exact List.forall_mem_nil _
  | line _ _ ih | word _ _ _ ih =>
    rw [List.forall_mem_cons] at htrees
    obtain ⟨⟨hkind, -⟩, htrees⟩ := htrees
    exact List.forall_mem_cons.mpr ⟨hkind, ih htrees⟩
  | part _ _ _ _ ihbelow ih =>
    rw [List.forall_mem_cons] at htrees
    obtain ⟨⟨hkind, hchildren⟩, htrees⟩ := htrees
    exact List.forall_mem_cons.mpr ⟨hkind, List.forall_mem_append.mpr ⟨ihbelow hchildren, ih htrees⟩⟩

theorem IsPieceNode.mono {nodes others : List Node} (h : body.IsPieceNode lines nodes node)
    (hnodes : ∀ node ∈ nodes, node ∈ others) : body.IsPieceNode lines others node := by
  obtain ⟨hkind, block, hblock, hrest⟩ := h
  exact ⟨hkind, block, hnodes block hblock, hrest⟩

/-- What is read from a text is a block, and holds pieces if it is a block of text, or it is one of the pieces. -/
theorem Placed.cases_of_isRead {offset index : Nat} {parent : Option Nat} {inherited : Option (Nat × Nat)}
    {trees : List Tree} {indices : List Nat} {nodes : List Node}
    (h : Placed lines offset parent index inherited trees indices nodes) (hread : ∀ tree ∈ trees, tree.IsRead base)
    (hwritten : body.WrittenAt index nodes) (hnode : node ∈ nodes) :
    IsBlockNode lines offset base node ∧
      (node.kind = .inline → ∃ pieces, body.HoldsPieces lines node (cursorOf node.lines) pieces) ∨
    body.IsPieceNode lines nodes node := by
  induction h with
  | nil => cases hnode
  | text hkind hpieces hspan _ ih =>
    rw [List.forall_mem_cons] at hread
    obtain ⟨⟨-, helement, htrees⟩ | ⟨hother, -, -⟩, hread⟩ := hread
    · -- the node of the block itself, one of its pieces, or a node behind it
      rcases List.mem_cons.mp hnode with rfl | hnode
      · exact .inl ⟨⟨_, _, _, _, _, _, _, helement, hspan, rfl⟩, fun _ => ⟨_, hwritten.left, _, _, hpieces⟩⟩
      · rcases List.mem_append.mp hnode with hnode | hnode
        · have hpiece := hpieces.isPiece (fun tree htree => (htrees tree htree).all) node hnode
          exact .inr ⟨hpiece, _, List.mem_cons_self, hkind, _, ⟨hwritten.left, _, _, hpieces⟩, hnode⟩
        · exact (ih hread hwritten.tail.right hnode).imp_right fun h =>
            h.mono fun other hother => List.mem_cons_of_mem _ (List.mem_append_right _ hother)
    · exact absurd hkind hother
  | block hother _ hspan _ ihbelow ih =>
    rw [List.forall_mem_cons] at hread
    obtain ⟨⟨hkind, -, -⟩ | ⟨-, helement, hchildren⟩, hread⟩ := hread
    · exact absurd hkind hother
    · -- the node of the block itself, a node in it, or one behind it
      rcases List.mem_cons.mp hnode with rfl | hnode
      · exact .inl ⟨⟨_, _, _, _, _, _, _, helement, hspan, rfl⟩, fun hkind => absurd hkind hother⟩
      · rcases List.mem_append.mp hnode with hnode | hnode
        · exact (ihbelow hchildren hwritten.tail.left hnode).imp_right fun h =>
            h.mono fun other hother => List.mem_cons_of_mem _ (List.mem_append_left _ hother)
        · exact (ih hread hwritten.tail.right hnode).imp_right fun h =>
            h.mono fun other hother => List.mem_cons_of_mem _ (List.mem_append_right _ hother)

/-! ### Words that are found -/

/-- The pieces in a block of text are all other nodes below it. -/
theorem HoldsPieces.mem_iff (hbody : body.IsTree) {block other : Node} {start : Option Cursor} {pieces : List Node}
    (h : body.HoldsPieces lines block start pieces) (hother : other ∈ body.nodes) :
    other ∈ pieces ↔ other.index ≠ block.index ∧ body.IsBelow block.index other.index := by
  obtain ⟨hwritten, trees, after, hpieces⟩ := h
  rw [hbody.isBelow_iff hwritten hpieces.forest, List.length_cons]
  constructor
  · intro hmem
    have := hpieces.forest.index_mem hmem
    omega
  · rintro ⟨hne, hle, hlt⟩
    obtain ⟨i, hi⟩ : ∃ i, other.index = block.index + 1 + i := Nat.exists_eq_add_of_le (by omega)
    have hat := hwritten.tail.getElem? (show i < pieces.length by omega)
    rw [← hi, hbody.getElem?_index hother] at hat
    exact List.mem_of_getElem? hat.symm

/-- Where the line of a block is not known, nothing is looked for. -/
theorem Pieces.unknown {parent index : Nat} {cursor after : Option Cursor} {trees : List Tree} {indices : List Nat}
    {nodes : List Node} (h : Pieces lines parent index cursor trees indices nodes after) (hcursor : cursor = none) :
    after = none ∧ ∀ node ∈ nodes, node.lines = none ∧ node.span = none := by
  induction h with
  | nil => exact ⟨hcursor, List.forall_mem_nil _⟩
  | line _ _ ih =>
    subst hcursor
    exact ⟨(ih rfl).1, List.forall_mem_cons.mpr ⟨⟨rfl, rfl⟩, (ih rfl).2⟩⟩
  | word _ hfinds _ ih =>
    subst hcursor
    cases hfinds
    exact ⟨(ih rfl).1, List.forall_mem_cons.mpr ⟨⟨rfl, rfl⟩, (ih rfl).2⟩⟩
  | part _ _ hlinks _ ihbelow ih =>
    subst hcursor
    obtain ⟨rfl, hbelow⟩ := ihbelow rfl
    cases hlinks
    exact ⟨(ih rfl).1, List.forall_mem_cons.mpr ⟨⟨rfl, rfl⟩, List.forall_mem_append.mpr ⟨hbelow, (ih rfl).2⟩⟩⟩

/-- The content of a piece of text stands on the first line of the piece, behind whatever has been found before the
piece below a block. -/
def IsExposedBelow (body : Body) (lines : Lines) (block node : Node) : Prop :=
  ∃ first last row front back, node.lines = some (first, last) ∧ lines.row (first : Nat) = .ok row ∧
    row.text.toList = front ++ (node.content.toList ++ back) ∧
    ∀ other ∈ body.nodes, body.IsBelow block.index other.index → body.IsFinished other node →
      ∀ span, other.span = some span → span.stop ≤ row.start + byteLength front

/-- A piece is exposed below the block of text that it is in. -/
def IsExposed (body : Body) (lines : Lines) (node : Node) : Prop :=
  ∃ block ∈ body.nodes, block.kind = .inline ∧ body.IsBelow block.index node.index ∧
    body.IsExposedBelow lines block node

section sought

variable {origin : Cursor} {block : Node} {pieces : List Node}

/-- What has been found before a word is not behind the place where the word is found. -/
theorem IsSought.isExposedBelow (h : body.IsSought lines origin [] pieces node)
    (hpieces : ∀ other ∈ body.nodes,
      (other ∈ pieces ↔ other.index ≠ block.index ∧ body.IsBelow block.index other.index))
    (hinside : body.IsBelow block.index node.index) (hsome : node.span.isSome) :
    body.IsExposedBelow lines block node := by
  obtain ⟨before, last, finished, hat, hfinds, hsettled, hfinished⟩ := h
  obtain ⟨span, hspan⟩ := Option.isSome_iff_exists.mp hsome
  rw [hspan] at hfinds
  obtain ⟨-, start, hbefore, -, hspans⟩ := hfinds.exists_spans
  obtain ⟨row, hrow, range, ⟨front, back, htext, rfl⟩, rfl⟩ : ∃ row, lines.row before.line = .ok row ∧
      row.Holds span node.content := by
    cases hfinds with
    | found _ hfound => exact locate?_holds hfound
  refine ⟨before.line, last.line, row, front, back, hat, hrow, htext, ?_⟩
  -- the cursor is behind whatever has been finished and found before the word
  intro other hother hbelow hdone found hfound
  have hpiece : other ∈ pieces := (hpieces other hother).mpr ⟨fun heq => hdone.2 (heq ▸ hinside), hbelow⟩
  obtain ⟨first, stop, hearlier, hstop⟩ :=
    hsettled.behind other ((hfinished other).mpr (.inr ⟨hpiece, hdone⟩)) found hfound
  exact hearlier.stop_le hspans (hstop.trans hbefore)

/-- A word that is exposed is found. -/
theorem IsSought.isSome (h : body.IsSought lines origin [] pieces node) (horigin : origin.column = 0)
    (hpieces : ∀ other ∈ pieces, other ∈ body.nodes ∧ body.IsBelow block.index other.index)
    (hcontent : node.content ≠ "") (hexposed : body.IsExposedBelow lines block node) : node.span.isSome := by
  obtain ⟨before, last, finished, hat, hfinds, hsettled, hfinished⟩ := h
  obtain ⟨first, stop, row, front, back, hnodeLines, hrow, htext, hbehind⟩ := hexposed
  obtain ⟨rfl, -⟩ := Prod.mk.inj (Option.some.inj (hat.symm.trans hnodeLines))
  -- the cursor is at the start of the line, or where something ends that has been found before
  have hplace : before.column = 0 ∨ ∃ start earlier, Spans lines start before earlier ∧
      earlier.stop ≤ row.start + byteLength front := by
    rcases hsettled.reached with (rfl | hzero) | ⟨other, hother, earlier, start, hearlier, hspans⟩
    · exact .inl horigin
    · exact .inl hzero
    · rcases (hfinished other).mp hother with hnil | ⟨hpiece, hdone⟩
      · cases hnil
      · obtain ⟨hmem, hbelow⟩ := hpieces other hpiece
        exact .inr ⟨start, earlier, hspans, hbehind other hmem hbelow hdone earlier hearlier⟩
  obtain ⟨span, column, hfound⟩ := exists_locate? hrow htext hplace
  generalize node.span = found at hfinds
  cases hfinds with
  | missed hmissed =>
    rcases hmissed with hempty | hnone
    · exact absurd hempty hcontent
    · rw [hfound] at hnone
      cases hnone
  | found => rfl

end sought

theorem HoldsPieces.isSome_iff (hbody : body.IsTree) {block : Node} {pieces : List Node}
    (h : body.HoldsPieces lines block (cursorOf block.lines) pieces) (hnode : node ∈ pieces) (hword : node.kind.isWord)
    (hcontent : node.content ≠ "") : node.span.isSome ↔ body.IsExposedBelow lines block node := by
  have hmem := fun other hother => @HoldsPieces.mem_iff _ _ hbody _ other _ _ h hother
  obtain ⟨hwritten, trees, after, hpieces⟩ := h
  have hbelow : ∀ other ∈ pieces, other ∈ body.nodes ∧ body.IsBelow block.index other.index := fun other hother =>
    have hnodes := hwritten.tail.mem hother
    ⟨hnodes, ((hmem other hnodes).mp hother).2⟩
  cases hlines : block.lines with
  | none =>
    rw [hlines] at hpieces
    obtain ⟨hnone, hspan⟩ := (hpieces.unknown rfl).2 node hnode
    simp [IsExposedBelow, hnone, hspan]
  | some place =>
    rw [hlines] at hpieces
    obtain ⟨-, hsought⟩ := hpieces.settles hbody hwritten.tail rfl (settled_nil _)
    have hword := hsought node hnode hword
    exact ⟨hword.isExposedBelow hmem (hbelow node hnode).2, hword.isSome rfl hbelow hcontent⟩

end Body

/-! ### Documents -/

namespace Document

variable {text : String} {origin : Option String} {document : Document} {node : Node}

theorem hasPlainBody_of_parse {closing : Nat} (h : (Preamble.parse (Lines.ofString text)).map (·.2) = .ok closing)
    (hbody : '\r' ∉ (Body.textFrom (Lines.ofString text) (closing + 1)).toList) : HasPlainBody text := by
  intro preamble found hparse
  rw [hparse] at h
  obtain rfl : found = closing := Except.ok.inj h
  exact hbody

/-- A node of a document that is read from a text is that of a block, or of one of the pieces in a block of text. -/
theorem cases_of_ofString (h : ofString text origin = .ok document) :
    ∃ closing preamble, Preamble.parse (Lines.ofString text) = .ok (preamble, closing) ∧
      document.body.firstLine = closing + 1 ∧ ∀ node ∈ document.body.nodes,
        Body.IsBlockNode document.lines closing (scopeOf (Body.textFrom document.lines (closing + 1))) node ∧
          (node.kind = .inline → ∃ pieces,
            document.body.HoldsPieces document.lines node (Body.cursorOf node.lines) pieces) ∨
        document.body.IsPieceNode document.lines document.body.nodes.toList node := by
  obtain ⟨closing, nodes, hpreamble, hnodes, heq⟩ := exists_of_ofString h
  refine ⟨closing, _, hpreamble, by rw [heq], fun node hnode => ?_⟩
  rw [heq] at hnode ⊢
  have hplaced := Body.placed_of_placeBlock closing none 0 none _ hnodes .nil
  rw [List.append_nil] at hplaced
  refine hplaced.cases_of_isRead ?_ (List.prefix_rfl) (Array.mem_toList_iff.mpr hnode)
  exact List.forall_mem_singleton.mpr (Tree.isRead_ofMarkdown _)

/-- A word is found if and only if it stands on its first line behind whatever has been found before it in its block. -/
theorem isSome_span_iff (h : ofString text origin = .ok document) (hnode : node ∈ document.body.nodes)
    (hword : node.kind.isWord) (hcontent : node.content ≠ "") :
    node.span.isSome ↔ document.body.IsExposed document.lines node := by
  obtain ⟨closing, -, -, -, hcases⟩ := cases_of_ofString h
  have htree : document.body.IsTree := (hasTree_of_ofString h).isTree
  constructor
  · intro hsome
    rcases hcases node hnode with ⟨hblock, -⟩ | ⟨-, block, hblock, hinline, pieces, hholds, hpiece⟩
    · -- no block is a word
      have hkind := hblock.isPiece
      rw [Kind.isPiece, Kind.isPlain, hword, Bool.or_true] at hkind
      cases hkind
    · have hbelow := ((hholds.mem_iff htree hnode).mp hpiece).2
      exact ⟨block, Array.mem_toList_iff.mp hblock, hinline, hbelow,
        (hholds.isSome_iff htree hpiece hword hcontent).mp hsome⟩
  · rintro ⟨block, hblock, hinline, hbelow, hstands⟩
    rcases hcases block hblock with ⟨-, hpieces⟩ | ⟨hkind, -⟩
    · obtain ⟨pieces, hholds⟩ := hpieces hinline
      refine (hholds.isSome_iff htree ((hholds.mem_iff htree hnode).mpr ⟨fun heq => ?_, hbelow⟩) hword hcontent).mpr hstands
      obtain rfl := htree.eq_of_index_eq hnode hblock heq
      rw [hinline] at hword
      cases hword
    · rw [hinline] at hkind
      cases hkind

/-- A block of HTML has a span, which is that of some lines. What stands in the content of the block, and has no gaps,
stands in their text. -/
theorem exists_linesText_of_html (h : ofString text origin = .ok document) (hplain : HasPlainBody text)
    (hnode : node ∈ document.body.nodes) (hkind : node.kind = .htmlBlock) :
    ∃ span rows row, node.span = some span ∧ span.Covers document.lines.source.toList (linesText rows row) ∧
      (∀ other ∈ row :: rows, '\r' ∉ other.text.toList) ∧
      ∀ needle, IsSolid needle → '\uFFFD' ∉ needle → needle <:+: node.content.toList → needle <:+: linesText rows row := by
  obtain ⟨closing, preamble, hpreamble, -, hcases⟩ := cases_of_ofString h
  have hreturn := lines_eq_of_ofString h ▸ hplain preamble closing hpreamble
  rcases hcases node hnode with ⟨hblock, -⟩ | ⟨hpiece, -⟩
  · obtain ⟨_, _, inherited, element, _, _, span, helement, hspan, rfl⟩ := hblock
    replace hkind : element.kind = .htmlBlock := hkind
    obtain ⟨range, hrange, hneedles⟩ := helement.html hkind
    have hroot : element.kind ≠ .root := by simp [hkind]
    rw [Body.placeOf_of_lines hroot hrange, hkind] at hspan
    obtain ⟨found, hfound, heq⟩ := exists_of_map_eq_ok hspan
    obtain ⟨k, j, last, hk, hj, hlast, hcovers⟩ := Body.blockSpan_covers hfound (by omega)
    have hat : ∀ i other, closing ≤ i → document.lines.rowList[i]? = some other → '\r' ∉ other.text.toList := by
      intro i other hi hother
      obtain ⟨n, rfl⟩ := Nat.exists_eq_add_of_le hi
      exact Body.return_not_mem_text hreturn hother
    refine ⟨found, _, last, heq.symm, hcovers, List.forall_mem_cons.mpr ⟨hat _ _ (by omega) hlast, fun other hother => ?_⟩,
      fun needle hsolid hneedle hcontent => ?_⟩
    · obtain ⟨i, hi⟩ := List.getElem?_of_mem (List.mem_of_mem_take hother)
      rw [List.getElem?_drop] at hi
      exact hat _ _ (by omega) hi
    · obtain ⟨line, hfirst, hstop, hstands⟩ := hneedles needle hsolid hcontent
      obtain ⟨row, hrow, hstands⟩ := Body.exists_row_of_rowText hreturn hsolid hneedle hstands
      have hcount : closing + line < document.lines.count := (List.getElem?_eq_some_iff.mp hrow).1
      refine hstands.trans (infix_linesText ?_)
      -- the line is the last one of the block or comes before it
      rcases Nat.lt_or_ge (closing + line) (k + j) with hlt | hge
      · refine .inl (List.mem_of_getElem? (i := closing + line - k) ?_)
        rw [List.getElem?_take_of_lt (by omega), List.getElem?_drop, Nat.add_sub_cancel' (by omega)]
        exact hrow
      · rw [show closing + line = k + j by omega] at hrow
        exact .inr (Option.some.inj (hrow.symm.trans hlast))
  · rw [hkind] at hpiece
    cases hpiece

/-- A word that is found has no carriage return. -/
theorem return_not_mem_content (h : ofString text origin = .ok document) (hplain : HasPlainBody text)
    (hnode : node ∈ document.body.nodes) (hword : node.kind.isWord) {span : Span} (hspan : node.span = some span) :
    '\r' ∉ node.content.toList := by
  obtain ⟨closing, preamble, hpreamble, hfirstLine, -⟩ := cases_of_ofString h
  obtain ⟨other, -, hother, hstands⟩ := exists_stands h
  obtain rfl : closing = other := by omega
  obtain ⟨first, last, row, hlines, hrow, range, ⟨front, back, htext, -⟩, -⟩ :=
    (hasTree_of_ofString h).isHeld hnode hword span hspan
  obtain ⟨hle, -, -⟩ := (hstands node hnode).lines first last hlines
  obtain ⟨k, hk, hat⟩ := Lines.exists_of_row hrow
  obtain ⟨i, rfl⟩ := Nat.exists_eq_add_of_le (show closing ≤ k by omega)
  have hreturn := Body.return_not_mem_text (lines_eq_of_ofString h ▸ hplain preamble closing hpreamble) hat
  rw [htext] at hreturn
  exact fun hmem => hreturn (List.mem_append_right _ (List.mem_append_left _ hmem))

end Document

end ProposalCheck
