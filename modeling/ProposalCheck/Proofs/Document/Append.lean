import ProposalCheck.Proofs.Document.Load

/-!
# One more header

A document stays one when a header is added at the end of its preamble. All fields that it had stay what they are and
stay on their lines, which are the same. The body starts one line further down, and so does every block of it: a block
that finds its place in a document finds it one line further down in a document with one more line.

## Main definitions

* `Lines.insert`: a text with one more line
* `Document.withHeader`: the text of a document with one more header
* `Document.Extends`: a document has the fields of another one and one more

## Main results

* `Lines.rowList_insert`: the rows before the new line stay as they are, those after it keep their characters
* `Preamble.parse_eq_ok_iff`: the preambles that can be read, by the rows of the text
* `Body.exists_placeBlock_below`: blocks find their place one line further down
* `Document.exists_extends`: a document with one more header is a document
-/

namespace ProposalCheck

open Markdown

/-! ### One more line -/

namespace Row

variable {parts : List (List Char)} {start : Nat}

/-- Only the end of a row is looked at for a carriage return. -/
theorem dropReturn_append_cons (front : List Char) {c : Char} (hc : c ≠ '\r') (rest : List Char) :
    dropReturn (front ++ c :: rest) = front ++ c :: dropReturn rest := by
  rcases List.eq_nil_or_concat rest with rfl | ⟨init, last, rfl⟩
  · simp [dropReturn, hc]
  · rw [List.concat_eq_append, dropReturn, dropReturn, ← List.cons_append, ← List.append_assoc,
      List.getLast?_concat, List.getLast?_concat, List.dropLast_concat, List.dropLast_concat]
    split_ifs <;> simp

/-- Rows with some characters one after the other, of which the first starts at `start`. -/
def place (start : Nat) : List (List Char) → List Row
  | [] => []
  | cs :: rest => ⟨start, cs⟩ :: place (start + byteLength cs + 1) rest

theorem map_chars_place (start : Nat) (parts : List (List Char)) : (place start parts).map (·.chars) = parts := by
  induction parts generalizing start with
  | nil => rfl
  | cons cs parts ih => rw [place, List.map_cons, ih]

theorem take_place (k start : Nat) (parts : List (List Char)) :
    (place start parts).take k = place start (parts.take k) := by
  induction k generalizing start parts with
  | zero => simp [place]
  | succ k ih =>
    cases parts with
    | nil => rfl
    | cons cs parts => rw [place, List.take_succ_cons, ih, List.take_succ_cons, place]

theorem place_append (start : Nat) (parts others : List (List Char)) :
    ∃ next, place start (parts ++ others) = place start parts ++ place next others := by
  induction parts generalizing start with
  | nil => exact ⟨start, rfl⟩
  | cons cs parts ih =>
    obtain ⟨next, hnext⟩ := ih (start + byteLength cs + 1)
    exact ⟨next, by rw [List.cons_append, place, hnext, place, List.cons_append]⟩

/-- Texts of one line that are joined by line feeds give one row each. -/
theorem ofChars_intercalate (hne : parts ≠ []) (hfree : ∀ cs ∈ parts, '\n' ∉ cs) (start : Nat) :
    ofChars start ("\n".toList.intercalate parts) = place start parts := by
  induction parts generalizing start with
  | nil => exact absurd rfl hne
  | cons cs parts ih =>
    have hcs : '\n' ∉ cs := hfree cs List.mem_cons_self
    cases parts with
    | nil => rw [List.intercalate_singleton, ofChars_of_not_mem start hcs, place, place]
    | cons next parts =>
      have hrest := ih (List.cons_ne_nil next parts) fun other hother => hfree other (List.mem_cons_of_mem _ hother)
      have hsplit : "\n".toList.intercalate (cs :: next :: parts) =
          cs ++ '\n' :: "\n".toList.intercalate (next :: parts) := by
        rw [List.intercalate_cons_of_ne_nil (List.cons_ne_nil _ _)]
        simp
      rw [hsplit, ofChars_append_feed hcs, hrest]
      rfl

end Row

namespace Lines

variable {lines : Lines}

/-- The text with one more line behind its first `k` lines. -/
def insert (lines : Lines) (k : Nat) (line : String) : String :=
  String.ofList <| "\n".toList.intercalate <|
    (lines.rowList.take k).map (·.chars) ++ line.toList :: (lines.rowList.drop k).map (·.chars)

/-- Rows start where those before them end. -/
theorem rowList_eq_place (lines : Lines) : lines.rowList = Row.place 0 (lines.rowList.map (·.chars)) := by
  obtain ⟨first, hfirst, -⟩ := lines.tiles.head
  have hne : lines.rowList.map (·.chars) ≠ [] := by
    intro hnil
    rw [List.map_eq_nil_iff.mp hnil] at hfirst
    cases hfirst
  have hfree : ∀ cs ∈ lines.rowList.map (·.chars), '\n' ∉ cs :=
    List.forall_mem_map.mpr lines.tiles.newline_not_mem
  rw [← Row.ofChars_intercalate hne hfree, lines.tiles.intercalate_chars, rowList, rows_eq]

/-- The rows before a new line stay as they are, and those after it keep their characters. -/
theorem rowList_insert (lines : Lines) {line : String} (hline : '\n' ∉ line.toList) (k : Nat) :
    ∃ row after, (ofString (lines.insert k line)).rowList = lines.rowList.take k ++ row :: after ∧
      row.chars = line.toList ∧ after.map (·.chars) = (lines.rowList.drop k).map (·.chars) := by
  have hfree : ∀ cs ∈ (lines.rowList.take k).map (·.chars) ++ line.toList :: (lines.rowList.drop k).map (·.chars),
      '\n' ∉ cs := by
    have hrow := lines.tiles.newline_not_mem
    simp only [List.forall_mem_append, List.forall_mem_cons, List.forall_mem_map]
    exact ⟨fun row h => hrow row (List.mem_of_mem_take h), hline, fun row h => hrow row (List.mem_of_mem_drop h)⟩
  -- where a row starts depends on the rows before it only
  have hbefore : Row.place 0 ((lines.rowList.take k).map (·.chars)) = lines.rowList.take k := by
    rw [List.map_take, ← Row.take_place, ← rowList_eq_place]
  obtain ⟨next, hnext⟩ := Row.place_append 0 ((lines.rowList.take k).map (·.chars))
    (line.toList :: (lines.rowList.drop k).map (·.chars))
  refine ⟨⟨next, line.toList⟩, Row.place (next + byteLength line.toList + 1) ((lines.rowList.drop k).map (·.chars)),
    ?_, rfl, Row.map_chars_place _ _⟩
  rw [hbefore, Row.place] at hnext
  rw [← hnext, ← Row.ofChars_intercalate (by simp) hfree, rowList, rows_eq]
  simp only [ofString, insert, String.toList_ofList]

theorem count_insert {line : String} (hline : '\n' ∉ line.toList) (k : Nat) :
    (ofString (lines.insert k line)).count = lines.count + 1 := by
  obtain ⟨row, after, hrows, -, hafter⟩ := lines.rowList_insert hline k
  have hlength := congrArg List.length hafter
  rw [List.length_map, List.length_map, List.length_drop] at hlength
  rw [← length_rowList, ← length_rowList, hrows, List.length_append, List.length_take, List.length_cons, hlength]
  omega

/-- The lines before a new one stay as they are. -/
theorem line_insert {line text : String} (hline : '\n' ∉ line.toList) {k j : Nat} (hj : j < k)
    (h : lines.line ((j + 1 : Nat) : Int) = .ok text) :
    (ofString (lines.insert k line)).line ((j + 1 : Nat) : Int) = .ok text := by
  obtain ⟨before, hbefore, rfl⟩ := exists_of_line h
  obtain ⟨row, after, hrows, -⟩ := lines.rowList_insert hline k
  refine line_of_getElem? ?_
  have htake : (lines.rowList.take k)[j]? = some before := by rw [List.getElem?_take_of_lt hj, hbefore]
  rw [hrows, List.getElem?_append_left (List.getElem?_eq_some_iff.mp htake).1, htake]

/-- So do the texts of those after it. -/
theorem map_text_insert {line : String} (hline : '\n' ∉ line.toList) {k j : Nat} (hk : k ≤ lines.count) (hj : k ≤ j) :
    ((ofString (lines.insert k line)).rowList.drop (j + 1)).map Row.text = (lines.rowList.drop j).map Row.text := by
  obtain ⟨row, after, hrows, -, hafter⟩ := lines.rowList_insert hline k
  obtain ⟨d, rfl⟩ := Nat.exists_eq_add_of_le hj
  have hdrop : (lines.rowList.take k ++ row :: after).drop (k + d + 1) = after.drop d := by
    rw [Nat.add_right_comm, ← List.drop_drop, List.append_cons, List.drop_left' (by simp [length_rowList, hk])]
  have htext : ∀ rows : List Row, rows.map Row.text =
      (rows.map (·.chars)).map fun cs => String.ofList (Row.dropReturn cs) := fun rows => by rw [List.map_map]; rfl
  rw [hrows, hdrop, ← List.drop_drop, htext, htext, List.map_drop, hafter, ← List.map_drop]

end Lines

/-! ### One more field -/

namespace Preamble

variable {lines : Lines} {preamble : Preamble} {closing : Nat} {row : Row} {name value : String}

/-- A row of a name and a value is read as a field. A carriage return at its end is no part of the value. -/
theorem exists_parseField (hname : ':' ∉ name.toList) (hdark : isBlankText name = false)
    (hrow : row.chars = (name ++ ":" ++ value).toList) (line : Nat) :
    ∃ field, parseField line row = .ok field ∧ field.name = name ∧
      field.value = String.ofList (Row.dropReturn value.toList) ∧ isDelimiter row = false := by
  have htext : row.text = name ++ ":" ++ String.ofList (Row.dropReturn value.toList) := by
    rw [← String.toList_inj, Row.text, hrow]
    simpa using Row.dropReturn_append_cons name.toList (by decide : ':' ≠ '\r') value.toList
  rcases parseField_cases line row with ⟨hnone, -⟩ | ⟨other, rest, hsplit, hother, ⟨hblank, -⟩ | ⟨-, hok⟩⟩
  · rw [htext] at hnone
    simp at hnone
  · obtain ⟨rfl, -⟩ := append_colon_inj hother hname (hsplit.symm.trans htext)
    rw [hdark] at hblank
    cases hblank
  · obtain ⟨rfl, rfl⟩ := append_colon_inj hother hname (hsplit.symm.trans htext)
    exact ⟨_, hok, rfl, rfl, not_isDelimiter_of_mem (by rw [htext]; simp)⟩

theorem parseFields_append_singleton {rows : List Row} {fields : List Field} {field : Field} {line : Nat}
    (h : parseFields line rows = .ok fields) (hfield : parseField (line + rows.length) row = .ok field) :
    parseFields line (rows ++ [row]) = .ok (fields ++ [field]) := by
  induction rows generalizing line fields with
  | nil =>
    cases h
    rw [List.nil_append, parseFields_cons, ← Nat.add_zero line, show 0 = ([] : List Row).length from rfl, hfield]
    rfl
  | cons first rows ih =>
    rw [parseFields_cons] at h
    obtain ⟨head, hhead, h⟩ := exists_of_bind_eq_ok h
    obtain ⟨others, hothers, rfl⟩ := exists_of_map_eq_ok h
    rw [List.length_cons, show line + (rows.length + 1) = line + 1 + rows.length by omega] at hfield
    rw [List.cons_append, parseFields_cons, hhead, Except.bind, ih hothers hfield]
    rfl

/-- A preamble with one more line for a header is read with one more field. -/
theorem parse_insert (h : parse lines = .ok (preamble, closing)) (hname : ':' ∉ name.toList)
    (hdark : isBlankText name = false) (hfree : '\n' ∉ (name ++ ":" ++ value).toList) :
    ∃ field, field.name = name ∧ field.value = String.ofList (Row.dropReturn value.toList) ∧
      parse (Lines.ofString (lines.insert (closing - 1) (name ++ ":" ++ value))) =
        .ok (⟨preamble.fields ++ [field]⟩, closing + 1) := by
  obtain ⟨opening, fields, close, body, hrows, hopening, hplain, hclose, hfields, rfl⟩ := parse_eq_ok_iff.mp h
  obtain ⟨row, after, hinsert, hchars, hafter⟩ := lines.rowList_insert hfree (fields.length + 1)
  rw [hrows, List.take_succ_cons, List.take_left, List.cons_append] at hinsert
  rw [hrows, List.drop_succ_cons, List.drop_left, List.map_cons] at hafter
  -- the closing row keeps its characters, so it still closes the preamble
  obtain ⟨last, rest, rfl, hlast, -⟩ := List.map_eq_cons_iff.mp hafter
  obtain ⟨field, hfield, hfieldName, hvalue, hrow⟩ := exists_parseField hname hdark hchars (2 + fields.length)
  refine ⟨field, hfieldName, hvalue, parse_eq_ok_iff.mpr ⟨opening, fields ++ [row], last, rest, ?_, hopening, ?_, ?_,
    parseFields_append_singleton hfields hfield, by simp⟩⟩
  · rw [List.append_assoc, List.singleton_append]
    exact hinsert
  · exact List.forall_mem_append.mpr ⟨hplain, List.forall_mem_singleton.mpr hrow⟩
  · rw [isDelimiter, Row.text, hlast]
    exact hclose

end Preamble

/-! ### Blocks one line further down -/

namespace Body

variable {lines other : Lines} {offset : Nat}

/-- The next lines. -/
def below (place : Nat × Nat) : Nat × Nat := (place.1 + 1, place.2 + 1)

theorem le_count_of_lineSpan {line : Nat} {span : Span} (h : lines.lineSpan line = .ok span) :
    1 ≤ line ∧ line ≤ lines.count := by
  obtain ⟨row, hrow, -⟩ := exists_of_bind_eq_ok h
  obtain ⟨k, rfl, hget⟩ := Lines.exists_of_row hrow
  exact ⟨Nat.le_add_left 1 k, (List.getElem?_eq_some_iff.mp hget).1⟩

theorem exists_blockSpan_below (hcount : other.count = lines.count + 1) {first last : Nat} {span : Span}
    (h : blockSpan lines first last = .ok span) : ∃ span, blockSpan other (first + 1) (last + 1) = .ok span := by
  obtain ⟨start, hstart, h⟩ := exists_of_bind_eq_ok h
  obtain ⟨stop, hstop, -⟩ := exists_of_bind_eq_ok h
  rw [show min (last : Int) lines.count = (min last lines.count : Nat) by omega] at hstop
  obtain ⟨hfirst, hle⟩ := le_count_of_lineSpan hstart
  obtain ⟨hlast, -⟩ := le_count_of_lineSpan hstop
  obtain ⟨start, hstart⟩ := @exists_lineSpan other (first + 1) (by omega) (by omega)
  obtain ⟨stop, hstop⟩ := @exists_lineSpan other (min (last + 1) other.count) (by omega) (by omega)
  refine ⟨⟨start.start, stop.stop⟩, ?_⟩
  rw [blockSpan, hstart, show min ((last + 1 : Nat) : Int) other.count = (min (last + 1) other.count : Nat) by omega,
    hstop]
  rfl

theorem exists_spanOf_below (hcount : other.count = lines.count + 1) {place : Option (Nat × Nat)} {kind : Kind}
    {children : List Tree} {span : Option Span} (h : spanOf lines place kind children = .ok span) :
    ∃ span, spanOf other (place.map below) kind children = .ok span := by
  cases place with
  | none => exact ⟨none, by cases kind <;> rfl⟩
  | some place =>
    cases kind with
    | heading level =>
      rw [Option.map_some, spanOf, below]
      split_ifs <;> exact ⟨_, rfl⟩
    | fence | codeBlock | htmlBlock | table =>
      obtain ⟨found, hfound, -⟩ := exists_of_map_eq_ok h
      obtain ⟨found, hfound⟩ := exists_blockSpan_below hcount hfound
      exact ⟨some found, by rw [Option.map_some, spanOf, below, hfound]; rfl⟩
    | _ => exact ⟨none, rfl⟩

theorem placeOf_below (inherited : Option (Nat × Nat)) (element : Element) :
    placeOf (offset + 1) (inherited.map below) element = (placeOf offset inherited element).map below := by
  rw [placeOf, placeOf]
  split_ifs
  · rfl
  · cases element.lines <;> rfl

mutual

/-- A tree that has nodes has nodes one line further down in a document with one more line. -/
theorem exists_placeBlock_below (hcount : other.count = lines.count + 1) (inherited : Option (Nat × Nat))
    (parent parent' : Option Nat) (index index' : Nat) : ∀ (tree : Tree) (nodes : List Node),
      placeBlock lines offset parent index inherited tree = .ok nodes →
        ∃ nodes, placeBlock other (offset + 1) parent' index' (inherited.map below) tree = .ok nodes
  | .node element children, nodes, h => by
    by_cases hkind : element.kind = .inline
    · -- a block of text has no span
      have hspan : ∀ place, spanOf other place element.kind children = .ok none := by
        rw [hkind]
        rintro (- | -) <;> rfl
      rw [placeBlock]
      dsimp only
      rw [if_pos hkind, hspan]
      exact ⟨_, rfl⟩
    · rw [placeBlock_eq hkind] at h
      obtain ⟨⟨inner, indices⟩, hinner, h⟩ := exists_of_bind_eq_ok h
      obtain ⟨span, hspan, -⟩ := exists_of_bind_eq_ok h
      -- spans are the only thing that can fail, and those of blocks are found one line further down
      obtain ⟨inner, indices, hinner⟩ :=
        exists_placeBlocks_below hcount _ _ index' (index + 1) (index' + 1) children _ _ hinner
      obtain ⟨span, hspan⟩ := exists_spanOf_below hcount hspan
      rw [placeBlock_eq hkind, placeOf_below, hinner]
      exact ⟨_, by rw [hspan]; rfl⟩

/-- The same for several trees. -/
theorem exists_placeBlocks_below (hcount : other.count = lines.count + 1) (inherited : Option (Nat × Nat))
    (parent parent' index index' : Nat) : ∀ (trees : List Tree) (nodes : List Node) (indices : List Nat),
      placeBlocks lines offset parent index inherited trees = .ok (nodes, indices) → ∃ nodes indices,
        placeBlocks other (offset + 1) parent' index' (inherited.map below) trees = .ok (nodes, indices)
  | [], _, _, _ => ⟨[], [], rfl⟩
  | tree :: rest, nodes, indices, h => by
    rw [placeBlocks] at h
    obtain ⟨first, hfirst, h⟩ := exists_of_bind_eq_ok h
    obtain ⟨⟨others, more⟩, hothers, -⟩ := exists_of_bind_eq_ok h
    -- the index of the next tree goes on from the nodes of this one, so the indices on both sides are arbitrary
    obtain ⟨found, hfound⟩ :=
      exists_placeBlock_below hcount inherited (some parent) (some parent') index index' tree _ hfirst
    obtain ⟨others, more, hothers⟩ := exists_placeBlocks_below hcount inherited parent parent' _
      (index' + found.length) rest _ _ hothers
    refine ⟨found ++ others, index' :: more, ?_⟩
    rw [placeBlocks, hfound]
    dsimp only [bind, Except.bind]
    rw [hothers]
    rfl

end

end Body

/-! ### Documents with one more header -/

namespace Document

variable {text name value : String} {origin : Option String} {document : Document}

/-- The text of a document with one more header at the end of its preamble. -/
def withHeader (document : Document) (name value : String) : String :=
  document.lines.insert (document.body.firstLine - 2) (name ++ ":" ++ value)

/-- A document has the fields of another one, on the same lines, and one more. It has the same origin. -/
structure Extends (document other : Document) (field : Field) : Prop where
  origin : other.origin = document.origin
  fields : other.preamble.fields = document.preamble.fields ++ [field]
  line : ∀ earlier ∈ document.preamble.fields,
    other.lines.line earlier.line = document.lines.line earlier.line

/-- The fields of a document show their lines, which come before the closing one. -/
theorem exists_shows (h : ofString text origin = .ok document) {field : Field}
    (hfield : field ∈ document.preamble.fields) :
    ∃ k, k + 3 < document.body.firstLine ∧ field.Shows document.lines (k + 2) := by
  obtain ⟨closing, nodes, hpreamble, -, heq⟩ := exists_of_ofString h
  have houtcome := Preamble.isOutcome_parse (Lines.ofString text)
  rw [hpreamble] at houtcome
  obtain ⟨-, -, hlength, hshows⟩ := houtcome
  obtain ⟨k, hk⟩ := List.getElem?_of_mem hfield
  rw [heq]
  exact ⟨k, by have := (List.getElem?_eq_some_iff.mp hk).1; dsimp only; omega, hshows k field hk⟩

/-- A document with one more header is a document with one more field. -/
theorem exists_extends (h : ofString text origin = .ok document) (hname : ':' ∉ name.toList)
    (hdark : isBlankText name = false) (hfree : '\n' ∉ (name ++ ":" ++ value).toList) :
    ∃ other field, ofString (document.withHeader name value) origin = .ok other ∧ document.Extends other field ∧
      field.name = name ∧ field.value = String.ofList (Row.dropReturn value.toList) := by
  obtain ⟨closing, nodes, hpreamble, hnodes, heq⟩ := exists_of_ofString h
  obtain ⟨field, hfieldName, hvalue, hparse⟩ := Preamble.parse_insert hpreamble hname hdark hfree
  have hclosing := Preamble.closing_le_count hpreamble
  have hlines : document.lines = Lines.ofString text := congrArg Document.lines heq
  have hfirst : document.body.firstLine = closing + 1 := congrArg (·.body.firstLine) heq
  have hheader : document.withHeader name value =
      (Lines.ofString text).insert (closing - 1) (name ++ ":" ++ value) := by
    rw [withHeader, hlines, hfirst]
    rfl
  -- the body has the same text, so its blocks are the same
  have hbody : Body.textFrom (Lines.ofString (document.withHeader name value)) (closing + 1 + 1) =
      Body.textFrom (Lines.ofString text) (closing + 1) := by
    rw [hheader]
    exact congrArg ("\n".intercalate ·) (Lines.map_text_insert hfree (by omega) (Nat.sub_le closing 1))
  rw [← hheader] at hparse
  have hcount : (Lines.ofString (document.withHeader name value)).count = (Lines.ofString text).count + 1 := by
    rw [hheader]
    exact Lines.count_insert hfree _
  obtain ⟨others, hothers⟩ := Body.exists_placeBlock_below hcount none none none 0 0 _ _ hnodes
  rw [← hbody] at hothers
  refine ⟨_, field, ofString_of_placeBlock hparse hothers origin, ⟨?_, rfl, fun earlier hearlier => ?_⟩, hfieldName,
    hvalue⟩
  · exact (congrArg Document.origin heq).symm
  · -- the fields come before the new line
    obtain ⟨k, hk, hshows⟩ := exists_shows h hearlier
    rw [hshows.line_eq, hshows.source]
    exact Lines.line_insert hfree (by omega) hshows.source

end Document

end ProposalCheck
