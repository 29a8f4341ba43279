import ProposalCheck.Proofs.Document.Body
import ProposalCheck.Proofs.Document.Preamble
import ProposalCheck.Proofs.Markdown.Block

/-!
# Reading a document

A text whose preamble can be read is a document, unless its body holds carriage returns of its own: blocks
count these as line ends, the document does not, and so the last blocks may lack lines. Wherever all line
ends count, every node of the document stands on lines of its body.

## Main definitions

* `HasPlainBody`: no carriage return is left in the texts of the lines of the body
* `Document.NodesStand`: every node with lines has lines of the body, which can be shown

## Main results

* `Document.stands_or_structure`: a text with a plain body is a document whose nodes stand on lines of the body, or an
  error in its structure
* `Document.reading_total`: the same for bytes
-/

namespace ProposalCheck

open Markdown

/-! ### The lines of the body -/

/-- Texts of one line each have one line end less when they are joined than there are texts. -/
theorem count_intercalate {texts : List String} (h : ∀ text ∈ texts, '\n' ∉ text.toList) :
    ("\n".intercalate texts).toList.count '\n' = texts.length - 1 := by
  induction texts with
  | nil => rfl
  | cons text texts ih =>
    have htext := List.count_eq_zero.mpr (h text List.mem_cons_self)
    cases texts with
    | nil => simpa using htext
    | cons next texts =>
      rw [String.intercalate_cons_of_ne_nil (List.cons_ne_nil _ _), String.toList_append, String.toList_append,
        List.count_append, List.count_append, htext,
        ih fun other hother => h other (List.mem_cons_of_mem _ hother)]
      simp
      omega

namespace Body

variable {lines : Lines}

/-- Blocks count no more rows of a body than it has lines, if they count the same line ends. -/
theorem rowCount_textFrom_le {closing : Nat} (h : '\r' ∉ (textFrom lines (closing + 1)).toList) :
    rowCount (textFrom lines (closing + 1)) ≤ lines.count - closing := by
  have hcount : (textFrom lines (closing + 1)).toList.count '\n' = lines.count - closing - 1 := by
    rw [textFrom, count_intercalate]
    · simp [Lines.count]
    · intro text htext
      obtain ⟨row, hrow, rfl⟩ := List.mem_map.mp htext
      exact Row.newline_not_mem_text (lines.tiles.newline_not_mem row (List.mem_of_mem_drop hrow))
  refine Nat.le_trans (rowCount_le h) ?_
  split_ifs with hempty
  · exact Nat.zero_le _
  · -- a body that is not empty has lines, and one row for each
    have hlines : lines.count - closing ≠ 0 := by
      intro hnone
      refine hempty ?_
      have hdrop : lines.rows.toList.drop closing = [] := by
        rw [List.drop_eq_nil_iff, Array.length_toList]
        exact Nat.le_of_sub_eq_zero hnone
      rw [textFrom, Nat.add_sub_cancel, hdrop]
      rfl
    omega

end Body

namespace Document

variable {text : String} {origin : Option String} {document : Document}

/-- No carriage return is left in the texts of the lines of the body. -/
def HasPlainBody (text : String) : Prop :=
  ∀ preamble closing, Preamble.parse (Lines.ofString text) = .ok (preamble, closing) →
    '\r' ∉ (Body.textFrom (Lines.ofString text) (closing + 1)).toList

/-- Every node with lines has lines of the body, and these can be shown. -/
def NodesStand (document : Document) : Prop :=
  ∀ node ∈ document.body.nodes, ∀ first last, node.lines = some (first, last) →
    document.body.firstLine ≤ first ∧ first ≤ last ∧ last ≤ document.lines.count ∧
      ∃ shown, document.lines.lines first last = .ok shown

/-- A text with a preamble and with nodes for the tree of its body is a document. -/
theorem ofString_of_placeBlock {preamble : Preamble} {closing : Nat} {nodes : List Node}
    (hpreamble : Preamble.parse (Lines.ofString text) = .ok (preamble, closing))
    (hnodes : Body.placeBlock (Lines.ofString text) closing none 0 none
      (Tree.ofMarkdown (Body.textFrom (Lines.ofString text) (closing + 1))) = .ok nodes) (origin : Option String) :
    ofString text origin = .ok ⟨origin, Lines.ofString text, preamble, ⟨nodes.toArray, closing + 1⟩⟩ := by
  rw [ofString, hpreamble]
  dsimp only
  rw [Body.parse, Body.ofTree, Nat.add_sub_cancel, hnodes]
  rfl

theorem lines_eq_of_ofString (h : ofString text origin = .ok document) : document.lines = Lines.ofString text := by
  obtain ⟨closing, nodes, -, -, heq⟩ := exists_of_ofString h
  exact congrArg Document.lines heq

/-- Where something can be computed from the document of a text, there is one. -/
theorem exists_of_map_ofString {α : Type} {f : Document → α} {a : α} (h : (ofString text origin).map f = .ok a) :
    ∃ document, ofString text origin = .ok document ∧ document.lines = Lines.ofString text ∧
      f document = a := by
  obtain ⟨document, hdocument, hf⟩ := exists_of_map_eq_ok h
  exact ⟨document, hdocument, lines_eq_of_ofString hdocument, hf⟩

/-- The nodes of a document stand on as many lines as its body has rows. -/
theorem exists_stands (h : ofString text origin = .ok document) :
    ∃ closing, closing ≤ document.lines.count ∧ document.body.firstLine = closing + 1 ∧
      ∀ node ∈ document.body.nodes, node.Stands (closing + 1)
        (rowCount (Body.textFrom (Lines.ofString text) (closing + 1)) + closing) := by
  obtain ⟨closing, nodes, hpreamble, hnodes, heq⟩ := exists_of_ofString h
  rw [heq]
  refine ⟨closing, Preamble.closing_le_count hpreamble, rfl, fun node hnode => ?_⟩
  exact Body.stands_of_placeBlock none 0 none (fun _ _ hnone => by cases hnone) _ (Tree.fits_ofMarkdown _)
    nodes hnodes node (List.mem_toArray.mp hnode)

/-- A text with a plain body is a document whose nodes stand on the lines of its body, or else its preamble
cannot be read. -/
theorem stands_or_structure (hplain : HasPlainBody text) (origin : Option String) :
    (∃ problem, (∀ error, problem ≠ .encoding error) ∧
      ofString text origin = .error (.structure ⟨problem, origin⟩)) ∨
    ∃ document, ofString text origin = .ok document ∧ document.NodesStand := by
  cases hpreamble : Preamble.parse (Lines.ofString text) with
  | error problem =>
    refine .inl ⟨problem, Preamble.parse_ne_encoding hpreamble, ?_⟩
    rw [ofString, hpreamble]
    rfl
  | ok result =>
    obtain ⟨preamble, closing⟩ := result
    have hclosing := Preamble.closing_le_count hpreamble
    have hrows := Body.rowCount_textFrom_le (hplain preamble closing hpreamble)
    have hcount : rowCount (Body.textFrom (Lines.ofString text) (closing + 1)) + closing ≤
        (Lines.ofString text).count := by omega
    -- as many lines as rows are there, so a span is found for every block
    obtain ⟨nodes, hnodes⟩ := Body.exists_placeBlock hcount none 0 none (fun _ _ hnone => by cases hnone) _
      (Tree.fits_ofMarkdown (Body.textFrom (Lines.ofString text) (closing + 1)))
    refine .inr ⟨_, ofString_of_placeBlock hpreamble hnodes origin, fun node hnode first last hlines => ?_⟩
    have hstands := Body.stands_of_placeBlock none 0 none (fun _ _ hnone => by cases hnone) _
      (Tree.fits_ofMarkdown _) nodes hnodes node (List.mem_toArray.mp hnode)
    obtain ⟨hfirst, hle, hlast⟩ := hstands.lines first last hlines
    have hlast := Nat.le_trans hlast hcount
    exact ⟨hfirst, hle, hlast, Lines.exists_lines (by omega) hle hlast⟩

/-- Reading is total up to the errors in the structure of a document, and in every document that is read
each node with lines stands on lines of the body, if no line end of the body is a carriage return alone. -/
theorem reading_total (origin : Option String) :
    (∀ text, HasPlainBody text →
      (∃ problem, (∀ error, problem ≠ .encoding error) ∧
        ofString text origin = .error (.structure ⟨problem, origin⟩)) ∨
      ∃ document, ofString text origin = .ok document ∧ document.NodesStand) ∧
    ∀ bytes, (∀ text, decodeUtf8 bytes = .ok text → HasPlainBody text) →
      (∃ problem, ofBytes bytes origin = .error (.structure ⟨problem, origin⟩)) ∨
      ∃ document, ofBytes bytes origin = .ok document ∧ document.NodesStand := by
  refine ⟨fun text hplain => stands_or_structure hplain origin, fun bytes hplain => ?_⟩
  rw [ofBytes]
  cases hdecode : decodeUtf8 bytes with
  | error error => exact .inl ⟨_, rfl⟩
  | ok text =>
    rcases stands_or_structure (hplain text hdecode) origin with ⟨problem, -, herror⟩ | hdocument
    · exact .inl ⟨problem, herror⟩
    · exact .inr hdocument

/-- A heading on the line after the preamble. -/
theorem reading_total_heading :
    HasPlainBody "---\na: b\n---\n# c" ∧
      ∃ document, ofString "---\na: b\n---\n# c" none = .ok document ∧ document.NodesStand := by
  have hplain : HasPlainBody "---\na: b\n---\n# c" := by
    intro preamble closing h
    have hclosing : (Preamble.parse (Lines.ofString "---\na: b\n---\n# c")).map (·.2) = .ok 3 := by
      decide +kernel
    rw [h] at hclosing
    obtain rfl : closing = 3 := Except.ok.inj hclosing
    decide +kernel
  have hread : (ofString "---\na: b\n---\n# c" none).toBool := by decide +kernel
  refine ⟨hplain, ?_⟩
  rcases (reading_total none).1 _ hplain with ⟨problem, -, herror⟩ | hdocument
  · rw [herror] at hread
    cases hread
  · exact hdocument

/-- Where a carriage return alone ends a line, blocks count one line more than the document: a fence on the
last of them has no line, and the document cannot be read. -/
theorem not_reading_total_return :
    ¬ ∀ text origin,
      (∃ problem, ofString text origin = .error (.structure ⟨problem, origin⟩)) ∨
        ∃ document, ofString text origin = .ok document ∧ document.NodesStand := by
  intro h
  have hread : (ofString "---\na: b\n---\n\r\x60\x60\x60" none).map (fun _ => ()) =
      .error (.position (.lineOutOfRange 5 4)) := by
    decide +kernel
  rcases h "---\na: b\n---\n\r\x60\x60\x60" none with ⟨problem, herror⟩ | ⟨document, hdocument, -⟩
  · rw [herror] at hread
    cases hread
  · rw [hdocument] at hread
    cases hread

end Document

end ProposalCheck
