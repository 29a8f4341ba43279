import ProposalCheck.Proofs.Document.Items
import ProposalCheck.Proofs.Document.Spans
import ProposalCheck.Proofs.Text.WellFormed

/-!
# Documents as bytes

A document that is read from bytes is the one that is read from their text. It is refused for its encoding exactly
if the bytes are not well formed, since what can be wrong with a text is something else. All spans of the document
count the bytes that it was read from.

## Main definitions

* `bytesAt`: the bytes at a span
* `Document.HasSpan`: the spans of lines, fields and nodes of a document

## Main results

* `Span.Covers.charBytes_eq`: the bytes at a span are those of the characters that it holds
* `Document.HasSpan.isWithin`: the spans of a document lie within it
* `Document.ofBytes_agrees`: reading bytes is reading their text
-/

namespace ProposalCheck

/-- The bytes at a span. -/
def bytesAt (bytes : List UInt8) (span : Span) : List UInt8 := (bytes.drop span.start).take (span.stop - span.start)

/-- The bytes at a span are those of the characters that it holds. -/
theorem Span.Covers.charBytes_eq {span : Span} {cs part : List Char} (h : span.Covers cs part) :
    charBytes part = bytesAt (charBytes cs) span := by
  obtain ⟨before, after, rfl, rfl⟩ := h
  rw [bytesAt, charBytes_append, charBytes_append, List.drop_left' (length_charBytes before),
    Nat.add_sub_cancel_left, List.take_left' (length_charBytes part)]

namespace Document

variable {text : String} {origin : Option String} {document : Document} {span : Span}

/-- The spans that a document has: those of its lines, of the fields of its preamble and of the nodes of its body. -/
inductive HasSpan (document : Document) : Span → Prop
  | line {line : Int} {span : Span} : document.lines.lineSpan line = .ok span → HasSpan document span
  | field {field : Field} : field ∈ document.preamble.fields → HasSpan document field.span
  | node {node : Node} {span : Span} : node ∈ document.body.nodes → node.span = some span → HasSpan document span

/-- What is wrong with a text is not its encoding. -/
theorem ofString_ne_encoding (text : String) (origin : Option String) (error : Utf8Error) :
    ofString text origin ≠ .error (.structure ⟨.encoding error, origin⟩) := by
  rw [ofString]
  split
  · rename_i hproblem
    intro h
    cases h
    exact Preamble.parse_ne_encoding hproblem error rfl
  · split <;> exact fun h => by cases h

theorem lineSpan_isWithin {lines : Lines} {line : Int} (h : lines.lineSpan line = .ok span) :
    span.IsWithin lines.source := by
  obtain ⟨row, hrow, hspan⟩ := exists_of_bind_eq_ok h
  obtain rfl := Except.ok.inj hspan
  have hpos : 0 ≤ line := by
    by_contra hneg
    rw [Lines.row, if_pos (by omega)] at hrow
    cases hrow
  obtain ⟨line, rfl⟩ := Int.eq_ofNat_of_zero_le hpos
  obtain ⟨k, -, hk⟩ := Lines.exists_of_row hrow
  exact (Lines.row_covers hk).isWithin

/-- A span of a document begins and ends between characters of its text. -/
theorem HasSpan.isWithin (h : ofString text origin = .ok document) (hspan : document.HasSpan span) :
    span.IsWithin document.source := by
  cases hspan with
  | line hspan => exact lineSpan_isWithin hspan
  | field hfield => exact lineSpan_isWithin (shows_of_mem h hfield).span
  | node hnode hspan => exact (isShown_of_mem h hnode).isWithin _ hspan

theorem ofBytes_textBytes (text : String) (origin : Option String) :
    ofBytes (textBytes text) origin = ofString text origin := by
  rw [ofBytes, decodeUtf8_eq_ok_iff.mpr rfl]

/-- Bytes that are read are those of a text. -/
theorem exists_of_ofBytes {bytes : List UInt8} (h : ofBytes bytes origin = .ok document) :
    ∃ text, textBytes text = bytes ∧ ofString text origin = .ok document := by
  obtain ⟨text, hdecode⟩ : ∃ text, decodeUtf8 bytes = .ok text := by
    rw [ofBytes] at h
    split at h
    · rename_i text hdecode
      exact ⟨text, hdecode⟩
    · cases h
  obtain rfl := decodeUtf8_eq_ok_iff.mp hdecode
  exact ⟨text, rfl, (ofBytes_textBytes text origin).symm.trans h⟩

/-- Bytes are refused for their encoding only if they are not those of a text. -/
theorem ofBytes_encoding_iff (bytes : List UInt8) (origin : Option String) :
    (∃ error, ofBytes bytes origin = .error (.structure ⟨.encoding error, origin⟩)) ↔ ¬IsWellFormed bytes := by
  constructor
  · rintro ⟨error, herror⟩ hformed
    obtain ⟨text, rfl⟩ := isWellFormed_iff.mp hformed
    exact ofString_ne_encoding text origin error ((ofBytes_textBytes text origin).symm.trans herror)
  · intro hill
    cases hdecode : decodeUtf8 bytes with
    | ok text => exact absurd (isWellFormed_iff.mpr ⟨text, decodeUtf8_eq_ok_iff.mp hdecode⟩) hill
    | error error => exact ⟨error, by rw [ofBytes, hdecode]⟩

/-- The text at a span of a document, and its bytes, which are those at the span. -/
theorem HasSpan.exists_slice (h : ofString text origin = .ok document) (hspan : document.HasSpan span) :
    ∃ part, document.lines.slice span.start span.stop = .ok part ∧ textBytes part = bytesAt (textBytes text) span := by
  have hsource : document.source = text := congrArg Lines.source (lines_eq_of_ofString h)
  obtain ⟨part, hslice, hcovers⟩ := Lines.exists_slice (hspan.isWithin h)
  refine ⟨part, hslice, ?_⟩
  rw [textBytes_eq, textBytes_eq, ← hsource]
  exact hcovers.charBytes_eq

/-- Reading bytes is reading their text. Bytes are refused for their encoding exactly if they are not well formed;
all others are the bytes of one text, and give what that text gives. The spans of the document count these bytes:
what stands at a span has the bytes that stand there, and this is the line of a field, or a piece of text. -/
theorem ofBytes_agrees (bytes : List UInt8) (origin : Option String) :
    ((∃ error, ofBytes bytes origin = .error (.structure ⟨.encoding error, origin⟩)) ↔ ¬IsWellFormed bytes) ∧
    (IsWellFormed bytes → ∃! text, textBytes text = bytes) ∧
    (∀ text, textBytes text = bytes → ofBytes bytes origin = ofString text origin) ∧
    ∀ document, ofBytes bytes origin = .ok document →
      textBytes document.source = bytes ∧
      (∀ span, document.HasSpan span → span.start ≤ span.stop ∧ span.stop ≤ bytes.length ∧
        ∃ text, document.lines.slice span.start span.stop = .ok text ∧ textBytes text = bytesAt bytes span) ∧
      (∀ field ∈ document.preamble.fields, textBytes field.source = bytesAt bytes field.span) ∧
      ∀ node ∈ document.body.nodes, node.kind = .text → ∀ span, node.span = some span →
        textBytes node.content = bytesAt bytes span := by
  refine ⟨ofBytes_encoding_iff bytes origin, fun hformed => ?_, fun text htext => ?_, fun document hread => ?_⟩
  · obtain ⟨text, htext⟩ := isWellFormed_iff.mp hformed
    exact ⟨text, htext, fun other hother => textBytes_injective (hother.trans htext.symm)⟩
  · rw [← htext, ofBytes_textBytes]
  · obtain ⟨text, rfl, hdocument⟩ := exists_of_ofBytes hread
    have hsource : document.source = text := congrArg Lines.source (lines_eq_of_ofString hdocument)
    refine ⟨congrArg textBytes hsource, fun span hspan => ?_, fun field hfield => ?_,
      fun node hnode hkind span hspan => ?_⟩
    · have hwithin := hspan.isWithin hdocument
      refine ⟨hwithin.le, ?_, hspan.exists_slice hdocument⟩
      rw [length_textBytes, ← hsource]
      exact hwithin.stop_le
    · obtain ⟨part, hslice, hbytes⟩ := (HasSpan.field hfield).exists_slice hdocument
      rw [(shows_of_mem hdocument hfield).slice] at hslice
      rwa [Except.ok.inj hslice]
    · -- of a piece of text, its content is what stands at its span
      rw [textBytes_eq, textBytes_eq, ← hsource]
      exact ((isShown_of_mem hdocument hnode).covers hkind span hspan).charBytes_eq

/-- A document with a field and a heading that are not ASCII, and bytes that would be those of a surrogate. -/
theorem ofBytes_agrees_heading :
    let text := "---\na: é\n---\n# ü"
    ¬IsWellFormed [0xED, 0xA0, 0x80] ∧ IsWellFormed (textBytes text) ∧
      ∃ document, ofBytes (textBytes text) none = .ok document ∧ document.HasSpan ⟨4, 9⟩ ∧
        ∃ part, document.lines.slice 4 9 = .ok part ∧ textBytes part = bytesAt (textBytes text) ⟨4, 9⟩ := by
  intro text
  refine ⟨(ofBytes_agrees [0xED, 0xA0, 0x80] none).1.mp ⟨.invalidContinuation, rfl⟩,
    isWellFormed_iff.mpr ⟨text, rfl⟩, ?_⟩
  obtain ⟨-, -, hread, hspans⟩ := ofBytes_agrees (textBytes text) none
  have hline : (ofString text none).map (fun document => document.lines.lineSpan 2) = .ok (.ok ⟨4, 9⟩) := by
    decide +kernel
  obtain ⟨document, hdocument, -, hspan⟩ := exists_of_map_ofString hline
  have hbytes := (hread text rfl).trans hdocument
  have hhas := HasSpan.line hspan
  exact ⟨document, hbytes, hhas, ((hspans document hbytes).2.1 _ hhas).2.2⟩

end Document

end ProposalCheck
