import ProposalCheck.Proofs.Lint.Boundary
import ProposalCheck.Proofs.Lint.Mark
import ProposalCheck.Proofs.Text.WellFormed

/-!
# The characters that are marked

An excerpt over several lines shows no carriage returns of line ends. So what is marked in it are the characters of a
span without these.

## Main definitions

* `EndsLines`: a text in which carriage returns are those of line ends

## Main results

* `keptBytes_chars`: the bytes that show are those of all characters but the carriage returns
* `Context.exists_marked`: the characters of a span of the document can be marked
-/

namespace ProposalCheck

/-- Every carriage return of a text is that of a line end. -/
def EndsLines (cs : List Char) : Prop := ∀ before after, cs = before ++ '\r' :: after → after.head? = some '\n'

theorem endsLines_nil : EndsLines [] := fun before after heq => absurd heq.symm (by simp)

theorem EndsLines.cons {c : Char} {cs : List Char} (h : EndsLines cs) (hc : c = '\r' → cs.head? = some '\n') :
    EndsLines (c :: cs) := by
  intro before after heq
  cases before with
  | nil =>
    obtain ⟨rfl, rfl⟩ := List.cons.inj heq
    exact hc rfl
  | cons first before => exact h before after (List.cons.inj heq).2

theorem EndsLines.append {front back : List Char} (h : EndsLines back) (hfront : '\r' ∉ front) :
    EndsLines (front ++ back) := by
  induction front with
  | nil => exact h
  | cons c front ih =>
    rw [List.mem_cons, not_or] at hfront
    exact (ih hfront.2).cons fun hc => absurd hc.symm hfront.1

theorem endsLines_of_not_mem {cs : List Char} (h : '\r' ∉ cs) : EndsLines cs :=
  List.append_nil cs ▸ endsLines_nil.append h

theorem charBytes_injective : Function.Injective charBytes := by
  intro cs ds h
  rw [← textBytes_ofList, ← textBytes_ofList] at h
  exact String.ofList_injective (textBytes_injective h)

/-- The byte of a character other than a carriage return shows. -/
theorem isKept_char {before after : List UInt8} {c : Char} (hc : c ≠ '\r') {i : Nat} (hi : i < c.utf8Size) :
    isKept (before ++ (String.utf8EncodeChar c ++ after)) (before.length + i) := by
  rw [isKept, decide_eq_true_eq]
  rintro ⟨hreturn, -⟩
  rw [List.getElem?_append_right (Nat.le_add_right _ _), Nat.add_sub_cancel_left,
    List.getElem?_append_left (by rwa [String.length_utf8EncodeChar])] at hreturn
  exact hc (eq_of_mem_utf8EncodeChar (a := '\r') (by decide) (List.mem_of_getElem? hreturn))

/-- If all carriage returns are those of line ends, all other characters show. -/
theorem keptBytes_chars {cs : List Char} (h : EndsLines cs) (before after : List UInt8) :
    keptBytes (before ++ (charBytes cs ++ after)) before.length (before.length + byteLength cs) =
      charBytes (cs.filter (· ≠ '\r')) := by
  induction cs generalizing before with
  | nil => simp [keptBytes, byteLength]
  | cons c cs ih =>
    have hrest : EndsLines cs := fun front back heq => h (c :: front) back (by rw [heq]; rfl)
    have hlength : (before ++ String.utf8EncodeChar c).length = before.length + c.utf8Size := by
      rw [List.length_append, String.length_utf8EncodeChar]
    have htail := ih hrest (before ++ String.utf8EncodeChar c)
    rw [hlength, List.append_assoc, ← List.append_assoc (String.utf8EncodeChar c), ← charBytes_cons] at htail
    rw [byteLength, ← Nat.add_assoc, keptBytes_append (Nat.le_add_right _ c.utf8Size) (Nat.le_add_right _ _), htail]
    by_cases hc : c = '\r'
    · -- a carriage return does not show, as a line feed follows it
      subst hc
      obtain ⟨rest, rfl⟩ : ∃ rest, cs = '\n' :: rest := List.head?_eq_some_iff.mp (h [] cs rfl)
      have hdropped : isKept (before ++ (charBytes ('\r' :: '\n' :: rest) ++ after)) before.length = false :=
        @isKept_return before _ [] (.inr rfl)
      rw [show ('\r').utf8Size = 1 from rfl, keptBytes_of_not_isKept hdropped, List.nil_append]
      rfl
    · -- of another character all bytes show
      have hkept : ∀ i, before.length ≤ i → i < before.length + c.utf8Size →
          isKept (before ++ (charBytes (c :: cs) ++ after)) i := by
        intro i hle hlt
        obtain ⟨j, rfl⟩ := Nat.exists_eq_add_of_le hle
        rw [charBytes_cons, List.append_assoc]
        exact isKept_char hc (by omega)
      rw [keptBytes_eq_take hkept, List.drop_left, Nat.add_sub_cancel_left, charBytes_cons, List.append_assoc,
        List.take_left' (String.length_utf8EncodeChar c), List.filter_cons_of_pos (by simpa using hc), charBytes_cons]

/-- Bytes that are marked in a text, and are those of some characters, are these characters. -/
theorem Span.IsWithin.covers {range : Span} {text : String} (h : range.IsWithin text) {part : List Char}
    (hbytes : ((textBytes text).take range.stop).drop range.start = charBytes part) :
    range.Covers text.toList part := by
  obtain ⟨start, stop⟩ := range
  obtain ⟨before, rest, htext, rfl⟩ := h.start
  obtain ⟨middle, after, rfl, rfl⟩ := (htext ▸ h.stop).exists_split h.le
  rw [textBytes_eq, htext, ← List.append_assoc, charBytes_append, charBytes_append, List.take_left'
    (by rw [List.length_append, length_charBytes, length_charBytes]), List.drop_left' (length_charBytes _)] at hbytes
  rw [← charBytes_injective hbytes, htext]
  exact Span.covers_append before middle after

namespace Context

variable {context : Context}

/-- The characters of a span of the document can be marked in an excerpt of the lines on which the span starts and ends. -/
theorem exists_marked {span : Span} {part : List Char} (h : span.Covers context.lines.source.toList part)
    (hreturns : EndsLines part) : ∃ (first last : Nat) (source : String) (range : Span),
      context.lines.lineOf span.start = .ok first ∧ context.lines.lineOf span.stop = .ok last ∧
      context.linesRange first span.start span.stop = .ok (range.start, range.stop) ∧
      context.lines.lines first last = .ok source ∧ range.start ≤ range.stop ∧ range.stop ≤ source.utf8ByteSize ∧
      range.Covers source.toList (part.filter (· ≠ '\r')) := by
  obtain ⟨first, last, source, range, hfirst, hlast, hrange, hsource, hwithin⟩ := linesRange_spec h.isWithin
  refine ⟨first, last, source, range, hfirst, hlast, hrange, hsource, hwithin.le, hwithin.stop_le, hwithin.covers ?_⟩
  have hspan := h.isWithin
  have hsize : span.stop ≤ context.lines.size := hspan.stop_le
  obtain ⟨k, row, hline, hrow, hstart, -⟩ := Lines.lineOf_spec (Nat.le_trans hspan.le hsize)
  obtain rfl : first = k + 1 := Except.ok.inj (hfirst.symm.trans hline)
  obtain ⟨j, last', hstop, hlastRow, -⟩ := Lines.lineOf_spec hsize
  have hcount : last ≤ context.lines.count := by
    rw [Except.ok.inj (hlast.symm.trans hstop)]
    exact (List.getElem?_eq_some_iff.mp hlastRow).1
  obtain ⟨shown, place, hmarks, hplace, -, -⟩ :=
    exists_excerpt hrow hstart hspan.le hlast (Nat.le_refl _) hcount "" false
  -- the lines and the place in them are the same
  obtain rfl : shown = source := Except.ok.inj (hmarks.lines.symm.trans hsource)
  obtain ⟨heqStart, heqStop⟩ := Prod.mk.inj (Except.ok.inj (hplace.symm.trans hrange))
  rw [← heqStart, ← heqStop, hmarks.marked (Lines.row_of_getElem? hrow) hstart hspan.le]
  obtain ⟨before, after, hcs, rfl⟩ := h
  rw [shownBytes, textBytes_eq]
  change keptBytes (charBytes context.lines.source.toList) _ _ = _
  rw [hcs, charBytes_append, charBytes_append, ← length_charBytes before, ← length_charBytes part]
  rw [length_charBytes part, keptBytes_chars hreturns]

end Context

end ProposalCheck
