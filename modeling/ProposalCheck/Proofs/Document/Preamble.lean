import Mathlib.Data.List.TakeWhile
import ProposalCheck.Document.Load
import ProposalCheck.Proofs.Source.Rows
import ProposalCheck.Proofs.Source.Slice

/-!
# Writing and reading preambles

What is written as a preamble is read back as it was, whatever comes behind it. Any other text is read by
the same rules: its first line must be the delimiter, some later line must be, and each line in between must
have a name before its first colon. The rules are tried in this order, and the first line that breaks the
last one is what is reported.

## Main definitions

* `Preamble.written`: fields written as a preamble, with a body behind it
* `Preamble.IsWritable`: fields that can be told apart once they are written
* `Preamble.IsOutcome`: what reading a preamble gives, by the lines of the text
* `Field.Shows`: a field is read from a line

## Main results

* `Preamble.parse_of_written`, `bodySource_of_written`: what is written is read back
* `Preamble.parse_eq_iff`: reading gives the one outcome that the lines allow
* `Preamble.parse_inverts_written`: both together
-/

namespace ProposalCheck

/-! ### Blanks -/

/-- What is no blank is not trimmed. -/
theorem mem_trimEndChars {c : Char} {cs : List Char} (h : c ∈ cs) (hdark : isBlank c = false) :
    c ∈ trimEndChars cs := by
  rw [trimEndChars, List.mem_reverse]
  generalize hrev : cs.reverse = rev
  have hmem : c ∈ rev := hrev ▸ List.mem_reverse.mpr h
  clear hrev
  induction rev with
  | nil => cases hmem
  | cons d rev ih =>
    rw [List.dropWhile_cons]
    split_ifs with hblank
    · rcases List.mem_cons.mp hmem with rfl | hmem
      · rw [hdark] at hblank
        cases hblank
      · exact ih hmem
    · exact hmem

/-! ### Lines of a text -/

namespace Lines

variable {lines : Lines} {k : Nat} {text : String}

theorem line_of_getElem? {row : Row} (h : lines.rowList[k]? = some row) :
    lines.line ((k + 1 : Nat) : Int) = .ok row.text := by
  rw [Int.natCast_add, Int.natCast_one, Lines.line, row_of_getElem? h]
  rfl

theorem exists_of_line (h : lines.line ((k + 1 : Nat) : Int) = .ok text) :
    ∃ row, lines.rowList[k]? = some row ∧ row.text = text := by
  rw [Int.natCast_add, Int.natCast_one, Lines.line] at h
  obtain ⟨row, hrow, htext⟩ := exists_of_bind_eq_ok h
  exact ⟨row, getElem?_of_row hrow, Except.ok.inj htext⟩

end Lines

/-! ### Fields -/

/-- A field is read from a line: name and value are what stands before and after the first colon, and the
line stands at the span of the field. -/
structure Field.Shows (lines : Lines) (line : Nat) (field : Field) : Prop where
  line_eq : field.line = line
  source : lines.line line = .ok field.source
  span : lines.lineSpan line = .ok field.span
  slice : lines.slice field.span.start field.span.stop = .ok field.source
  parts : field.name ++ ":" ++ field.value = field.source
  name : ':' ∉ field.name.toList
  dark : isBlankText field.name = false

/-- A text that is a document has a preamble, and the nodes of its body are those of a tree. -/
theorem Document.exists_of_ofString {text : String} {origin : Option String} {document : Document}
    (h : ofString text origin = .ok document) :
    ∃ closing nodes, Preamble.parse (Lines.ofString text) = .ok (document.preamble, closing) ∧
      Body.placeBlock (Lines.ofString text) closing none 0 none
        (Markdown.Tree.ofMarkdown (Body.textFrom (Lines.ofString text) (closing + 1))) = .ok nodes ∧
      document = ⟨origin, Lines.ofString text, document.preamble, ⟨nodes.toArray, closing + 1⟩⟩ := by
  rw [ofString] at h
  split at h
  · cases h
  · rename_i preamble closing hpreamble
    split at h
    · cases h
    · rename_i body hbody
      rw [Body.parse, Body.ofTree] at hbody
      obtain ⟨nodes, hnodes, heq⟩ := exists_of_bind_eq_ok hbody
      cases heq
      cases h
      exact ⟨closing, nodes, hpreamble, hnodes, rfl⟩

namespace Preamble

variable {lines : Lines} {row : Row} {rows : List Row} {line : Nat}

/-- Is a line the delimiter, but for blanks behind it? -/
def IsDelimiterAt (lines : Lines) (line : Nat) : Prop :=
  ∃ text, lines.line line = .ok text ∧ trimEnd text = delimiter

/-- The first line after the first one that is the delimiter. -/
structure ClosesAt (lines : Lines) (closing : Nat) : Prop where
  two_le : 2 ≤ closing
  isDelimiter : IsDelimiterAt lines closing
  first : ∀ line, 2 ≤ line → line < closing → ¬IsDelimiterAt lines line

/-- A line without a colon. -/
def HasNoColon (lines : Lines) (line : Nat) : Prop :=
  ∃ text, lines.line line = .ok text ∧ ':' ∉ text.toList

/-- A line with nothing but blanks before its first colon. -/
def HasBlankName (lines : Lines) (line : Nat) : Prop :=
  ∃ name value, lines.line line = .ok (name ++ ":" ++ value) ∧ ':' ∉ name.toList ∧ isBlankText name

/-- The first line before the closing one that is no field. -/
structure IsFirstMalformed (lines : Lines) (closing line : Nat) : Prop where
  two_le : 2 ≤ line
  lt : line < closing
  isMalformed : HasNoColon lines line ∨ HasBlankName lines line
  first : ∀ before, 2 ≤ before → before < line → ¬(HasNoColon lines before ∨ HasBlankName lines before)

/-- What reading a preamble gives, by the lines of the text. -/
def IsOutcome (lines : Lines) : Except DocumentProblem (Preamble × Nat) → Prop
  | .error .missingOpening => ¬IsDelimiterAt lines 1
  | .error .missingClosing => IsDelimiterAt lines 1 ∧ ∀ line, 2 ≤ line → ¬IsDelimiterAt lines line
  | .error (.missingColon line) => IsDelimiterAt lines 1 ∧
      ∃ closing, ClosesAt lines closing ∧ IsFirstMalformed lines closing line ∧ HasNoColon lines line
  | .error (.emptyName line) => IsDelimiterAt lines 1 ∧
      ∃ closing, ClosesAt lines closing ∧ IsFirstMalformed lines closing line ∧ HasBlankName lines line
  | .error (.encoding _) => False
  | .ok (preamble, closing) => IsDelimiterAt lines 1 ∧ ClosesAt lines closing ∧
      preamble.fields.length + 2 = closing ∧
      ∀ (k : Nat) (field : Field), preamble.fields[k]? = some field → field.Shows lines (k + 2)

/-! ### Reading one line -/

/-- A line falls in two at its first colon, if it has one. -/
theorem exists_name_of_mem {cs : List Char} (h : ':' ∈ cs) :
    ∃ value, cs = cs.takeWhile (· ≠ ':') ++ ':' :: value ∧ cs.dropWhile (· ≠ ':') = ':' :: value ∧
      ':' ∉ cs.takeWhile (· ≠ ':') := by
  induction cs with
  | nil => cases h
  | cons c cs ih =>
    by_cases hc : c = ':'
    · subst hc
      exact ⟨cs, by simp, by simp, by simp⟩
    · obtain ⟨value, hsplit, hdrop, hname⟩ := ih (by simpa [Ne.symm hc] using h)
      refine ⟨value, ?_, by simpa [hc] using hdrop, by simpa [hc, Ne.symm hc] using hname⟩
      rw [List.takeWhile_cons_of_pos (by simpa using hc), List.cons_append, ← hsplit]

/-- A text falls in two at its first colon in one way only. -/
theorem append_colon_inj {name value other rest : String} (hname : ':' ∉ name.toList) (hother : ':' ∉ other.toList)
    (h : name ++ ":" ++ value = other ++ ":" ++ rest) : name = other ∧ value = rest := by
  have hchars : name.toList ++ ':' :: value.toList = other.toList ++ ':' :: rest.toList := by
    simpa using congrArg String.toList h
  suffices heq : name.toList = other.toList ∧ value.toList = rest.toList from
    ⟨String.toList_inj.mp heq.1, String.toList_inj.mp heq.2⟩
  -- by induction on the first name: a name that ends earlier than the other would have its colon in the other
  generalize name.toList = cs, value.toList = vs, other.toList = ds, rest.toList = rs at *
  clear h
  induction cs generalizing ds with
  | nil =>
    cases ds with
    | nil => exact ⟨rfl, (List.cons.inj hchars).2⟩
    | cons d ds =>
      obtain rfl := (List.cons.inj hchars).1
      exact absurd List.mem_cons_self hother
  | cons c cs ih =>
    cases ds with
    | nil =>
      obtain rfl := (List.cons.inj hchars).1
      exact absurd List.mem_cons_self hname
    | cons d ds =>
      obtain ⟨rfl, hrest⟩ := List.cons.inj hchars
      obtain ⟨rfl, hvalue⟩ := ih ds (fun hmem => hname (List.mem_cons_of_mem _ hmem))
        (fun hmem => hother (List.mem_cons_of_mem _ hmem)) hrest
      exact ⟨rfl, hvalue⟩

/-- What reading a line gives, by the text of the line. -/
theorem parseField_cases (line : Nat) (row : Row) :
    (':' ∉ row.text.toList ∧ parseField line row = .error (.missingColon line)) ∨
    ∃ name value, row.text = name ++ ":" ++ value ∧ ':' ∉ name.toList ∧
      ((isBlankText name ∧ parseField line row = .error (.emptyName line)) ∨
        (isBlankText name = false ∧ parseField line row = .ok ⟨name, value, line, row.span, row.text⟩)) := by
  rw [parseField]
  by_cases hcolon : ':' ∈ row.text.toList
  · obtain ⟨value, hsplit, hdrop, hname⟩ := exists_name_of_mem hcolon
    rw [hdrop]
    -- the name ends before the first colon
    generalize row.text.toList.takeWhile (· ≠ ':') = name at *
    have htext : row.text = String.ofList name ++ ":" ++ String.ofList value := by
      rw [← String.toList_inj, hsplit]
      simp
    refine .inr ⟨String.ofList name, String.ofList value, htext, by rwa [String.toList_ofList], ?_⟩
    dsimp only
    rw [isBlankText, String.toList_ofList]
    cases name.all isBlank with
    | true => exact .inl ⟨rfl, rfl⟩
    | false => exact .inr ⟨rfl, rfl⟩
  · have hnone : row.text.toList.dropWhile (· ≠ ':') = [] := by
      rw [List.dropWhile_eq_nil_iff]
      intro c hc
      simpa using fun heq : c = ':' => hcolon (heq ▸ hc)
    rw [hnone]
    exact .inl ⟨hcolon, rfl⟩

/-! ### Reading all lines -/

theorem parseFields_cons (line : Nat) (row : Row) (rows : List Row) :
    parseFields line (row :: rows) = (parseField line row).bind fun field =>
      (parseFields (line + 1) rows).map (field :: ·) := by
  rw [parseFields]
  cases parseField line row with
  | error problem => rfl
  | ok field => cases parseFields (line + 1) rows <;> rfl

theorem parseFields_of_ok {fields : List Field} (h : parseFields line rows = .ok fields) :
    fields.length = rows.length ∧ ∀ (k : Nat) (row : Row) (field : Field), rows[k]? = some row →
      fields[k]? = some field → parseField (line + k) row = .ok field := by
  induction rows generalizing line fields with
  | nil =>
    cases h
    simp
  | cons first rows ih =>
    rw [parseFields_cons] at h
    obtain ⟨field, hfield, h⟩ := exists_of_bind_eq_ok h
    obtain ⟨others, hothers, rfl⟩ := exists_of_map_eq_ok h
    obtain ⟨hlength, hrest⟩ := ih hothers
    refine ⟨by rw [List.length_cons, List.length_cons, hlength], fun k row other hrow hother => ?_⟩
    cases k with
    | zero =>
      cases hrow
      cases hother
      exact hfield
    | succ k =>
      rw [show line + (k + 1) = line + 1 + k by omega]
      exact hrest k row other hrow hother

/-- The first line that is no field is reported. -/
theorem parseFields_of_error {problem : DocumentProblem} (h : parseFields line rows = .error problem) :
    ∃ k row, rows[k]? = some row ∧ parseField (line + k) row = .error problem ∧
      ∀ (j : Nat) (before : Row), j < k → rows[j]? = some before →
        ∃ field, parseField (line + j) before = .ok field := by
  induction rows generalizing line with
  | nil => cases h
  | cons first rows ih =>
    rw [parseFields_cons] at h
    cases hfield : parseField line first with
    | error other =>
      rw [hfield] at h
      cases h
      -- what comes behind the first problem is not read
      exact ⟨0, first, rfl, hfield, fun j _ hj => absurd hj (Nat.not_lt_zero j)⟩
    | ok field =>
      rw [hfield] at h
      cases hothers : parseFields (line + 1) rows with
      | ok others =>
        rw [hothers] at h
        cases h
      | error other =>
        rw [hothers] at h
        cases h
        -- the problem is one of the lines behind this one
        obtain ⟨k, row, hrow, hproblem, hbefore⟩ := ih hothers
        refine ⟨k + 1, row, hrow, by rwa [show line + (k + 1) = line + 1 + k by omega], fun j before hj hget => ?_⟩
        cases j with
        | zero =>
          cases hget
          exact ⟨field, hfield⟩
        | succ j =>
          rw [show line + (j + 1) = line + 1 + j by omega]
          exact hbefore j before (Nat.lt_of_succ_lt_succ hj) hget

/-- What holds a colon is no delimiter. -/
theorem not_isDelimiter_of_mem (h : ':' ∈ row.text.toList) : isDelimiter row = false := by
  rw [isDelimiter, decide_eq_false_iff_not]
  intro hdelimiter
  have hmem : ':' ∈ trimEndChars row.text.toList := mem_trimEndChars h (by decide)
  rw [← String.toList_ofList (l := trimEndChars _), ← trimEnd, hdelimiter] at hmem
  exact absurd hmem (by decide)

/-- A preamble is read from rows that are a delimiter, fields, and the next delimiter. -/
theorem parse_eq_ok_iff {preamble : Preamble} {closing : Nat} : parse lines = .ok (preamble, closing) ↔
    ∃ opening fields close body, lines.rowList = opening :: (fields ++ close :: body) ∧ isDelimiter opening ∧
      (∀ row ∈ fields, isDelimiter row = false) ∧ isDelimiter close ∧
      parseFields 2 fields = .ok preamble.fields ∧ closing = fields.length + 2 := by
  constructor
  · intro h
    rw [parse] at h
    split at h
    · cases h
    · rename_i opening rest hrows
      dsimp only at h
      split_ifs at h with hopening hclosing
      obtain ⟨fields, hfields, heq⟩ := exists_of_map_eq_ok h
      cases heq
      -- the rows in front of the next delimiter are the fields, and there is one as not all rows are in front of it
      have hsplit := List.takeWhile_append_dropWhile (p := fun row => !isDelimiter row) (l := rest)
      have hclose := List.head?_dropWhile_not (fun row => !isDelimiter row) rest
      cases hrest : rest.dropWhile fun row => !isDelimiter row with
      | nil =>
        rw [hrest, List.append_nil] at hsplit
        exact absurd (congrArg List.length hsplit) hclosing
      | cons close body =>
        rw [hrest] at hsplit hclose
        refine ⟨opening, _, close, body, hrows.trans (congrArg _ hsplit.symm), by simpa using hopening, ?_,
          by simpa using hclose, hfields, rfl⟩
        intro row hrow
        simpa using List.mem_takeWhile_imp hrow
  · rintro ⟨opening, fields, close, body, hrows, hopening, hplain, hclose, hfields, rfl⟩
    have htake : (fields ++ close :: body).takeWhile (fun row => !isDelimiter row) = fields := by
      rw [List.takeWhile_append_of_pos (by simpa using hplain), List.takeWhile_cons_of_neg (by simp [hclose]),
        List.append_nil]
    have hmore : ¬fields.length = (fields ++ close :: body).length := by
      rw [List.length_append, List.length_cons]
      omega
    rw [parse, show lines.rows.toList = _ from hrows]
    dsimp only
    rw [hopening, htake, if_neg (by decide), if_neg hmore, hfields]
    rfl

/-! ### The outcome by the lines -/

theorem isDelimiterAt_iff {k : Nat} (h : lines.rowList[k]? = some row) :
    IsDelimiterAt lines (k + 1) ↔ isDelimiter row := by
  rw [isDelimiter, decide_eq_true_eq]
  constructor
  · rintro ⟨text, htext, hdelimiter⟩
    obtain rfl := Except.ok.inj (htext.symm.trans (Lines.line_of_getElem? h))
    exact hdelimiter
  · intro hdelimiter
    exact ⟨row.text, Lines.line_of_getElem? h, hdelimiter⟩

/-- A line that can be read shows that it is no malformed one. -/
theorem not_isMalformed {k : Nat} {field : Field} (h : lines.rowList[k]? = some row)
    (hfield : parseField line row = .ok field) : ¬(HasNoColon lines (k + 1) ∨ HasBlankName lines (k + 1)) := by
  have hline := Lines.line_of_getElem? h
  rcases parseField_cases line row with ⟨-, herror⟩ | ⟨name, value, htext, hname, ⟨-, herror⟩ | ⟨hdark, -⟩⟩
  · rw [herror] at hfield
    cases hfield
  · rw [herror] at hfield
    cases hfield
  · rintro (⟨text, htext', hcolon⟩ | ⟨other, rest, htext', hother, hblank⟩)
    · obtain rfl := Except.ok.inj (htext'.symm.trans hline)
      rw [htext] at hcolon
      simp at hcolon
    · have heq := Except.ok.inj (htext'.symm.trans hline)
      obtain ⟨rfl, -⟩ := append_colon_inj hother hname (heq.trans htext)
      rw [hdark] at hblank
      cases hblank

/-- A line that is no field is malformed. -/
theorem isMalformed_of_error {k : Nat} {problem : DocumentProblem} (h : lines.rowList[k]? = some row)
    (hproblem : parseField (k + 1) row = .error problem) :
    (problem = .missingColon (k + 1) ∧ HasNoColon lines (k + 1)) ∨
      (problem = .emptyName (k + 1) ∧ HasBlankName lines (k + 1)) := by
  have hline := Lines.line_of_getElem? h
  rcases parseField_cases (k + 1) row with
    ⟨hcolon, herror⟩ | ⟨name, value, htext, hname, ⟨hblank, herror⟩ | ⟨-, hok⟩⟩
  · exact .inl ⟨Except.error.inj (hproblem.symm.trans herror), row.text, hline, hcolon⟩
  · refine .inr ⟨Except.error.inj (hproblem.symm.trans herror), name, value, ?_, hname, hblank⟩
    rw [← htext]
    exact hline
  · rw [hok] at hproblem
    cases hproblem

/-- A field that is read from a row shows its line. -/
theorem shows_of_parseField {k : Nat} {field : Field} (h : lines.rowList[k]? = some row)
    (hfield : parseField (k + 1) row = .ok field) : field.Shows lines (k + 1) := by
  rcases parseField_cases (k + 1) row with ⟨-, herror⟩ | ⟨name, value, htext, hname, ⟨-, herror⟩ | ⟨hdark, hok⟩⟩
  · rw [herror] at hfield
    cases hfield
  · rw [herror] at hfield
    cases hfield
  · obtain rfl := Except.ok.inj (hok.symm.trans hfield)
    refine ⟨rfl, Lines.line_of_getElem? h, ?_, Lines.slice_row h, htext.symm, hname, hdark⟩
    rw [Int.natCast_add, Int.natCast_one]
    exact Lines.lineSpan_of_getElem? h

/-- Rows before a delimiter are read one after the other, from the second line on. -/
theorem isOutcome_parseFields {closing : Nat} (hopening : IsDelimiterAt lines 1) (hcloses : ClosesAt lines closing)
    (hlength : rows.length + 2 = closing) (hrows : ∀ {k : Nat} {row : Row}, rows[k]? = some row →
      lines.rowList[k + 1]? = some row) :
    IsOutcome lines ((parseFields 2 rows).map fun fields => (⟨fields⟩, closing)) := by
  cases hfields : parseFields 2 rows with
  | ok fields =>
    obtain ⟨hcount, hall⟩ := parseFields_of_ok hfields
    refine ⟨hopening, hcloses, by rw [hcount, hlength], fun k field hfield => ?_⟩
    have hlt : k < rows.length := by
      rw [← hcount]
      exact (List.getElem?_eq_some_iff.mp hfield).1
    have hrow := List.getElem?_eq_getElem hlt
    refine shows_of_parseField (hrows hrow) ?_
    rw [show k + 1 + 1 = 2 + k by omega]
    exact hall k _ field hrow hfield
  | error problem =>
    obtain ⟨k, row, hrow, hproblem, hbefore⟩ := parseFields_of_error hfields
    rw [show 2 + k = k + 1 + 1 by omega] at hproblem
    have hlt : k < rows.length := (List.getElem?_eq_some_iff.mp hrow).1
    -- every line before that of the error has been read as a field, so none of them is malformed
    have hfirst : (HasNoColon lines (k + 2) ∨ HasBlankName lines (k + 2)) →
        IsFirstMalformed lines closing (k + 2) := by
      intro hmalformed
      refine ⟨by omega, by omega, hmalformed, fun before htwo hlt' => ?_⟩
      obtain ⟨j, rfl⟩ : ∃ j, before = j + 1 + 1 := ⟨before - 2, by omega⟩
      have hget := List.getElem?_eq_getElem (show j < rows.length by omega)
      obtain ⟨field, hfield⟩ := hbefore j _ (by omega) hget
      exact not_isMalformed (hrows hget) hfield
    rcases isMalformed_of_error (hrows hrow) hproblem with ⟨rfl, hcolon⟩ | ⟨rfl, hblank⟩
    · exact ⟨hopening, closing, hcloses, hfirst (.inl hcolon), hcolon⟩
    · exact ⟨hopening, closing, hcloses, hfirst (.inr hblank), hblank⟩

/-- No line that comes from a row without a delimiter is one. -/
theorem not_isDelimiterAt {first : Row} {body others : List Row}
    (hrows : lines.rowList = first :: (body ++ others)) (hbody : ∀ row ∈ body, isDelimiter row = false)
    {line : Nat} (htwo : 2 ≤ line) (hlt : line < body.length + 2) : ¬IsDelimiterAt lines line := by
  obtain ⟨k, rfl⟩ : ∃ k, line = k + 1 + 1 := ⟨line - 2, by omega⟩
  have hrow := List.getElem?_eq_getElem (show k < body.length by omega)
  have hget : lines.rowList[k + 1]? = some body[k] := by
    rw [hrows, List.getElem?_cons_succ, List.getElem?_append_left (by omega), hrow]
  rw [isDelimiterAt_iff hget, hbody _ (List.mem_of_getElem? hrow)]
  exact Bool.false_ne_true

/-- There are no lines behind the last row. -/
theorem le_of_isDelimiterAt {line : Nat} (hpos : 1 ≤ line) (h : IsDelimiterAt lines line) :
    line ≤ lines.rowList.length := by
  obtain ⟨text, htext, -⟩ := h
  obtain ⟨k, rfl⟩ : ∃ k, line = k + 1 := ⟨line - 1, by omega⟩
  obtain ⟨row, hrow, -⟩ := Lines.exists_of_line htext
  exact (List.getElem?_eq_some_iff.mp hrow).1

/-- Reading gives what the lines allow. -/
theorem isOutcome_parse (lines : Lines) : IsOutcome lines (parse lines) := by
  obtain ⟨first, hfirst, -⟩ := lines.tiles.head
  obtain ⟨rest, hrows⟩ := List.head?_eq_some_iff.mp (List.head?_eq_getElem? ▸ hfirst)
  have hopening := isDelimiterAt_iff hfirst
  -- the rows up to the first delimiter, which none of them is
  have hbody : ∀ row ∈ rest.takeWhile (fun row => !isDelimiter row), isDelimiter row = false := by
    intro row hrow
    simpa using List.mem_takeWhile_imp hrow
  have hsplit := List.takeWhile_append_dropWhile (p := fun row => !isDelimiter row) (l := rest)
  have hnext := List.head?_dropWhile_not (fun row => !isDelimiter row) rest
  rw [parse, show lines.rows.toList = _ from hrows]
  dsimp only
  generalize rest.takeWhile (fun row => !isDelimiter row) = body at *
  generalize rest.dropWhile (fun row => !isDelimiter row) = others at *
  subst hsplit
  split_ifs with hdelimiter hclosing
  · intro hat
    simp [hopening.mp hat] at hdelimiter
  · refine ⟨hopening.mpr (by simpa using hdelimiter), fun line htwo hat => ?_⟩
    have hle := le_of_isDelimiterAt (by omega) hat
    rw [hrows, List.length_cons, ← hclosing] at hle
    exact not_isDelimiterAt hrows hbody htwo (by omega) hat
  · cases others with
    | nil => simp at hclosing
    | cons row others =>
      have hget : ∀ k, lines.rowList[k + 1]? = (body ++ row :: others)[k]? := fun k => by
        rw [hrows, List.getElem?_cons_succ]
      have hrow : lines.rowList[body.length + 1]? = some row := by simp [hget]
      refine isOutcome_parseFields (hopening.mpr (by simpa using hdelimiter))
        ⟨by omega, (isDelimiterAt_iff hrow).mpr (by simpa using hnext), fun line => not_isDelimiterAt hrows hbody⟩
        rfl fun {k other} hother => ?_
      rw [hget, List.getElem?_append_left (List.getElem?_eq_some_iff.mp hother).1, hother]

/-- The preamble ends with one of the lines. -/
theorem closing_le_count {preamble : Preamble} {closing : Nat} (h : parse lines = .ok (preamble, closing)) :
    closing ≤ lines.count := by
  have houtcome := isOutcome_parse lines
  rw [h] at houtcome
  have hcloses := houtcome.2.1
  have hle := le_of_isDelimiterAt (by have := hcloses.two_le; omega) hcloses.isDelimiter
  rwa [Lines.length_rowList] at hle

/-- What is wrong with a preamble is not that its bytes are no text. -/
theorem parse_ne_encoding {problem : DocumentProblem} (h : parse lines = .error problem) (error : Utf8Error) :
    problem ≠ .encoding error := by
  rintro rfl
  have houtcome := isOutcome_parse lines
  rw [h] at houtcome
  exact houtcome

/-! ### One outcome only -/

theorem ClosesAt.unique {closing other : Nat} (h : ClosesAt lines closing) (hother : ClosesAt lines other) :
    closing = other := by
  rcases Nat.lt_trichotomy closing other with hlt | heq | hgt
  · exact absurd h.isDelimiter (hother.first closing h.two_le hlt)
  · exact heq
  · exact absurd hother.isDelimiter (h.first other hother.two_le hgt)

theorem IsFirstMalformed.unique {closing other n m : Nat} (h : IsFirstMalformed lines closing n)
    (hother : IsFirstMalformed lines other m) : n = m := by
  rcases Nat.lt_trichotomy n m with hlt | heq | hgt
  · exact absurd h.isMalformed (hother.first n h.two_le hlt)
  · exact heq
  · exact absurd hother.isMalformed (h.first m hother.two_le hgt)

/-- A line without a colon has no name before its first colon. -/
theorem HasNoColon.not_hasBlankName (h : HasNoColon lines line) : ¬HasBlankName lines line := by
  rintro ⟨name, value, htext, -, -⟩
  obtain ⟨text, htext', hcolon⟩ := h
  obtain rfl := Except.ok.inj (htext.symm.trans htext')
  simp at hcolon

/-- A line that a field shows is not malformed. -/
theorem not_isMalformed_of_shows {field : Field} (h : field.Shows lines line) :
    ¬(HasNoColon lines line ∨ HasBlankName lines line) := by
  rintro (⟨text, htext, hcolon⟩ | ⟨name, value, htext, hname, hblank⟩)
  · obtain rfl := Except.ok.inj (htext.symm.trans h.source)
    rw [← h.parts] at hcolon
    simp at hcolon
  · have heq := Except.ok.inj (htext.symm.trans h.source)
    obtain ⟨rfl, -⟩ := append_colon_inj hname h.name (heq.trans h.parts.symm)
    rw [h.dark] at hblank
    cases hblank

theorem shows_unique {field other : Field} (h : field.Shows lines line) (hother : other.Shows lines line) :
    field = other := by
  have hsource := Except.ok.inj (h.source.symm.trans hother.source)
  have hspan := Except.ok.inj (h.span.symm.trans hother.span)
  have hline := h.line_eq.trans hother.line_eq.symm
  obtain ⟨hname, hvalue⟩ := append_colon_inj h.name hother.name (h.parts.trans (hsource.trans hother.parts.symm))
  cases field
  cases other
  simp_all

namespace IsOutcome

variable {result : Except DocumentProblem (Preamble × Nat)} {closing n : Nat}

theorem of_not_opening (h : IsOutcome lines result) (hopening : ¬IsDelimiterAt lines 1) :
    result = .error .missingOpening := by
  match result, h with
  | .error .missingOpening, _ => rfl
  | .error .missingClosing, h => exact absurd h.1 hopening
  | .error (.missingColon _), h => exact absurd h.1 hopening
  | .error (.emptyName _), h => exact absurd h.1 hopening
  | .ok (_, _), h => exact absurd h.1 hopening

theorem of_not_closing (h : IsOutcome lines result) (hopening : IsDelimiterAt lines 1)
    (hclosing : ∀ line, 2 ≤ line → ¬IsDelimiterAt lines line) : result = .error .missingClosing := by
  have hnone : ∀ closing, ¬ClosesAt lines closing := fun closing h => hclosing closing h.two_le h.isDelimiter
  match result, h with
  | .error .missingOpening, h => exact absurd hopening h
  | .error .missingClosing, _ => rfl
  | .error (.missingColon _), ⟨_, closing, hcloses, _⟩ => exact absurd hcloses (hnone closing)
  | .error (.emptyName _), ⟨_, closing, hcloses, _⟩ => exact absurd hcloses (hnone closing)
  | .ok (_, closing), ⟨_, hcloses, _⟩ => exact absurd hcloses (hnone closing)

theorem of_malformed (h : IsOutcome lines result) (hopening : IsDelimiterAt lines 1)
    (hcloses : ClosesAt lines closing) (hfirst : IsFirstMalformed lines closing n) :
    (HasNoColon lines n ∧ result = .error (.missingColon n)) ∨
      (HasBlankName lines n ∧ result = .error (.emptyName n)) := by
  match result, h with
  | .error .missingOpening, h => exact absurd hopening h
  | .error .missingClosing, h => exact absurd hcloses.isDelimiter (h.2 closing hcloses.two_le)
  | .error (.missingColon m), ⟨_, _, _, hother, hcolon⟩ =>
    obtain rfl := hfirst.unique hother
    exact .inl ⟨hcolon, rfl⟩
  | .error (.emptyName m), ⟨_, _, _, hother, hblank⟩ =>
    obtain rfl := hfirst.unique hother
    exact .inr ⟨hblank, rfl⟩
  | .ok (preamble, other), ⟨_, hother, hlength, hshows⟩ =>
    -- a field shows that the line is none
    obtain rfl := hcloses.unique hother
    have htwo := hfirst.two_le
    have hlt := hfirst.lt
    have hget := List.getElem?_eq_getElem (show n - 2 < preamble.fields.length by omega)
    have hfield := hshows (n - 2) _ hget
    rw [Nat.sub_add_cancel htwo] at hfield
    exact absurd hfirst.isMalformed (not_isMalformed_of_shows hfield)

theorem of_fields {preamble : Preamble} (h : IsOutcome lines result) (hok : IsOutcome lines (.ok (preamble, closing))) :
    result = .ok (preamble, closing) := by
  match result, h with
  | .error .missingOpening, h => exact absurd hok.1 h
  | .error .missingClosing, h => exact absurd hok.2.1.isDelimiter (h.2 closing hok.2.1.two_le)
  -- a malformed line would leave an error, and not the fields
  | .error (.missingColon _), ⟨hopening, _, hcloses, hfirst, _⟩ =>
    rcases of_malformed hok hopening hcloses hfirst with ⟨_, heq⟩ | ⟨_, heq⟩ <;> cases heq
  | .error (.emptyName _), ⟨hopening, _, hcloses, hfirst, _⟩ =>
    rcases of_malformed hok hopening hcloses hfirst with ⟨_, heq⟩ | ⟨_, heq⟩ <;> cases heq
  | .ok (other, _), ⟨_, hcloses, hlength, hshows⟩ =>
    obtain ⟨-, hcloses', hlength', hshows'⟩ := hok
    obtain rfl := hcloses.unique hcloses'
    have hfields : other.fields = preamble.fields := by
      refine List.ext_getElem (by omega) fun k hk hk' => ?_
      exact shows_unique (hshows k _ (List.getElem?_eq_getElem hk)) (hshows' k _ (List.getElem?_eq_getElem hk'))
    cases other
    cases preamble
    cases hfields
    rfl

/-- The lines of a text allow one outcome. -/
theorem unique {other : Except DocumentProblem (Preamble × Nat)} (h : IsOutcome lines result)
    (hother : IsOutcome lines other) : result = other := by
  match other, hother with
  | .error .missingOpening, hother => exact h.of_not_opening hother
  | .error .missingClosing, ⟨hopening, hclosing⟩ => exact h.of_not_closing hopening hclosing
  | .error (.missingColon n), ⟨hopening, _, hcloses, hfirst, hcolon⟩ =>
    rcases h.of_malformed hopening hcloses hfirst with ⟨_, heq⟩ | ⟨hblank, _⟩
    · exact heq
    · exact absurd hblank hcolon.not_hasBlankName
  | .error (.emptyName n), ⟨hopening, _, hcloses, hfirst, hblank⟩ =>
    rcases h.of_malformed hopening hcloses hfirst with ⟨hcolon, _⟩ | ⟨_, heq⟩
    · exact absurd hblank hcolon.not_hasBlankName
    · exact heq
  | .ok (preamble, closing), hother => exact h.of_fields hother

end IsOutcome

/-- Reading a preamble gives the one outcome that the lines of the text allow. -/
theorem parse_eq_iff (lines : Lines) (result : Except DocumentProblem (Preamble × Nat)) :
    parse lines = result ↔ IsOutcome lines result := by
  constructor
  · rintro rfl
    exact isOutcome_parse lines
  · exact (isOutcome_parse lines).unique

/-! ### Writing -/

/-- Fields written to one line each. -/
def writtenFields : List (String × String) → String
  | [] => ""
  | (name, value) :: rest => name ++ ":" ++ value ++ "\n" ++ writtenFields rest

/-- Fields written as a preamble, with a body behind it. -/
def written (pairs : List (String × String)) (body : String) : String :=
  delimiter ++ "\n" ++ writtenFields pairs ++ delimiter ++ "\n" ++ body

/-- Fields that can be told apart once they are written: no line ends within them, no colon within a name and
no carriage return at the end of a value, and every name is more than blanks. -/
def IsWritable (pairs : List (String × String)) : Prop :=
  ∀ name value, (name, value) ∈ pairs → '\n' ∉ name.toList ∧ '\n' ∉ value.toList ∧ ':' ∉ name.toList ∧
    isBlankText name = false ∧ value.toList.getLast? ≠ some '\r'

/-- The fields that are read from lines of which the first has a number and a start. -/
def readFields : Nat → Nat → List (String × String) → List Field
  | _, _, [] => []
  | line, start, (name, value) :: rest =>
    let source := name ++ ":" ++ value
    ⟨name, value, line, ⟨start, start + source.utf8ByteSize⟩, source⟩ ::
      readFields (line + 1) (start + source.utf8ByteSize + 1) rest

/-- The rows of written fields. -/
def fieldRows : Nat → List (String × String) → List Row
  | _, [] => []
  | start, (name, value) :: rest =>
    let source := name ++ ":" ++ value
    ⟨start, source.toList⟩ :: fieldRows (start + source.utf8ByteSize + 1) rest

section written

variable {pairs : List (String × String)} {start : Nat}

/-- A field is written to a line whose text it is. -/
theorem isWritable_cons {name value : String} (h : IsWritable ((name, value) :: pairs)) :
    '\n' ∉ (name ++ ":" ++ value).toList ∧
      Row.dropReturn (name ++ ":" ++ value).toList = (name ++ ":" ++ value).toList ∧
      ':' ∉ name.toList ∧ isBlankText name = false ∧ IsWritable pairs := by
  obtain ⟨hname, hvalue, hcolon, hdark, hreturn⟩ := h name value List.mem_cons_self
  refine ⟨by simp [hname, hvalue], ?_, hcolon, hdark, fun other rest hmem => h other rest (List.mem_cons_of_mem _ hmem)⟩
  rw [Row.dropReturn, if_neg]
  rw [String.toList_append, String.toList_append, List.getLast?_append, List.getLast?_append]
  cases hlast : value.toList.getLast? with
  | none => simp
  | some c =>
    intro heq
    exact hreturn (hlast.trans heq)

theorem ofChars_writtenFields (h : IsWritable pairs) (start : Nat) (rest : List Char) :
    Row.ofChars start ((writtenFields pairs).toList ++ rest) =
      fieldRows start pairs ++ Row.ofChars (start + (writtenFields pairs).utf8ByteSize) rest := by
  induction pairs generalizing start with
  | nil => rfl
  | cons pair pairs ih =>
    obtain ⟨name, value⟩ := pair
    obtain ⟨hfree, -, -, -, hrest⟩ := isWritable_cons h
    have hsize : (writtenFields ((name, value) :: pairs)).utf8ByteSize =
        (name ++ ":" ++ value).utf8ByteSize + 1 + (writtenFields pairs).utf8ByteSize := by
      rw [writtenFields, String.utf8ByteSize_append, String.utf8ByteSize_append]
      rfl
    have hchars : (writtenFields ((name, value) :: pairs)).toList ++ rest =
        (name ++ ":" ++ value).toList ++ '\n' :: ((writtenFields pairs).toList ++ rest) := by
      simp [writtenFields]
    rw [hchars, Row.ofChars_append_feed hfree, byteLength_toList, ih hrest, hsize, fieldRows, List.cons_append,
      ← Nat.add_assoc, ← Nat.add_assoc]

theorem length_fieldRows (start : Nat) (pairs : List (String × String)) :
    (fieldRows start pairs).length = pairs.length := by
  induction pairs generalizing start with
  | nil => rfl
  | cons pair pairs ih => rw [fieldRows, List.length_cons, List.length_cons, ih]

theorem parseFields_fieldRows (h : IsWritable pairs) (line start : Nat) :
    parseFields line (fieldRows start pairs) = .ok (readFields line start pairs) := by
  induction pairs generalizing line start with
  | nil => rfl
  | cons pair pairs ih =>
    obtain ⟨name, value⟩ := pair
    obtain ⟨-, hreturn, hcolon, hdark, hrest⟩ := isWritable_cons h
    have htext : Row.text ⟨start, (name ++ ":" ++ value).toList⟩ = name ++ ":" ++ value := by
      rw [Row.text, hreturn, String.ofList_toList]
    have hspan : Row.span ⟨start, (name ++ ":" ++ value).toList⟩ =
        ⟨start, start + (name ++ ":" ++ value).utf8ByteSize⟩ := by
      rw [Row.span, hreturn, byteLength_toList]
    have hfield : parseField line ⟨start, (name ++ ":" ++ value).toList⟩ =
        .ok ⟨name, value, line, ⟨start, start + (name ++ ":" ++ value).utf8ByteSize⟩, name ++ ":" ++ value⟩ := by
      -- the name has no colon, so the line falls in two where it was put together
      rcases parseField_cases line ⟨start, (name ++ ":" ++ value).toList⟩ with
        ⟨hnone, -⟩ | ⟨other, rest, hsplit, hother, hcases⟩
      · rw [htext] at hnone
        simp at hnone
      · rw [htext] at hsplit
        obtain ⟨rfl, rfl⟩ := append_colon_inj hcolon hother hsplit
        rcases hcases with ⟨hblank, -⟩ | ⟨-, hok⟩
        · rw [hdark] at hblank
          cases hblank
        · rw [hok, htext, hspan]
    rw [fieldRows, parseFields_cons, hfield, ih hrest]
    rfl

/-- The colon of a written field stays when the line is trimmed. -/
theorem not_isDelimiter_fieldRows (h : IsWritable pairs) (start : Nat) :
    ∀ row ∈ fieldRows start pairs, isDelimiter row = false := by
  induction pairs generalizing start with
  | nil => simp [fieldRows]
  | cons pair pairs ih =>
    obtain ⟨name, value⟩ := pair
    obtain ⟨-, hreturn, -, -, hrest⟩ := isWritable_cons h
    rw [fieldRows]
    refine List.forall_mem_cons.mpr ⟨?_, ih hrest _⟩
    refine not_isDelimiter_of_mem ?_
    rw [Row.text, hreturn, String.ofList_toList]
    simp

/-- The rows of a written preamble: the delimiter, the fields, the delimiter, and the rows of the body. -/
theorem rowList_written (h : IsWritable pairs) (body : String) :
    ∃ start, (Lines.ofString (written pairs body)).rowList =
      ⟨0, delimiter.toList⟩ :: (fieldRows 4 pairs ++ ⟨start, delimiter.toList⟩ :: Row.ofChars (start + 4) body.toList) := by
  refine ⟨4 + (writtenFields pairs).utf8ByteSize, ?_⟩
  have hchars : (written pairs body).toList =
      delimiter.toList ++ '\n' :: ((writtenFields pairs).toList ++ (delimiter.toList ++ '\n' :: body.toList)) := by
    simp [written]
  rw [Lines.rowList, Lines.rows_eq, List.toList_toArray]
  rw [show (Lines.ofString (written pairs body)).source = written pairs body from rfl, hchars,
    Row.ofChars_append_feed (by decide), ofChars_writtenFields h, Row.ofChars_append_feed (by decide)]
  rfl

theorem isDelimiter_delimiter (start : Nat) : isDelimiter ⟨start, delimiter.toList⟩ = true := by
  rw [show isDelimiter ⟨start, delimiter.toList⟩ = isDelimiter ⟨0, delimiter.toList⟩ from rfl]
  decide

/-- What is written as a preamble is read back, with the number of the closing line. -/
theorem parse_of_written (h : IsWritable pairs) (body : String) :
    parse (Lines.ofString (written pairs body)) = .ok (⟨readFields 2 4 pairs⟩, pairs.length + 2) := by
  obtain ⟨start, hrows⟩ := rowList_written h body
  exact parse_eq_ok_iff.mpr ⟨_, _, _, _, hrows, isDelimiter_delimiter 0, not_isDelimiter_fieldRows h 4,
    isDelimiter_delimiter start, parseFields_fieldRows h 2 4, by rw [length_fieldRows]⟩

/-- The body behind a written preamble is read back when the document can be read. -/
theorem bodySource_of_written (h : IsWritable pairs) {body : String} {origin : Option String} {document : Document}
    (hdocument : Document.ofString (written pairs body) origin = .ok document) : document.bodySource = body := by
  obtain ⟨closing, nodes, hparse, -, heq⟩ := Document.exists_of_ofString hdocument
  have hlines : document.lines = Lines.ofString (written pairs body) := congrArg Document.lines heq
  have hfirst : document.body.firstLine = closing + 1 := congrArg (·.body.firstLine) heq
  rw [parse_of_written h body] at hparse
  obtain ⟨-, rfl⟩ := Prod.mk.inj (Except.ok.inj hparse)
  obtain ⟨start, hrows⟩ := rowList_written h body
  have hdrop : (Lines.ofString (written pairs body)).rows.toList.drop (pairs.length + 2) =
      Row.ofChars (start + 4) body.toList := by
    rw [show (Lines.ofString (written pairs body)).rows.toList = _ from hrows, List.drop_succ_cons,
      ← length_fieldRows 4 pairs, List.drop_length_add_append]
    rfl
  rw [Document.bodySource, hlines, hfirst, Nat.add_sub_cancel, hdrop, (Row.tiles_ofChars _ _).intercalate_chars,
    String.ofList_toList]

end written

/-- Writing a preamble and reading it are inverse, and reading accepts what its lines allow: it gives the
fields that were written, verbatim, in order and at their lines, and the body behind them; and for any text it
gives the one outcome that the lines of the text allow. -/
theorem parse_inverts_written :
    (∀ pairs body, IsWritable pairs →
      parse (Lines.ofString (written pairs body)) = .ok (⟨readFields 2 4 pairs⟩, pairs.length + 2) ∧
        ∀ origin document, Document.ofString (written pairs body) origin = .ok document →
          document.bodySource = body) ∧
    ∀ text result, parse (Lines.ofString text) = result ↔ IsOutcome (Lines.ofString text) result := by
  refine ⟨fun pairs body h => ⟨parse_of_written h body, fun _ _ => bodySource_of_written h⟩, fun text result => ?_⟩
  exact parse_eq_iff _ result

/-- A value with a colon and blanks around it, an empty value, and a body that ends a line. -/
theorem parse_inverts_written_colon :
    IsWritable [("a", " b:c "), ("\td", "")] ∧
      parse (Lines.ofString "---\na: b:c \n\td:\n---\n\n# e") =
        .ok (⟨[⟨"a", " b:c ", 2, ⟨4, 11⟩, "a: b:c "⟩, ⟨"\td", "", 3, ⟨12, 15⟩, "\td:"⟩]⟩, 4) ∧
      ∃ document, Document.ofString "---\na: b:c \n\td:\n---\n\n# e" none = .ok document ∧
        document.bodySource = "\n# e" := by
  have hwritable : IsWritable [("a", " b:c "), ("\td", "")] := by
    intro name value hmem
    simp only [List.mem_cons, Prod.mk.injEq, List.not_mem_nil, or_false] at hmem
    rcases hmem with ⟨rfl, rfl⟩ | ⟨rfl, rfl⟩ <;> decide
  obtain ⟨hparse, hbody⟩ := parse_inverts_written.1 _ "\n# e" hwritable
  have hread : (Document.ofString "---\na: b:c \n\td:\n---\n\n# e" none).toBool := by decide +kernel
  refine ⟨hwritable, hparse, ?_⟩
  cases hdocument : Document.ofString "---\na: b:c \n\td:\n---\n\n# e" none with
  | error error =>
    rw [hdocument] at hread
    cases hread
  | ok document => exact ⟨document, rfl, hbody none document hdocument⟩

end Preamble

end ProposalCheck
