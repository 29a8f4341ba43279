import ProposalCheck.Proofs.Json.Form

/-!
# The grammar of JSON values

A value is written as a word, a number, a string, or as brackets with items or members between them. Items and members
are separated by commas and may have blanks around them. The grammar says nothing about how long a number is or how
deep brackets are nested, and it does not depend on a reader. Whatever the reader accepts is derived by it.

## Main definitions

* `Inner`, `Symbol`: what stands between brackets, and what can be derived
* `Derives`: the texts of a value, of an entry and of the entries between brackets

## Main results

* `Form.derives`: a form is written as a value
* `exists_derives_of_decode`: a text that can be read is a value with blanks around it
-/

namespace ProposalCheck.Json

/-- What stands between brackets. -/
inductive Inner where
  | item
  | member
  deriving DecidableEq, Repr

/-- The bracket in front of items or members. -/
def Inner.opening : Inner → Char
  | item => '['
  | member => '\x7b'

/-- The bracket behind items or members. -/
def Inner.closing : Inner → Char
  | item => ']'
  | member => '\x7d'

/-- What can be derived: a value, one item or member with the blanks around it, or all that stand between two
brackets. -/
inductive Symbol where
  | value
  | entry (inner : Inner)
  | entries (inner : Inner)
  deriving DecidableEq, Repr

/-- The texts of a symbol. -/
inductive Derives : Symbol → List Char → Prop
  | word {word : List Char} {value : Json} (h : (word, value) ∈ wordValues) : Derives .value word
  | number {chars : List Char} (h : IsNumber chars) : Derives .value chars
  | string {glyphs : List Glyph} (h : ∀ g ∈ glyphs, g.IsValid) :
      Derives .value ('"' :: (Glyph.written glyphs ++ ['"']))
  | empty (inner : Inner) {gap : List Char} (hgap : gap.all isSpace) :
      Derives .value (inner.opening :: (gap ++ [inner.closing]))
  | brackets (inner : Inner) {cs : List Char} (h : Derives (.entries inner) cs) :
      Derives .value (inner.opening :: (cs ++ [inner.closing]))
  | item {before value after : List Char} (hbefore : before.all isSpace) (hvalue : Derives .value value)
      (hafter : after.all isSpace) : Derives (.entry .item) (before ++ (value ++ after))
  | member {before gap gap' value after : List Char} {name : List Glyph} (hbefore : before.all isSpace)
      (hname : ∀ g ∈ name, g.IsValid) (hgap : gap.all isSpace) (hgap' : gap'.all isSpace)
      (hvalue : Derives .value value) (hafter : after.all isSpace) :
      Derives (.entry .member) (before ++ (nameChars name gap gap' ++ (value ++ after)))
  | last {inner : Inner} {cs : List Char} (h : Derives (.entry inner) cs) : Derives (.entries inner) cs
  | more {inner : Inner} {cs rest : List Char} (h : Derives (.entry inner) cs)
      (hrest : Derives (.entries inner) rest) : Derives (.entries inner) (cs ++ ',' :: rest)

/-- A word or number that is read is derived. -/
theorem IsBare.derives {chars : List Char} {value : Json} (h : IsBare chars value) : Derives .value chars := by
  -- in front of the end of a text all of it is read, as a word or as a number
  have hread := h.reads [] endsValue_nil
  rw [List.append_nil] at hread
  rcases scanBare_cases hread with ⟨word, hmem, rfl⟩ | hscan
  · rw [List.append_nil]
    exact .word hmem
  · obtain ⟨number, rfl, hnumber⟩ := exists_isNumber_of_scanNumber hscan
    rw [List.append_nil]
    exact .number hnumber

mutual

/-- A form is written as a value. -/
theorem Form.derives {form : Form} (h : form.IsValid) : Derives .value form.chars := by
  cases form with
  | bare chars value => exact IsBare.derives h
  | str glyphs => exact .string h
  | emptyArr gap => exact .empty .item h
  | arr gap items =>
    rw [Form.chars, ← List.append_assoc]
    exact .brackets .item (Items.derives h.1 h.2)
  | emptyObj gap => exact .empty .member h
  | obj gap members =>
    rw [Form.chars, ← List.append_assoc]
    exact .brackets .member (Members.derives h.1 h.2)

theorem Items.derives {items : Items} {before : List Char} (hbefore : before.all isSpace) (h : items.IsValid) :
    Derives (.entries .item) (before ++ items.chars) := by
  cases items with
  | one item after => exact .last (.item hbefore (Form.derives h.1) h.2)
  | more item after next rest =>
    obtain ⟨hitem, hafter, hnext, hrest⟩ := h
    have hmore := Derives.more (.item hbefore (Form.derives hitem) hafter) (Items.derives hnext hrest)
    simpa [Items.chars] using hmore

theorem Members.derives {members : Members} {before : List Char} (hbefore : before.all isSpace)
    (h : members.IsValid) : Derives (.entries .member) (before ++ members.chars) := by
  cases members with
  | one name gap gap' value after =>
    obtain ⟨hname, hgap, hgap', hvalue, hafter⟩ := h
    exact .last (.member hbefore hname hgap hgap' (Form.derives hvalue) hafter)
  | more name gap gap' value after next rest =>
    obtain ⟨hname, hgap, hgap', hvalue, hafter, hnext, hrest⟩ := h
    have hmore := Derives.more (.member hbefore hname hgap hgap' (Form.derives hvalue) hafter)
      (Members.derives hnext hrest)
    simpa [Members.chars] using hmore

end

/-- A text that can be read is a value with blanks around it. -/
theorem exists_derives_of_decode {text : String} {result : Json} (h : decode text = .ok result) :
    ∃ lead value trail, text.toList = lead ++ (value ++ trail) ∧ lead.all isSpace ∧ trail.all isSpace ∧
      Derives .value value := by
  obtain ⟨form, ⟨hvalid, lead, trail, hlead, htrail, htext⟩, -⟩ := exists_spells_of_decode h
  exact ⟨lead, form.chars, trail, htext, hlead, htrail, Form.derives hvalid⟩

end ProposalCheck.Json
