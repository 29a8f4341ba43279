import ProposalCheck.Proofs.Yaml.Layout
import ProposalCheck.Yaml.Node

/-!
# The tokens of a JSON text

A form is cut into the tokens of its brackets, commas, colons and scalars, each at its place. Only the mark
in front of a name may be missing among them.

## Main definitions

* `Form.Emits`: the tokens of a form
* `Passed`: the scanner passes a form and adds its tokens

## Main results

* `passed_form`: every form is passed
* `exists_tokens_of_ofText`: the tokens of a text that is spelled by a form
-/

namespace ProposalCheck.Json

open Yaml (Token TokenKind tokenAt EmitsName)

mutual

/-- The tokens of a form that stands at a place of a text. -/
def Form.Emits (start : Yaml.Cursor) : Form → Nat → List Token → Prop
  | .bare _ _, k, own => ∃ text stop, own = [tokenAt start (.scalar text true) k stop]
  | .str _, k, own => ∃ text stop, own = [tokenAt start (.scalar text false) k stop]
  | .emptyArr gap, k, own => ∃ stop last, own = [tokenAt start .flowSequenceStart k stop,
      tokenAt start .flowSequenceEnd (k + 1 + gap.length) last]
  | .arr gap items, k, own => ∃ stop inner last, items.Emits start (k + 1 + gap.length) inner ∧
      own = tokenAt start .flowSequenceStart k stop ::
        (inner ++ [tokenAt start .flowSequenceEnd (k + 1 + gap.length + items.chars.length) last])
  | .emptyObj gap, k, own => ∃ stop last, own = [tokenAt start .flowMappingStart k stop,
      tokenAt start .flowMappingEnd (k + 1 + gap.length) last]
  | .obj gap members, k, own => ∃ stop inner last, members.Emits start (k + 1 + gap.length) inner ∧
      own = tokenAt start .flowMappingStart k stop ::
        (inner ++ [tokenAt start .flowMappingEnd (k + 1 + gap.length + members.chars.length) last])

/-- The tokens of items. -/
def Items.Emits (start : Yaml.Cursor) : Items → Nat → List Token → Prop
  | .one item _, k, own => item.Emits start k own
  | .more item after before rest, k, own => ∃ first stop others, item.Emits start k first ∧
      rest.Emits start (k + item.chars.length + after.length + 1 + before.length) others ∧
      own = first ++ tokenAt start .flowEntry (k + item.chars.length + after.length) stop :: others

/-- The tokens of members. -/
def Members.Emits (start : Yaml.Cursor) : Members → Nat → List Token → Prop
  | .one name gap gap' value _, k, own => ∃ front first, EmitsName start name k front ∧
      value.Emits start (k + (nameChars name gap gap').length) first ∧ own = front ++ first
  | .more name gap gap' value after before rest, k, own => ∃ front first stop others,
      EmitsName start name k front ∧
      value.Emits start (k + (nameChars name gap gap').length) first ∧
      rest.Emits start (k + (nameChars name gap gap').length + value.chars.length + after.length + 1 +
        before.length) others ∧
      own = front ++ (first ++ tokenAt start .flowEntry
        (k + (nameChars name gap gap').length + value.chars.length + after.length) stop :: others)

end

end ProposalCheck.Json

namespace ProposalCheck.Yaml

open Json (Form Items Members Glyph isSpace nameChars EndsValue)

section emission

variable {start : Cursor} {out : Array Token} {k : Nat} {tokens : List Token} {brackets : List Bracket}
  {allowsKey : Bool} {lead gap rest : List Char}

theorem drop_of_append {text front : List Char} (h : text.drop k = front ++ rest) :
    text.drop (k + front.length) = rest := by
  rw [← List.drop_drop, h, List.drop_left]

theorem drop_succ_of_append {text front : List Char} {c : Char} (h : text.drop k = front ++ c :: rest) :
    text.drop (k + front.length + 1) = rest := by
  rw [← List.drop_drop, drop_of_append h]
  rfl

theorem drop_name {text gap : List Char} {name : List Glyph}
    (h : text.drop k = '"' :: (Glyph.written name ++ '"' :: (gap ++ ':' :: rest))) :
    text.drop (k + ((Glyph.written name).length + 2) + gap.length + 1) = rest :=
  drop_succ_of_append (by rw [← List.drop_drop, h, drop_literal])

/-- The place behind a name with its colon. -/
theorem place_nameChars (name : List Glyph) (gap gap' : List Char) :
    k + ((Glyph.written name).length + 2) + gap.length + 1 + gap'.length =
      k + (nameChars name gap gap').length := by
  simp only [nameChars, List.length_cons, List.length_append]
  omega

/-- The scanner has passed a form, and some of the blanks behind it. -/
def Passed (start : Cursor) (out : Array Token) (form : Form) (k : Nat) (gap rest : List Char)
    (tokens : List Token) (brackets : List Bracket) : Prop :=
  ∃ own n allowsKey, form.Emits start k own ∧ n ≤ gap.length ∧
    start.rest.drop (k + (form.chars.length + n)) = gap.drop n ++ rest ∧
    Reaches start out (k + (form.chars.length + n)) (tokens ++ own) brackets allowsKey

variable {form : Form}

theorem Passed.of_reaches {own : List Token} (hrest : start.rest.drop k = form.chars ++ (gap ++ rest))
    (hown : form.Emits start k own)
    (h : Reaches start out (k + form.chars.length) (tokens ++ own) brackets allowsKey) :
    Passed start out form k gap rest tokens brackets :=
  ⟨own, 0, allowsKey, hown, Nat.zero_le _, drop_of_append hrest, h⟩

/-- The place behind a gap of which some blanks have been passed. -/
theorem place_add_drop {n length : Nat} (hn : n ≤ gap.length) :
    k + (length + n) + (gap.drop n).length = k + length + gap.length := by
  rw [List.length_drop]
  omega

/-- A comma behind a form. -/
theorem Passed.comma (h : Passed start out form k gap (',' :: rest) tokens brackets)
    (hgap : gap.all isSpace) :
    ∃ own stop, form.Emits start k own ∧ Reaches start out (k + form.chars.length + gap.length + 1)
      (tokens ++ (own ++ [tokenAt start .flowEntry (k + form.chars.length + gap.length) stop]))
      brackets true := by
  obtain ⟨own, n, allowsKey, hown, hn, hrest, hreach⟩ := h
  obtain ⟨stop, hnext⟩ := hreach.comma (all_isSpace_drop hgap n) hrest
  rw [place_add_drop hn, List.append_assoc] at hnext
  exact ⟨own, stop, hown, hnext⟩

/-- A closing bracket behind a form. -/
theorem Passed.closeBracket {c : Char} {bracket : Bracket} {kind : TokenKind} (hc : isDark c)
    (hkind : ∀ layout : Layout, layout.cursor.peek = c → layout.step = layout.closeBracket kind)
    (h : Passed start out form k gap (c :: rest) tokens (bracket :: brackets)) (hgap : gap.all isSpace) :
    ∃ own stop, form.Emits start k own ∧ Reaches start out (k + form.chars.length + gap.length + 1)
      (tokens ++ (own ++ [tokenAt start kind (k + form.chars.length + gap.length) stop]))
      brackets false := by
  obtain ⟨own, n, allowsKey, hown, hn, hrest, hreach⟩ := h
  obtain ⟨stop, hnext⟩ := hreach.closeBracket hc hkind (all_isSpace_drop hgap n) hrest
  rw [place_add_drop hn, List.append_assoc] at hnext
  exact ⟨own, stop, hown, hnext⟩

theorem Layout.step_openSquare (layout : Layout) (h : layout.cursor.peek = '[') :
    layout.step = layout.openBracket .square .flowSequenceStart := by
  rw [Layout.step, h]
  rfl

theorem Layout.step_openCurly (layout : Layout) (h : layout.cursor.peek = '\x7b') :
    layout.step = layout.openBracket .curly .flowMappingStart := by
  rw [Layout.step, h]
  rfl

theorem Layout.step_closeSquare (layout : Layout) (h : layout.cursor.peek = ']') :
    layout.step = layout.closeBracket .flowSequenceEnd := by
  rw [Layout.step, h]
  rfl

theorem Layout.step_closeCurly (layout : Layout) (h : layout.cursor.peek = '\x7d') :
    layout.step = layout.closeBracket .flowMappingEnd := by
  rw [Layout.step, h]
  rfl

/-- Brackets with nothing but blanks between them. -/
theorem Reaches.emptyBrackets {c c' : Char} {bracket : Bracket} {kind kind' : TokenKind} (hc : isDark c)
    (hkind : ∀ layout : Layout, layout.cursor.peek = c → layout.step = layout.openBracket bracket kind)
    (hc' : isDark c')
    (hkind' : ∀ layout : Layout, layout.cursor.peek = c' → layout.step = layout.closeBracket kind')
    (h : Reaches start out k tokens brackets allowsKey) (hlead : lead.all isSpace) (hgap : gap.all isSpace)
    (hrest : start.rest.drop k = lead ++ c :: (gap ++ c' :: rest)) :
    ∃ stop last, Reaches start out (k + lead.length + 1 + gap.length + 1)
      (tokens ++ [tokenAt start kind (k + lead.length) stop,
        tokenAt start kind' (k + lead.length + 1 + gap.length) last]) brackets false := by
  obtain ⟨stop, hopen⟩ := h.openBracket hc hkind hlead hrest
  obtain ⟨last, hclose⟩ := hopen.closeBracket hc' hkind' hgap (drop_succ_of_append hrest)
  rw [List.append_assoc] at hclose
  exact ⟨stop, last, hclose⟩

/-- The place behind brackets. -/
theorem place_brackets (c c' : Char) (gap inner : List Char) :
    k + 1 + gap.length + inner.length + 1 = k + (c :: (gap ++ (inner ++ [c']))).length := by
  simp only [List.length_cons, List.length_append, List.length_nil]
  omega

/-- What closes brackets, or a comma, stops a plain scalar. -/
theorem stopsPlain_of_isFlowMark {c : Char} (h : isFlowMark c) : StopsPlain true (c :: rest) := by
  simp [StopsPlain, h]

end emission

section passing

variable {start : Cursor} {out : Array Token}

mutual

/-- The scanner passes a form and adds its tokens. -/
theorem passed_form {form : Form} {k : Nat} {tokens : List Token} {brackets : List Bracket}
    {allowsKey : Bool} {lead gap rest : List Char} (hform : form.IsValid)
    (h : Reaches start out k tokens brackets allowsKey) (hlead : lead.all isSpace) (hgap : gap.all isSpace)
    (hdark : IsDark rest) (hstop : StopsPlain (!brackets.isEmpty) rest)
    (hrest : start.rest.drop k = lead ++ (form.chars ++ (gap ++ rest))) :
    Passed start out form (k + lead.length) gap rest tokens brackets := by
  have hstart := drop_of_append hrest
  cases form with
  -- only a bare value may take blanks behind it along
  | bare chars value =>
    obtain ⟨text, n, stop, allowsKey, hn, hreach⟩ := h.bare hform hlead hgap hdark hstop hrest
    refine ⟨_, n, allowsKey, ⟨text, stop, rfl⟩, hn, ?_, hreach⟩
    rw [← Nat.add_assoc, ← List.drop_drop, drop_of_append hstart, List.drop_append_of_le_length hn]
  | str glyphs =>
    simp only [Form.chars, List.cons_append, List.append_assoc, List.nil_append] at hrest
    obtain ⟨text, stop, hreach⟩ := h.string hform hlead hrest
    exact .of_reaches hstart ⟨text, stop, rfl⟩ (by simpa [Form.chars] using hreach)
  | emptyArr gap' =>
    simp only [Form.chars, List.cons_append, List.append_assoc, List.nil_append] at hrest
    obtain ⟨stop, last, hclose⟩ := h.emptyBrackets (by decide) Layout.step_openSquare (by decide)
      Layout.step_closeSquare hlead hform hrest
    exact .of_reaches hstart ⟨stop, last, rfl⟩ (place_brackets _ _ gap' [] ▸ hclose)
  | arr gap' items =>
    simp only [Form.chars, List.cons_append, List.append_assoc, List.nil_append] at hrest
    obtain ⟨stop, hopen⟩ := h.openBracket (by decide) Layout.step_openSquare hlead hrest
    obtain ⟨inner, last, hinner, hclose⟩ := passed_items hform.2 hopen hform.1
      (drop_succ_of_append hrest)
    rw [place_brackets '[' ']' gap' items.chars, List.append_assoc] at hclose
    exact .of_reaches hstart ⟨stop, inner, last, hinner, rfl⟩ hclose
  | emptyObj gap' =>
    simp only [Form.chars, List.cons_append, List.append_assoc, List.nil_append] at hrest
    obtain ⟨stop, last, hclose⟩ := h.emptyBrackets (by decide) Layout.step_openCurly (by decide)
      Layout.step_closeCurly hlead hform hrest
    exact .of_reaches hstart ⟨stop, last, rfl⟩ (place_brackets _ _ gap' [] ▸ hclose)
  | obj gap' members =>
    simp only [Form.chars, List.cons_append, List.append_assoc, List.nil_append] at hrest
    obtain ⟨stop, hopen⟩ := h.openBracket (by decide) Layout.step_openCurly hlead hrest
    obtain ⟨inner, last, hinner, hclose⟩ := passed_members hform.2 hopen hform.1
      (drop_succ_of_append hrest)
    rw [place_brackets '\x7b' '\x7d' gap' members.chars, List.append_assoc] at hclose
    exact .of_reaches hstart ⟨stop, inner, last, hinner, rfl⟩ hclose

/-- The scanner passes items with the bracket behind them. -/
theorem passed_items {items : Items} {k : Nat} {tokens : List Token} {brackets : List Bracket}
    {allowsKey : Bool} {lead rest : List Char} (hitems : items.IsValid)
    (h : Reaches start out k tokens (.square :: brackets) allowsKey) (hlead : lead.all isSpace)
    (hrest : start.rest.drop k = lead ++ (items.chars ++ ']' :: rest)) :
    ∃ own stop, items.Emits start (k + lead.length) own ∧
      Reaches start out (k + lead.length + items.chars.length + 1)
        (tokens ++ (own ++
          [tokenAt start .flowSequenceEnd (k + lead.length + items.chars.length) stop])) brackets false := by
  cases items with
  | one item after =>
    rw [Items.chars, List.append_assoc] at hrest
    have hitem := passed_form hitems.1 h hlead hitems.2 (isDark_cons (by decide))
      (stopsPlain_of_isFlowMark (by decide)) hrest
    obtain ⟨own, stop, hown, hreach⟩ := hitem.closeBracket (by decide) Layout.step_closeSquare hitems.2
    refine ⟨own, stop, hown, ?_⟩
    rwa [Items.chars, List.length_append, ← Nat.add_assoc]
  | more item after before others =>
    obtain ⟨hitem, hafter, hbefore, hothers⟩ := hitems
    simp only [Items.chars, List.append_assoc, List.cons_append] at hrest
    have hpassed := passed_form hitem h hlead hafter (isDark_cons (by decide))
      (stopsPlain_of_isFlowMark (by decide)) hrest
    obtain ⟨first, comma, hfirst, hreach⟩ := hpassed.comma hafter
    have hnext : start.rest.drop (k + lead.length + item.chars.length + after.length + 1) =
        before ++ (others.chars ++ ']' :: rest) :=
      drop_succ_of_append (drop_of_append (drop_of_append hrest))
    -- behind the comma the other items are passed in the same way
    obtain ⟨own, stop, hown, hlast⟩ := passed_items hothers hreach hbefore hnext
    refine ⟨_, stop, ⟨first, comma, own, hfirst, hown, rfl⟩, ?_⟩
    have hplace : k + lead.length + item.chars.length + after.length + 1 + before.length +
        others.chars.length = k + lead.length + (Items.more item after before others).chars.length := by
      simp only [Items.chars, List.length_cons, List.length_append]
      omega
    rw [hplace] at hlast
    simpa using hlast

/-- The scanner passes members with the brace behind them. -/
theorem passed_members {members : Members} {k : Nat} {tokens : List Token} {brackets : List Bracket}
    {lead rest : List Char} (hmembers : members.IsValid)
    (h : Reaches start out k tokens (.curly :: brackets) true) (hlead : lead.all isSpace)
    (hrest : start.rest.drop k = lead ++ (members.chars ++ '\x7d' :: rest)) :
    ∃ own stop, members.Emits start (k + lead.length) own ∧
      Reaches start out (k + lead.length + members.chars.length + 1)
        (tokens ++ (own ++
          [tokenAt start .flowMappingEnd (k + lead.length + members.chars.length) stop])) brackets false := by
  cases members with
  | one name gap gap' value after =>
    obtain ⟨hname, hgap, hgap', hvalue, hafter⟩ := hmembers
    simp only [Members.chars, nameChars, List.append_assoc, List.cons_append] at hrest
    obtain ⟨front, hfront, hcolon⟩ := h.name hname hgap hlead hrest
    have hpassed := passed_form hvalue hcolon hgap' hafter (isDark_cons (by decide))
      (stopsPlain_of_isFlowMark (by decide)) (drop_name (drop_of_append hrest))
    rw [place_nameChars] at hpassed
    obtain ⟨own, stop, hown, hreach⟩ :=
      hpassed.closeBracket (by decide) Layout.step_closeCurly hafter
    refine ⟨_, stop, ⟨front, own, hfront, hown, rfl⟩, ?_⟩
    have hend : k + lead.length + (nameChars name gap gap').length + value.chars.length + after.length =
        k + lead.length + (Members.one name gap gap' value after).chars.length := by
      simp only [Members.chars, List.length_append]
      omega
    rw [hend] at hreach
    simpa using hreach
  | more name gap gap' value after before others =>
    obtain ⟨hname, hgap, hgap', hvalue, hafter, hbefore, hothers⟩ := hmembers
    simp only [Members.chars, nameChars, List.append_assoc, List.cons_append] at hrest
    obtain ⟨front, hfront, hcolon⟩ := h.name hname hgap hlead hrest
    have hvalueRest := drop_name (drop_of_append hrest)
    have hpassed := passed_form hvalue hcolon hgap' hafter (isDark_cons (by decide))
      (stopsPlain_of_isFlowMark (by decide)) hvalueRest
    have hnext := drop_succ_of_append (drop_of_append (drop_of_append hvalueRest))
    rw [place_nameChars] at hpassed hnext
    obtain ⟨first, comma, hfirst, hreach⟩ := hpassed.comma hafter
    obtain ⟨own, stop, hown, hlast⟩ := passed_members hothers hreach hbefore hnext
    refine ⟨_, stop, ⟨front, first, comma, own, hfront, hfirst, hown, rfl⟩, ?_⟩
    have hend : k + lead.length + (nameChars name gap gap').length + value.chars.length + after.length + 1 +
        before.length + others.chars.length =
        k + lead.length + (Members.more name gap gap' value after before others).chars.length := by
      simp only [Members.chars, List.length_cons, List.length_append]
      omega
    rw [hend] at hlast
    simpa using hlast

end

/-- The tokens of a text that is spelled by a form. -/
theorem exists_tokens_of_ofText {form : Form} {lead trail : List Char} {text : String}
    {tokens : Array Token} (hform : form.IsValid) (hlead : lead.all isSpace) (htrail : trail.all isSpace)
    (htext : text.toList = lead ++ (form.chars ++ trail)) (h : Token.ofText text = .ok tokens) :
    ∃ own last, form.Emits (.ofString text) lead.length own ∧ last.kind = .streamEnd ∧
      tokens.toList = own ++ [last] := by
  have hmark : (Cursor.ofString text).peek ≠ '\ufeff' := by
    rw [Cursor.peek, Cursor.ofString, List.headD_eq_head?_getD]
    intro hpeek
    cases hhead : text.toList.head? with
    | none =>
      rw [hhead] at hpeek
      exact absurd hpeek (by decide)
    | some c =>
      obtain rfl : c = '\ufeff' := by rwa [hhead] at hpeek
      exact Json.Form.head?_ne_mark hform hlead trail (htext ▸ hhead)
  unfold Token.ofText at h
  split at h
  · simp at h
  · simp only [hmark, if_false] at h
    have hreach : Reaches (.ofString text) tokens 0 [] [] true := ⟨_, [], h⟩
    obtain ⟨own, n, allowsKey, hown, hn, hrest, hreach⟩ :=
      passed_form hform hreach hlead htrail isDark_nil (by simp [StopsPlain])
        (by simpa [Cursor.ofString] using htext : (Cursor.ofString text).rest.drop 0 =
          lead ++ (form.chars ++ (trail ++ [])))
    rw [List.append_nil] at hrest
    obtain ⟨last, hlast, rfl⟩ := hreach.finish (all_isSpace_drop htrail n) hrest
    rw [Nat.zero_add] at hown
    exact ⟨own, last, hown, hlast, by simp⟩

end passing

end ProposalCheck.Yaml
