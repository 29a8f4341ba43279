import ProposalCheck.Proofs.Json.Literal
import ProposalCheck.Proofs.Json.Number

/-!
# JSON texts taken apart

A form is a JSON value as it is written, with all its blanks. Reading a text is finding the form that is
written there: what has been read is a form, and a form is read as its value wherever it stands.

## Main definitions

* `Form`, `Items`, `Members`: values, what stands between brackets, and what stands between braces
* `Form.chars`: how a form is written
* `Form.value`: the value of a form
* `Form.Spells`: a text is a form with blanks around it

## Main results

* `exists_form_of_scanValue`: what has been read is a form
* `Form.scanValue_chars`: how a form is read, whatever follows it
* `exists_spells_of_decode`: a text that can be read is spelled by a form
* `Form.Spells.decode`: a text that is spelled by a form is read as the value of the form
-/

namespace ProposalCheck.Json

mutual

/-- A value as it is written. -/
inductive Form where
  /-- A word or a number. -/
  | bare (chars : List Char) (value : Json)
  | str (glyphs : List Glyph)
  | emptyArr (gap : List Char)
  | arr (gap : List Char) (items : Items)
  | emptyObj (gap : List Char)
  | obj (gap : List Char) (members : Members)

/-- Items with the blanks and commas between them. -/
inductive Items where
  | one (item : Form) (after : List Char)
  | more (item : Form) (after before : List Char) (rest : Items)

/-- Members with the blanks, colons and commas between them. -/
inductive Members where
  | one (name : List Glyph) (gap gap' : List Char) (value : Form) (after : List Char)
  | more (name : List Glyph) (gap gap' : List Char) (value : Form) (after before : List Char)
      (rest : Members)

end

/-- A name with its quotes and the colon after it. -/
def nameChars (name : List Glyph) (gap gap' : List Char) : List Char :=
  '"' :: (Glyph.written name ++ '"' :: (gap ++ ':' :: gap'))

mutual

/-- How a form is written. -/
def Form.chars : Form → List Char
  | .bare chars _ => chars
  | .str glyphs => '"' :: (Glyph.written glyphs ++ ['"'])
  | .emptyArr gap => '[' :: (gap ++ [']'])
  | .arr gap items => '[' :: (gap ++ (items.chars ++ [']']))
  | .emptyObj gap => '\x7b' :: (gap ++ ['\x7d'])
  | .obj gap members => '\x7b' :: (gap ++ (members.chars ++ ['\x7d']))

/-- How items are written. -/
def Items.chars : Items → List Char
  | .one item after => item.chars ++ after
  | .more item after before rest => item.chars ++ (after ++ ',' :: (before ++ rest.chars))

/-- How members are written. -/
def Members.chars : Members → List Char
  | .one name gap gap' value after => nameChars name gap gap' ++ (value.chars ++ after)
  | .more name gap gap' value after before rest =>
    nameChars name gap gap' ++ (value.chars ++ (after ++ ',' :: (before ++ rest.chars)))

end

mutual

/-- The value of a form. -/
def Form.value : Form → Json
  | .bare _ value => value
  | .str glyphs => .str (Glyph.text glyphs)
  | .emptyArr _ => .arr []
  | .arr _ items => .arr items.values
  | .emptyObj _ => .obj []
  | .obj _ members => .obj (members.valuesAfter [])

/-- The values of items. -/
def Items.values : Items → List Json
  | .one item _ => [item.value]
  | .more item _ _ rest => item.value :: rest.values

/-- The values of members, added to those of earlier ones. -/
def Members.valuesAfter (earlier : List (String × Json)) : Members → List (String × Json)
  | .one name _ _ value _ => insertMember (Glyph.text name) value.value earlier
  | .more name _ _ value _ _ rest =>
    rest.valuesAfter (insertMember (Glyph.text name) value.value earlier)

end

mutual

/-- Are the parts of a form what they are said to be? -/
def Form.IsValid : Form → Prop
  | .bare chars value => IsBare chars value
  | .str glyphs => ∀ g ∈ glyphs, g.IsValid
  | .emptyArr gap => gap.all isSpace
  | .arr gap items => gap.all isSpace ∧ items.IsValid
  | .emptyObj gap => gap.all isSpace
  | .obj gap members => gap.all isSpace ∧ members.IsValid

/-- The same for items. -/
def Items.IsValid : Items → Prop
  | .one item after => item.IsValid ∧ after.all isSpace
  | .more item after before rest =>
    item.IsValid ∧ after.all isSpace ∧ before.all isSpace ∧ rest.IsValid

/-- The same for members. -/
def Members.IsValid : Members → Prop
  | .one name gap gap' value after =>
    (∀ g ∈ name, g.IsValid) ∧ gap.all isSpace ∧ gap'.all isSpace ∧ value.IsValid ∧ after.all isSpace
  | .more name gap gap' value after before rest =>
    (∀ g ∈ name, g.IsValid) ∧ gap.all isSpace ∧ gap'.all isSpace ∧ value.IsValid ∧
      after.all isSpace ∧ before.all isSpace ∧ rest.IsValid

end

/-! ### Blanks -/

section blanks

variable {gap rest : List Char}

theorem skipSpace_append (hgap : gap.all isSpace) (hrest : ∀ c ∈ rest.head?, isSpace c = false) :
    skipSpace (gap ++ rest) = rest := by
  rw [skipSpace, List.dropWhile_append_of_pos (List.all_eq_true.mp hgap)]
  cases rest with
  | nil => rfl
  | cons c rest => simp [hrest c rfl]

theorem exists_gap_of_skipSpace {cs : List Char} (h : skipSpace cs = rest) :
    ∃ gap, cs = gap ++ rest ∧ gap.all isSpace ∧ ∀ c ∈ rest.head?, isSpace c = false := by
  subst h
  refine ⟨cs.takeWhile isSpace, List.takeWhile_append_dropWhile.symm, List.all_takeWhile, ?_⟩
  intro c hc
  have := List.head?_dropWhile_not isSpace cs
  rw [skipSpace] at hc
  rw [Option.mem_def.mp hc] at this
  simpa using this

theorem exists_gap (cs : List Char) :
    ∃ gap more, cs = gap ++ more ∧ skipSpace cs = more ∧ gap.all isSpace := by
  obtain ⟨gap, hcs, hgap, -⟩ := exists_gap_of_skipSpace (rfl : skipSpace cs = skipSpace cs)
  exact ⟨gap, _, hcs, rfl, hgap⟩

/-- What stands in front of a delimiter, blanks aside, ends there. -/
theorem endsValue_of_skipSpace {cs : List Char} {c : Char} (h : skipSpace cs = c :: rest)
    (hc : isDelimiter c) : EndsValue cs := by
  obtain ⟨gap, rfl, hgap, -⟩ := exists_gap_of_skipSpace h
  exact EndsValue.append hgap (endsValue_cons hc)

end blanks

/-- The characters that values start with. -/
def startsValue (c : Char) : Bool := isBareChar c || c = '"' || c = '[' || c = '\x7b'

theorem not_isDelimiter_of_startsValue {c : Char} (h : startsValue c) : isDelimiter c = false := by
  simp only [startsValue, Bool.or_eq_true, decide_eq_true_eq] at h
  rcases h with ((h | rfl) | rfl) | rfl
  · exact not_isDelimiter_of_isBareChar h
  all_goals decide

theorem Form.exists_chars_eq_cons {form : Form} (h : form.IsValid) :
    ∃ c rest, form.chars = c :: rest ∧ startsValue c := by
  cases form with
  | bare chars value =>
    obtain ⟨c, rest, rfl, -⟩ := IsBare.start h
    have hc : isBareChar c := List.all_eq_true.mp h.all c List.mem_cons_self
    exact ⟨c, rest, rfl, by simp [startsValue, hc]⟩
  | str | emptyArr | arr | emptyObj | obj => exact ⟨_, _, rfl, by decide⟩

theorem not_isSpace_of_startsValue {c : Char} (h : startsValue c) : isSpace c = false := by
  have := not_isDelimiter_of_startsValue h
  simp_all [isDelimiter]

/-! ### What has been read is a form -/

/-- What values are read as with some fuel: forms. -/
def ReadsForms (fuel : Nat) : Prop :=
  ∀ {cs rest : List Char} {value : Json}, scanValue fuel cs = .ok (value, rest) → EndsValue rest →
    ∃ form : Form, form.IsValid ∧ cs = form.chars ++ rest ∧ form.value = value

/-- A value that has been read in front of a delimiter, blanks aside, is a form with these blanks behind it. -/
theorem exists_form_of_scanValue {fuel : Nat} (h : ReadsForms fuel) {cs after last : List Char} {c : Char}
    {value : Json} (hread : scanValue fuel cs = .ok (value, after)) (hskip : skipSpace after = c :: last)
    (hc : isDelimiter c) :
    ∃ form : Form, ∃ gap, form.IsValid ∧ gap.all isSpace ∧ cs = form.chars ++ (gap ++ c :: last) ∧
      form.value = value := by
  obtain ⟨form, hform, rfl, hvalue⟩ := h hread (endsValue_of_skipSpace hskip hc)
  obtain ⟨gap, rfl, hgap, -⟩ := exists_gap_of_skipSpace hskip
  exact ⟨form, gap, hform, hgap, rfl, hvalue⟩

/-- A string that has been read with the fuel of its text is read with it as the text of its glyphs. -/
theorem exists_name_of_scanString {cs rest : List Char} {text : String}
    (h : scanString ('"' :: cs).length ('"' :: cs).length [] cs = .ok (text, rest)) :
    ∃ name, (∀ g ∈ name, g.IsValid) ∧ cs = Glyph.written name ++ '"' :: rest ∧ text = Glyph.text name := by
  obtain ⟨name, hname, rfl⟩ := Glyph.exists_of_scanString h
  have hfuel : name.length < ('"' :: (Glyph.written name ++ '"' :: rest)).length := by
    have := Glyph.length_le_written name
    simp only [List.length_cons, List.length_append]
    omega
  rw [Glyph.scanString_written hname hfuel] at h
  obtain ⟨rfl, -⟩ : Glyph.text name = text ∧ True := by simpa using h
  exact ⟨name, hname, rfl, rfl⟩

theorem exists_members_of_scanMembers {fuel : Nat} (hforms : ∀ k < fuel, ReadsForms k)
    {earlier : List (String × Json)} {cs rest : List Char} {value : Json}
    (h : scanMembers fuel earlier cs = .ok (value, rest)) :
    ∃ members : Members, members.IsValid ∧ cs = members.chars ++ '\x7d' :: rest ∧
      value = .obj (members.valuesAfter earlier) := by
  induction fuel generalizing earlier cs with
  | zero => simp [scanMembers] at h
  | succ fuel ih =>
    unfold scanMembers at h
    split at h
    swap
    · simp at h
    rename_i cs
    obtain ⟨⟨text, more⟩, hname, hread⟩ := exists_of_bind_eq_ok h
    clear h
    obtain ⟨name, hvalid, rfl, rfl⟩ := exists_name_of_scanString hname
    dsimp only at hread
    split at hread
    swap
    · simp at hread
    rename_i afterColon hcolon
    obtain ⟨gap, rfl, hgap, -⟩ := exists_gap_of_skipSpace hcolon
    obtain ⟨gap', more, rfl, hskip, hgap'⟩ := exists_gap afterColon
    rw [hskip] at hread
    obtain ⟨⟨part, afterValue⟩, hpart, hlast⟩ := exists_of_bind_eq_ok hread
    clear hread
    dsimp only at hlast
    split at hlast
    · -- the last member, with the closing bracket behind it
      rename_i last hskip
      obtain ⟨form, after, hform, hafter, hcs, rfl⟩ :=
        exists_form_of_scanValue (hforms fuel (Nat.lt_succ_self _)) hpart hskip (by decide)
      obtain ⟨rfl, rfl⟩ := Prod.mk.inj (Except.ok.inj hlast)
      exact ⟨.one name gap gap' form after, ⟨hvalid, hgap, hgap', hform, hafter⟩,
        by simp [Members.chars, nameChars, hcs], rfl⟩
    · -- a comma, and then more members
      rename_i last hskip
      obtain ⟨form, after, hform, hafter, hcs, rfl⟩ :=
        exists_form_of_scanValue (hforms fuel (Nat.lt_succ_self _)) hpart hskip (by decide)
      obtain ⟨before, more, rfl, hskip, hbefore⟩ := exists_gap last
      rw [hskip] at hlast
      obtain ⟨others, hothers, rfl, rfl⟩ := ih (fun k hk => hforms k (Nat.lt_succ_of_lt hk)) hlast
      exact ⟨.more name gap gap' form after before others,
        ⟨hvalid, hgap, hgap', hform, hafter, hbefore, hothers⟩,
        by simp [Members.chars, nameChars, hcs], rfl⟩
    · simp at hlast

theorem exists_items_of_scanItems {fuel : Nat} (hforms : ∀ k < fuel, ReadsForms k) {earlier : List Json}
    {cs rest : List Char} {value : Json} (h : scanItems fuel earlier cs = .ok (value, rest)) :
    ∃ items : Items, items.IsValid ∧ cs = items.chars ++ ']' :: rest ∧
      value = .arr (earlier.reverse ++ items.values) := by
  induction fuel generalizing earlier cs with
  | zero => simp [scanItems] at h
  | succ fuel ih =>
    unfold scanItems at h
    obtain ⟨⟨part, afterValue⟩, hpart, hlast⟩ := exists_of_bind_eq_ok h
    clear h
    dsimp only at hlast
    split at hlast
    · -- the last item, with the closing bracket behind it
      rename_i last hskip
      obtain ⟨form, after, hform, hafter, rfl, rfl⟩ :=
        exists_form_of_scanValue (hforms fuel (Nat.lt_succ_self _)) hpart hskip (by decide)
      obtain ⟨rfl, rfl⟩ := Prod.mk.inj (Except.ok.inj hlast)
      exact ⟨.one form after, ⟨hform, hafter⟩, by simp [Items.chars], by simp [Items.values]⟩
    · -- a comma, and then more items
      rename_i last hskip
      obtain ⟨form, after, hform, hafter, rfl, rfl⟩ :=
        exists_form_of_scanValue (hforms fuel (Nat.lt_succ_self _)) hpart hskip (by decide)
      obtain ⟨before, more, rfl, hskip, hbefore⟩ := exists_gap last
      rw [hskip] at hlast
      obtain ⟨others, hothers, rfl, rfl⟩ := ih (fun k hk => hforms k (Nat.lt_succ_of_lt hk)) hlast
      exact ⟨.more form after before others, ⟨hform, hafter, hbefore, hothers⟩,
        by simp [Items.chars], by simp [Items.values]⟩
    · simp at hlast

theorem readsForms (fuel : Nat) : ReadsForms fuel := by
  induction fuel using Nat.strongRecOn with
  | _ fuel ih =>
  intro cs rest value h hrest
  cases fuel with
  | zero => simp [scanValue] at h
  | succ fuel =>
    -- members and items are read with less fuel, each value in them with less again
    have hforms : ∀ k < fuel, ReadsForms k := fun k hk => ih k (Nat.lt_succ_of_lt hk)
    unfold scanValue at h
    split at h
    · obtain ⟨⟨text, more⟩, hname, hread⟩ := exists_of_bind_eq_ok h
      clear h
      obtain ⟨name, hvalid, rfl, rfl⟩ := exists_name_of_scanString hname
      obtain ⟨rfl, rfl⟩ := Prod.mk.inj (Except.ok.inj hread)
      exact ⟨.str name, hvalid, by simp [Form.chars], rfl⟩
    · rename_i cs
      split at h
      · rename_i after hafter
        obtain ⟨gap, rfl, hgap, -⟩ := exists_gap_of_skipSpace hafter
        obtain ⟨rfl, rfl⟩ : _ = value ∧ after = rest := by simpa using h
        exact ⟨.emptyObj gap, hgap, by simp [Form.chars], rfl⟩
      · obtain ⟨gap, more, rfl, hskip, hgap⟩ := exists_gap cs
        rw [hskip] at h
        obtain ⟨members, hmembers, rfl, rfl⟩ := exists_members_of_scanMembers hforms h
        exact ⟨.obj gap members, ⟨hgap, hmembers⟩, by simp [Form.chars], rfl⟩
    · rename_i cs
      split at h
      · rename_i after hafter
        obtain ⟨gap, rfl, hgap, -⟩ := exists_gap_of_skipSpace hafter
        obtain ⟨rfl, rfl⟩ : _ = value ∧ after = rest := by simpa using h
        exact ⟨.emptyArr gap, hgap, by simp [Form.chars], rfl⟩
      · obtain ⟨gap, more, rfl, hskip, hgap⟩ := exists_gap cs
        rw [hskip] at h
        obtain ⟨items, hitems, rfl, rfl⟩ := exists_items_of_scanItems hforms h
        exact ⟨.arr gap items, ⟨hgap, hitems⟩, by simp [Form.chars], rfl⟩
    · obtain ⟨chars, rfl, hbare⟩ := isBare_of_scanBare h hrest
      exact ⟨.bare chars value, hbare, rfl, rfl⟩

/-! ### A form is read as its value -/

theorem scanValue_bare {chars rest : List Char} {value : Json} (h : IsBare chars value)
    (hrest : EndsValue rest) (fuel : Nat) :
    scanValue (fuel + 1) (chars ++ rest) = .ok (value, rest) := by
  have hread := h.reads rest hrest
  obtain ⟨c, more, rfl, -⟩ := h.start
  have hne := ne_of_isBareChar (List.all_eq_true.mp h.all c List.mem_cons_self)
  rw [List.cons_append] at hread ⊢
  unfold scanValue
  split
  · exact absurd (List.cons.inj ‹_›).1 (hne '"' (by decide))
  · exact absurd (List.cons.inj ‹_›).1 (hne '\x7b' (by decide))
  · exact absurd (List.cons.inj ‹_›).1 (hne '[' (by decide))
  · exact hread

/-- A string is read with the fuel of any text that starts with it. -/
theorem scanString_name {name : List Glyph} (hname : ∀ g ∈ name, g.IsValid) (opening : Nat)
    (rest : List Char) :
    scanString opening ('"' :: (Glyph.written name ++ '"' :: rest)).length []
      (Glyph.written name ++ '"' :: rest) = .ok (Glyph.text name, rest) := by
  refine Glyph.scanString_written hname ?_ rest
  have := Glyph.length_le_written name
  simp only [List.length_cons, List.length_append]
  omega

theorem Members.exists_chars_eq_cons (members : Members) : ∃ more, members.chars = '"' :: more := by
  cases members <;> exact ⟨_, rfl⟩

theorem Items.exists_chars_eq_cons {items : Items} (h : items.IsValid) :
    ∃ c more, items.chars = c :: more ∧ startsValue c := by
  cases items with
  | one item after =>
    obtain ⟨c, more, hchars, hc⟩ := Form.exists_chars_eq_cons h.1
    exact ⟨c, more ++ after, by simp [Items.chars, hchars], hc⟩
  | more item after before rest =>
    obtain ⟨c, more, hchars, hc⟩ := Form.exists_chars_eq_cons h.1
    exact ⟨c, _, by simp only [Items.chars, hchars, List.cons_append]; rfl, hc⟩

/-- In front of blanks and a delimiter a value ends, and the blanks are passed up to the delimiter. -/
theorem ends_and_skipSpace {gap rest : List Char} {c : Char} (hgap : gap.all isSpace) (hc : isDelimiter c)
    (hspace : isSpace c = false) :
    EndsValue (gap ++ c :: rest) ∧ skipSpace (gap ++ c :: rest) = c :: rest :=
  ⟨.append hgap (endsValue_cons hc), skipSpace_append hgap (by simp [hspace])⟩

theorem skipSpace_chars {gap rest : List Char} {form : Form} (hgap : gap.all isSpace)
    (h : form.IsValid) : skipSpace (gap ++ (form.chars ++ rest)) = form.chars ++ rest := by
  obtain ⟨c, more, hchars, hc⟩ := Form.exists_chars_eq_cons h
  refine skipSpace_append hgap ?_
  simp [hchars, not_isSpace_of_startsValue hc]

/-- How a list of members goes on after a value. -/
theorem scanMembers_value {name : List Glyph} {gap gap' more : List Char} {value : Form} {fuel : Nat}
    (hname : ∀ g ∈ name, g.IsValid) (hgap : gap.all isSpace) (hgap' : gap'.all isSpace)
    (hvalue : value.IsValid) (hread : scanValue fuel (value.chars ++ more) = .ok (value.value, more))
    (earlier : List (String × Json)) :
    scanMembers (fuel + 1) earlier (nameChars name gap gap' ++ (value.chars ++ more)) =
      match skipSpace more with
      | '\x7d' :: rest => .ok (.obj (insertMember (Glyph.text name) value.value earlier), rest)
      | ',' :: rest =>
        scanMembers fuel (insertMember (Glyph.text name) value.value earlier) (skipSpace rest)
      | rest => .error ⟨.expectedComma, rest.length⟩ := by
  have hcolon : skipSpace (gap ++ ':' :: (gap' ++ (value.chars ++ more))) =
      ':' :: (gap' ++ (value.chars ++ more)) := skipSpace_append hgap (by simp [isSpace])
  have hstring := scanString_name hname
    ('"' :: (Glyph.written name ++ '"' :: (gap ++ ':' :: (gap' ++ (value.chars ++ more))))).length
    (gap ++ ':' :: (gap' ++ (value.chars ++ more)))
  simp only [nameChars, List.cons_append, List.append_assoc, scanMembers, hstring, bind, Except.bind,
    hcolon, skipSpace_chars hgap' hvalue, hread]
  rfl

mutual

/-- A form is read as its value in front of everything that may follow a value. -/
theorem Form.scanValue_chars {form : Form} {rest : List Char} {fuel : Nat} (h : form.IsValid)
    (hrest : EndsValue rest) (hfuel : 2 * form.chars.length ≤ fuel) :
    scanValue fuel (form.chars ++ rest) = .ok (form.value, rest) := by
  obtain ⟨c, more, hchars, -⟩ := Form.exists_chars_eq_cons h
  obtain ⟨fuel, rfl⟩ : ∃ k, fuel = k + 1 := ⟨fuel - 1, by simp [hchars] at hfuel; omega⟩
  cases form with
  | bare chars value => exact scanValue_bare h hrest fuel
  | str glyphs =>
    have hstring := scanString_name h ('"' :: (Glyph.written glyphs ++ '"' :: rest)).length rest
    simp [Form.chars, scanValue, bind, Except.bind] at hstring ⊢
    simp [hstring, Form.value, pure, Except.pure]
  | emptyArr gap =>
    have hclose : skipSpace (gap ++ ']' :: rest) = ']' :: rest := skipSpace_append h (by simp [isSpace])
    simp [Form.chars, scanValue, hclose, Form.value]
  | arr gap items =>
    obtain ⟨c, more, hitems, hc⟩ := Items.exists_chars_eq_cons h.2
    -- an item starts a value, so the array is not taken for an empty one
    have hclose : c ≠ ']' := by
      rintro rfl
      simp [startsValue, isBareChar] at hc
    have hopen : skipSpace (gap ++ (items.chars ++ ']' :: rest)) = items.chars ++ ']' :: rest :=
      skipSpace_append h.1 (by simp [hitems, not_isSpace_of_startsValue hc])
    simp only [Form.chars, List.length_cons, List.length_append] at hfuel
    have hread := Items.scanItems_chars [] rest h.2 (by omega : 2 * items.chars.length < fuel)
    rw [hitems, List.cons_append] at hopen hread
    simp [Form.chars, hitems, scanValue, hopen, Form.value, hclose, hread]
  | emptyObj gap =>
    have hclose : skipSpace (gap ++ '\x7d' :: rest) = '\x7d' :: rest :=
      skipSpace_append h (by simp [isSpace])
    simp [Form.chars, scanValue, hclose, Form.value]
  | obj gap members =>
    obtain ⟨more, hmembers⟩ := members.exists_chars_eq_cons
    have hopen : skipSpace (gap ++ (members.chars ++ '\x7d' :: rest)) = members.chars ++ '\x7d' :: rest :=
      skipSpace_append h.1 (by simp [hmembers, isSpace])
    simp only [Form.chars, List.length_cons, List.length_append] at hfuel
    have hread := Members.scanMembers_chars [] rest h.2 (by omega : 2 * members.chars.length ≤ fuel)
    rw [hmembers, List.cons_append] at hopen hread
    simp [Form.chars, hmembers, scanValue, hopen, Form.value, hread]

theorem Members.scanMembers_chars {members : Members} {fuel : Nat} (earlier : List (String × Json))
    (rest : List Char) (h : members.IsValid) (hfuel : 2 * members.chars.length ≤ fuel) :
    scanMembers fuel earlier (members.chars ++ '\x7d' :: rest) =
      .ok (.obj (members.valuesAfter earlier), rest) := by
  cases members with
  | one name gap gap' value after =>
    obtain ⟨hname, hgap, hgap', hvalue, hafter⟩ := h
    simp only [Members.chars, nameChars, List.length_cons, List.length_append] at hfuel
    obtain ⟨fuel, rfl⟩ : ∃ k, fuel = k + 1 := ⟨fuel - 1, by omega⟩
    obtain ⟨hends, hclose⟩ := @ends_and_skipSpace after rest '\x7d' hafter (by decide) (by decide)
    -- the value is read up to the blanks behind it, since a bracket or a comma follows them
    have hread := Form.scanValue_chars hvalue hends (by omega : 2 * value.chars.length ≤ fuel)
    rw [Members.chars, List.append_assoc, List.append_assoc,
      scanMembers_value hname hgap hgap' hvalue hread, hclose]
    rfl
  | more name gap gap' value after before others =>
    obtain ⟨hname, hgap, hgap', hvalue, hafter, hbefore, hothers⟩ := h
    simp only [Members.chars, nameChars, List.length_cons, List.length_append] at hfuel
    obtain ⟨fuel, rfl⟩ : ∃ k, fuel = k + 1 := ⟨fuel - 1, by omega⟩
    obtain ⟨hends, hcomma⟩ := @ends_and_skipSpace after (before ++ (others.chars ++ '\x7d' :: rest)) ','
      hafter (by decide) (by decide)
    have hread := Form.scanValue_chars hvalue hends (by omega : 2 * value.chars.length ≤ fuel)
    obtain ⟨more, hchars⟩ := others.exists_chars_eq_cons
    have hnext : skipSpace (before ++ (others.chars ++ '\x7d' :: rest)) = others.chars ++ '\x7d' :: rest :=
      skipSpace_append hbefore (by simp [hchars, isSpace])
    simp only [Members.chars, List.append_assoc, List.cons_append]
    rw [scanMembers_value hname hgap hgap' hvalue hread, hcomma]
    simp only [hnext]
    exact Members.scanMembers_chars _ rest hothers (by omega)

theorem Items.scanItems_chars {items : Items} {fuel : Nat} (earlier : List Json)
    (rest : List Char) (h : items.IsValid) (hfuel : 2 * items.chars.length < fuel) :
    scanItems fuel earlier (items.chars ++ ']' :: rest) =
      .ok (.arr (earlier.reverse ++ items.values), rest) := by
  obtain ⟨fuel, rfl⟩ : ∃ k, fuel = k + 1 := ⟨fuel - 1, by omega⟩
  cases items with
  | one item after =>
    obtain ⟨hitem, hafter⟩ := h
    simp only [Items.chars, List.length_append] at hfuel
    obtain ⟨hends, hclose⟩ := @ends_and_skipSpace after rest ']' hafter (by decide) (by decide)
    have hread := Form.scanValue_chars hitem hends (by omega : 2 * item.chars.length ≤ fuel)
    simp [Items.chars, scanItems, hread, bind, Except.bind, hclose, Items.values, pure, Except.pure]
  | more item after before others =>
    obtain ⟨hitem, hafter, hbefore, hothers⟩ := h
    simp only [Items.chars, List.length_cons, List.length_append] at hfuel
    obtain ⟨hends, hcomma⟩ := @ends_and_skipSpace after (before ++ (others.chars ++ ']' :: rest)) ','
      hafter (by decide) (by decide)
    -- the item is read up to the blanks behind it, since a comma follows them
    have hread := Form.scanValue_chars hitem hends (by omega : 2 * item.chars.length ≤ fuel)
    obtain ⟨c, more, hchars, hc⟩ := Items.exists_chars_eq_cons hothers
    have hnext : skipSpace (before ++ (others.chars ++ ']' :: rest)) = others.chars ++ ']' :: rest :=
      skipSpace_append hbefore (by simp [hchars, not_isSpace_of_startsValue hc])
    have hrest := Items.scanItems_chars (item.value :: earlier) rest hothers
      (by omega : 2 * others.chars.length < fuel)
    simp [Items.chars, scanItems, hread, bind, Except.bind, hcomma, hnext, hrest, Items.values]

end

/-! ### Whole texts -/

/-- A text is a form with blanks around it. -/
def Form.Spells (form : Form) (text : String) : Prop :=
  form.IsValid ∧ ∃ lead trail, lead.all isSpace ∧ trail.all isSpace ∧
    text.toList = lead ++ (form.chars ++ trail)

theorem exists_spells_of_decode {text : String} {value : Json} (h : decode text = .ok value) :
    ∃ form : Form, form.Spells text ∧ form.value = value := by
  unfold decode at h
  cases hscan : scanText text.toList with
  | error stop => simp [hscan] at h
  | ok found =>
  obtain rfl : found = value := by simpa [hscan] using h
  unfold scanText at hscan
  dsimp only at hscan
  split_ifs at hscan
  · cases hscan
  obtain ⟨⟨part, more⟩, hpart, hend⟩ := exists_of_bind_eq_ok hscan
  dsimp only at hend
  split at hend
  swap
  · cases hend
  rename_i htrail
  obtain rfl := Except.ok.inj hend
  obtain ⟨lead, cs, htext, hskip, hlead⟩ := exists_gap text.toList
  obtain ⟨trail, rfl, htrail, -⟩ := exists_gap_of_skipSpace htrail
  rw [List.append_nil] at hpart
  -- nothing but blanks follows the value, so it ends there
  have hends : EndsValue trail := by
    simpa using EndsValue.append htrail endsValue_nil
  obtain ⟨form, hform, hcs, hvalue⟩ := readsForms _ hpart hends
  exact ⟨form, ⟨hform, lead, trail, hlead, htrail, by rw [htext, ← hskip, hcs]⟩, hvalue⟩

/-- Neither a value nor a blank in front of it is a byte order mark. -/
theorem Form.head?_ne_mark {form : Form} {lead : List Char} (hform : form.IsValid) (hlead : lead.all isSpace)
    (rest : List Char) : (lead ++ (form.chars ++ rest)).head? ≠ some '\uFEFF' := by
  obtain ⟨c, more, hchars, hc⟩ := Form.exists_chars_eq_cons hform
  intro hhead
  rw [hchars] at hhead
  cases lead with
  | nil =>
    obtain rfl : c = '\uFEFF' := by simpa using hhead
    simp [startsValue, isBareChar] at hc
  | cons d lead =>
    obtain rfl : d = '\uFEFF' := by simpa using hhead
    simp [isSpace] at hlead

/-- A text that is spelled by a form is read as the value of the form. -/
theorem Form.Spells.decode {form : Form} {text : String} (h : form.Spells text) :
    decode text = .ok form.value := by
  obtain ⟨hform, lead, trail, hlead, htrail, htext⟩ := h
  obtain ⟨c, more, hchars, hc⟩ := Form.exists_chars_eq_cons hform
  have hmark : text.toList.head? ≠ some '\uFEFF' := htext ▸ Form.head?_ne_mark hform hlead trail
  have hskip : skipSpace text.toList = form.chars ++ trail := by
    rw [htext]
    exact skipSpace_append hlead (by simp [hchars, not_isSpace_of_startsValue hc])
  have hends : EndsValue trail := by simpa using EndsValue.append htrail endsValue_nil
  have hread := Form.scanValue_chars hform hends (by
    rw [htext]
    simp only [List.length_append]
    omega : 2 * form.chars.length ≤ 2 * text.toList.length + 2)
  have hend : skipSpace trail = [] := by
    simpa using skipSpace_append htrail (by simp : ∀ c ∈ ([] : List Char).head?, isSpace c = false)
  have hscan : scanText text.toList = .ok form.value := by
    rw [scanText, if_neg hmark, hskip, hread]
    simp [bind, Except.bind, hend, pure, Except.pure]
  simp [Json.decode, hscan]

/-- A form by itself is read as its value. -/
theorem Form.decode_chars {form : Form} (h : form.IsValid) :
    Json.decode (String.ofList form.chars) = .ok form.value :=
  Spells.decode ⟨h, [], [], rfl, rfl, by simp⟩

end ProposalCheck.Json
