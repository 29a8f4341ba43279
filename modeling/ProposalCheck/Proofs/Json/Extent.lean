import ProposalCheck.Json.Locator
import ProposalCheck.Proofs.Json.Grammar

/-!
# Where the values of a JSON text end

The scan for the end of a value counts brackets and passes over strings. What is derived as JSON leaves the
count of brackets as it is, so that from the start of a value the scan comes to the end of the value.

## Main definitions

* `Skips`: the count of brackets passes over characters
* `valueEnd?`: where the value at an offset of a text ends

## Main results

* `Json.Derives.skips`: whatever is derived is passed where a bracket is open
* `valueLength?_chars`: the length of a form
* `valueEnd?_exact`: the end that is found for a value
-/

namespace ProposalCheck

open Json (Form Glyph Inner Symbol Derives EndsValue isSpace nameChars)

section brackets

variable {depth : Nat} {cs cs' rest : List Char}

/-- The count of brackets passes over characters and is the same behind them. -/
def Skips (depth : Nat) (cs : List Char) : Prop :=
  ∀ rest, bracketLength? .plain depth (cs ++ rest) =
    (bracketLength? .plain depth rest).map (· + cs.length)

theorem skips_nil : Skips depth [] := fun rest => by simp

theorem Skips.append (h : Skips depth cs) (h' : Skips depth cs') : Skips depth (cs ++ cs') := by
  intro rest
  rw [List.append_assoc, h, h', Option.map_map, List.length_append]
  congr 1
  funext n
  simp only [Function.comp_apply]
  omega

/-- Does the count of brackets take no notice of a character? -/
def isNeutral (c : Char) : Bool := c ≠ '"' && c ≠ '\x7b' && c ≠ '[' && c ≠ '\x7d' && c ≠ ']'

theorem skips_of_all_isNeutral (h : cs.all isNeutral) : Skips depth cs := by
  induction cs with
  | nil => exact skips_nil
  | cons c cs ih =>
    simp only [List.all_cons, Bool.and_eq_true] at h
    have hc := h.1
    simp only [isNeutral, Bool.and_eq_true, decide_eq_true_eq] at hc
    intro rest
    simp [bracketLength?, hc, ih h.2 rest, Function.comp_def, Nat.add_assoc]

theorem isNeutral_of_isSpace (h : cs.all isSpace) : cs.all isNeutral := by
  rw [List.all_eq_true] at h ⊢
  intro c hc
  have := h c hc
  simp only [isSpace, Bool.or_eq_true, decide_eq_true_eq] at this
  rcases this with ((rfl | rfl) | rfl) | rfl <;> decide

theorem isNeutral_of_isBareChar (h : cs.all Json.isBareChar) : cs.all isNeutral := by
  rw [List.all_eq_true] at h ⊢
  intro c hc
  have hne := Json.ne_of_isBareChar (h c hc)
  simp [isNeutral, hne '"' (by decide), hne '\x7b' (by decide), hne '[' (by decide),
    hne '\x7d' (by decide), hne ']' (by decide)]

/-- Is a character just passed within a string? -/
def isInner (c : Char) : Bool := c ≠ '"' && c ≠ '\\'

theorem isInner_of_isSome_hexDigit? {c : Char} (h : (hexDigit? c).isSome) : isInner c := by
  by_contra hc
  simp only [isInner, Bool.and_eq_true, decide_eq_true_eq, not_and_or, not_not] at hc
  rcases hc with rfl | rfl <;> simp [hexDigit?] at h

theorem stringLength?_inner (h : cs.all isInner) :
    stringLength? false (cs ++ rest) = (stringLength? false rest).map (· + cs.length) := by
  induction cs with
  | nil => simp
  | cons c cs ih =>
    simp only [List.all_cons, Bool.and_eq_true] at h
    have hc := h.1
    simp only [isInner, Bool.and_eq_true, decide_eq_true_eq] at hc
    simp [stringLength?, hc, ih h.2, Function.comp_def, Nat.add_assoc]

/-- Within a string a glyph is passed. -/
theorem stringLength?_glyph {glyph : Glyph} (h : glyph.IsValid) :
    stringLength? false (glyph.chars ++ rest) =
      (stringLength? false rest).map (· + glyph.chars.length) := by
  cases glyph with
  | plain c =>
    have hc : [c].all isInner := by simp [isInner, h.1, h.2.1]
    exact stringLength?_inner hc
  | short c => simp [Glyph.chars, stringLength?, Function.comp_def, Nat.add_assoc]
  | code digits =>
    have hdigits : digits.all isInner :=
      List.all_eq_true.mpr fun d hd => isInner_of_isSome_hexDigit? (h.2 d hd)
    simp [Glyph.chars, stringLength?, stringLength?_inner hdigits, Function.comp_def, Nat.add_assoc]

/-- The scan of a string comes to the closing quote. -/
theorem stringLength?_written {glyphs : List Glyph} (h : ∀ g ∈ glyphs, g.IsValid) (rest : List Char) :
    stringLength? false (Glyph.written glyphs ++ '"' :: rest) =
      some ((Glyph.written glyphs).length + 1) := by
  induction glyphs with
  | nil => simp [stringLength?]
  | cons glyph glyphs ih =>
    rw [Glyph.written_cons, List.append_assoc, stringLength?_glyph (h glyph List.mem_cons_self),
      ih fun g hg => h g (List.mem_cons_of_mem _ hg), Option.map_some, List.length_append]
    congr 1
    omega

/-- The count of brackets passes over a string as the scan of a string does. -/
theorem bracketLength?_of_stringLength? (depth : Nat) {isEscaped : Bool} {length : Nat}
    (h : stringLength? isEscaped cs = some length) :
    bracketLength? (if isEscaped then .escaped else .inString) depth cs =
      (bracketLength? .plain depth (cs.drop length)).map (· + length) := by
  induction cs generalizing isEscaped length with
  | nil => simp [stringLength?] at h
  | cons c cs ih =>
    -- one more character on both sides, whatever it leaves the scan in
    have hstep : ∀ {isEscaped : Bool}, (stringLength? isEscaped cs).map (· + 1) = some length →
        (bracketLength? (if isEscaped then .escaped else .inString) depth cs).map (· + 1) =
          (bracketLength? .plain depth ((c :: cs).drop length)).map (· + length) := by
      intro isEscaped h
      obtain ⟨rest, hrest, rfl⟩ := Option.map_eq_some_iff.mp h
      simp [ih hrest, Function.comp_def, Nat.add_assoc]
    cases isEscaped with
    | true =>
      rw [stringLength?, if_pos rfl] at h
      exact hstep h
    | false =>
      rw [stringLength?] at h
      simp only [Bool.false_eq_true, if_false] at h
      by_cases hslash : c = '\\'
      · rw [if_pos hslash] at h
        simpa [bracketLength?, hslash] using hstep h
      · rw [if_neg hslash] at h
        by_cases hquote : c = '"'
        · rw [if_pos hquote] at h
          obtain rfl : 1 = length := Option.some.inj h
          simp [bracketLength?, hquote]
        · rw [if_neg hquote] at h
          simpa [bracketLength?, hslash, hquote] using hstep h

/-- A string is passed. -/
theorem skips_string (depth : Nat) {glyphs : List Glyph} (h : ∀ g ∈ glyphs, g.IsValid) :
    Skips depth ('"' :: (Glyph.written glyphs ++ ['"'])) := by
  intro rest
  have hinner : bracketLength? .inString depth (Glyph.written glyphs ++ '"' :: rest) =
      (bracketLength? .plain depth rest).map (· + ((Glyph.written glyphs).length + 1)) := by
    simpa using bracketLength?_of_stringLength? depth (stringLength?_written h rest)
  simp [bracketLength?, hinner, Function.comp_def, Nat.add_assoc]

theorem skips_nameChars {name : List Glyph} {gap gap' : List Char} (hname : ∀ g ∈ name, g.IsValid)
    (hgap : gap.all isSpace) (hgap' : gap'.all isSpace) : Skips depth (nameChars name gap gap') := by
  have hcolon : (gap ++ ':' :: gap').all isNeutral := by
    rw [List.all_append, List.all_cons, isNeutral_of_isSpace hgap, isNeutral_of_isSpace hgap']
    decide
  have h := (skips_string depth hname).append (skips_of_all_isNeutral hcolon)
  simpa [nameChars] using h

/-- Do two characters open and close a value? -/
def AreBrackets (opening closing : Char) : Prop :=
  (opening = '\x7b' ∨ opening = '[') ∧ (closing = '\x7d' ∨ closing = ']')

/-- What stands between two brackets is passed with the opening one. -/
theorem bracketLength?_brackets {opening closing : Char} (hpair : AreBrackets opening closing)
    (h : Skips (depth + 1) cs) (rest : List Char) :
    bracketLength? .plain depth (opening :: (cs ++ closing :: rest)) =
      if depth = 0 then some (cs.length + 2)
      else (bracketLength? .plain depth rest).map (· + (cs.length + 2)) := by
  have hopen : bracketLength? .plain depth (opening :: (cs ++ closing :: rest)) =
      (bracketLength? .plain (depth + 1) (cs ++ closing :: rest)).map (· + 1) := by
    rcases hpair.1 with rfl | rfl <;> simp [bracketLength?]
  have hclose : bracketLength? .plain (depth + 1) (closing :: rest) =
      if depth = 0 then some 1 else (bracketLength? .plain depth rest).map (· + 1) := by
    rcases hpair.2 with rfl | rfl <;> simp [bracketLength?]
  -- the opening bracket adds a level, what stands between keeps it, and the closing one takes it off again
  rw [hopen, h, hclose]
  split_ifs
  · simp only [Option.map_some, Option.some.injEq]
    omega
  · rw [Option.map_map, Option.map_map]
    congr 1
    funext n
    simp only [Function.comp_apply]
    omega

/-- A pair of brackets is passed where another one is open. -/
theorem Skips.brackets {opening closing : Char} (hpair : AreBrackets opening closing)
    (h : Skips (depth + 1 + 1) cs) : Skips (depth + 1) (opening :: (cs ++ [closing])) := by
  intro rest
  simpa using bracketLength?_brackets hpair h rest

end brackets

/-! ### Values -/

theorem areBrackets (inner : Inner) : AreBrackets inner.opening inner.closing := by
  cases inner with
  | item => exact ⟨.inr rfl, .inr rfl⟩
  | member => exact ⟨.inl rfl, .inl rfl⟩

theorem skips_word {depth : Nat} {word : List Char} (h : word.all Json.isBareChar) : Skips depth word :=
  skips_of_all_isNeutral (isNeutral_of_isBareChar h)

theorem skips_gap {depth : Nat} {gap : List Char} (h : gap.all isSpace) : Skips depth gap :=
  skips_of_all_isNeutral (isNeutral_of_isSpace h)

theorem skips_comma (depth : Nat) : Skips depth [','] := skips_of_all_isNeutral (by decide)

/-- Whatever is derived is passed where a bracket is open. -/
theorem Json.Derives.skips {symbol : Symbol} {cs : List Char} (h : Derives symbol cs) (depth : Nat) :
    Skips (depth + 1) cs := by
  -- a pair of brackets opens one more for what stands between them
  induction h generalizing depth with
  | word h => exact skips_word (Json.isBare_of_mem_wordValues h).all
  | number h => exact skips_word h.all
  | string h => exact skips_string _ h
  | empty inner hgap => exact .brackets (areBrackets inner) (skips_gap hgap)
  | brackets inner _ ih => exact .brackets (areBrackets inner) (ih (depth + 1))
  | item hbefore _ hafter ih => exact (skips_gap hbefore).append ((ih depth).append (skips_gap hafter))
  | member hbefore hname hgap hgap' _ hafter ih =>
    exact (skips_gap hbefore).append
      ((skips_nameChars hname hgap hgap').append ((ih depth).append (skips_gap hafter)))
  | last _ ih => exact ih depth
  | more _ _ ih ihrest => exact (ih depth).append ((skips_comma _).append (ihrest depth))

theorem endsWord_of_isDelimiter {c : Char} (h : Json.isDelimiter c) : endsWord c := by
  simp only [Json.isDelimiter, isSpace, Bool.or_eq_true, decide_eq_true_eq] at h
  rcases h with (((((rfl | rfl) | rfl) | rfl) | rfl) | rfl) | rfl <;> decide

theorem not_endsWord_of_isBareChar {c : Char} (h : Json.isBareChar c) : endsWord c = false := by
  have hne := Json.ne_of_isBareChar h
  have hrange : 43 ≤ c.toNat ∧ c.toNat ≤ 122 := by
    unfold Json.isBareChar Char.isAlpha Char.isUpper Char.isLower Char.isDigit at h
    simp only [Bool.or_eq_true, Bool.and_eq_true, decide_eq_true_eq, UInt32.le_iff_toNat_le, ge_iff_le] at h
    change (((((65 ≤ c.toNat ∧ c.toNat ≤ 90) ∨ 97 ≤ c.toNat ∧ c.toNat ≤ 122) ∨
      48 ≤ c.toNat ∧ c.toNat ≤ 57) ∨ c = '-') ∨ c = '+') ∨ c = '.' at h
    rcases h with ((h | rfl) | rfl) | rfl
    · omega
    all_goals decide
  have hblank : isBlank c = false := by
    simp only [isBlank, Bool.or_eq_false_iff, Bool.and_eq_false_iff, decide_eq_false_iff_not, beq_eq_false_iff_ne]
    omega
  simp [endsWord, hblank, hne ',' (by decide), hne ']' (by decide), hne '\x7d' (by decide)]

section extent

variable {cs rest : List Char}

/-- The word at the front of a text is the number or word that stands there. -/
theorem takeWhile_endsWord (h : cs.all Json.isBareChar) (hrest : ∀ c ∈ rest.head?, endsWord c) :
    (cs ++ rest).takeWhile (!endsWord ·) = cs := by
  have hcs : ∀ c ∈ cs, !endsWord c := fun c hc => by
    simp [not_endsWord_of_isBareChar (List.all_eq_true.mp h c hc)]
  rw [List.takeWhile_append_of_pos hcs]
  cases rest with
  | nil => simp
  | cons c rest => simp [hrest c rfl]

theorem valueLength?_word (hne : cs ≠ []) (h : cs.all Json.isBareChar) (hrest : ∀ c ∈ rest.head?, endsWord c) :
    valueLength? (cs ++ rest) = some cs.length := by
  have hword := takeWhile_endsWord h hrest
  obtain ⟨c, more, rfl⟩ := List.exists_cons_of_ne_nil hne
  have hother := Json.ne_of_isBareChar (List.all_eq_true.mp h c List.mem_cons_self)
  rw [List.cons_append] at *
  rw [valueLength?, if_neg (by simp [hother '\x7b' (by decide), hother '[' (by decide)]),
    if_neg (hother '"' (by decide)), hword]
  simp

theorem valueLength?_brackets {opening closing : Char} (hpair : AreBrackets opening closing) (h : Skips 1 cs) :
    valueLength? (opening :: (cs ++ [closing]) ++ rest) = some (opening :: (cs ++ [closing])).length := by
  have hscan := bracketLength?_brackets hpair h rest
  rw [if_pos rfl] at hscan
  rw [List.cons_append, List.append_assoc, List.singleton_append, valueLength?, if_pos hpair.1, hscan]
  simp

/-- From the start of a value the scan comes to its end, if a word or number is not continued behind it. -/
theorem Json.Derives.valueLength?_append (h : Derives .value cs) (hrest : ∀ c ∈ rest.head?, endsWord c) :
    valueLength? (cs ++ rest) = some cs.length := by
  cases h with
  | word h =>
    have hbare := Json.isBare_of_mem_wordValues h
    obtain ⟨c, more, rfl, -⟩ := hbare.start
    exact valueLength?_word (List.cons_ne_nil c more) hbare.all hrest
  | number h => exact valueLength?_word h.ne_nil h.all hrest
  | string h => simp [valueLength?, stringLength?_written h]
  | empty inner hgap => exact valueLength?_brackets (areBrackets inner) (skips_gap hgap)
  | brackets inner h => exact valueLength?_brackets (areBrackets inner) (h.skips 0)

/-- From the start of a form the scan for the end of a value comes to the end of the form. -/
theorem valueLength?_chars {form : Form} (h : form.IsValid) (hrest : EndsValue rest) :
    valueLength? (form.chars ++ rest) = some form.chars.length :=
  (Json.Form.derives h).valueLength?_append fun c hc => endsWord_of_isDelimiter (hrest c hc)

end extent

/-! ### Values in a text -/

/-- Where the value that starts at an offset of a text ends, in characters. -/
def valueEnd? (text : List Char) (start : Nat) : Option Nat :=
  (valueLength? (text.drop start)).map (start + ·)

/-- The bytes of a part reach from its key to where its value ends. -/
theorem Locator.span?_eq (locator : Locator) (path : List PathItem) : locator.span? path =
    (locator.places.lookup path).bind fun start =>
      (Locator.offset? locator.text start.anchor).bind fun first =>
        ((Locator.offset? locator.text start.value).bind (valueEnd? locator.text)).map fun last =>
          ⟨byteLength (locator.text.take first), byteLength (locator.text.take last)⟩ := by
  rw [Locator.span?]
  simp only [Option.bind_eq_bind, Option.pure_def]
  congr 1
  funext start
  congr 1
  funext first
  cases Locator.offset? locator.text start.value with
  | none => rfl
  | some value => simp [valueEnd?, Option.map_eq_bind, Option.bind_assoc]

/-- The end that is found for a value is its end, whatever stands in front of it, if the text ends there or a blank,
a comma or a closing bracket follows. -/
theorem valueEnd?_exact {before value after : List Char} (hvalue : Derives .value value)
    (hafter : ∀ c ∈ after.head?, isBlank c ∨ c = ',' ∨ c = ']' ∨ c = '\x7d') :
    valueEnd? (before ++ value ++ after) before.length = some (before ++ value).length := by
  have hends : ∀ c ∈ after.head?, endsWord c := fun c hc => by
    simpa [endsWord, or_assoc] using hafter c hc
  rw [valueEnd?, List.append_assoc, List.drop_left, hvalue.valueLength?_append hends, List.length_append]
  rfl

/-- Quotes, backslashes and brackets within a string close nothing, and a blank that JSON does not know ends a
value too. -/
theorem valueEnd?_exact_quoted :
    Derives .value "\x7b\"]\\\"\": [-1.5e3, \"\\\\\", []]\x7d".toList ∧
      valueEnd? "[\x7b\"]\\\"\": [-1.5e3, \"\\\\\", []]\x7d\u00a0]".toList 1 = some 28 := by
  have hnumber : Json.IsNumber "-1.5e3".toList :=
    @Json.IsNumber.parts ['-'] ['1'] ['.', '5'] ['e', '3'] (.inr rfl) (.inr ⟨⟨by decide, by decide⟩, by decide⟩)
      (.inr ⟨['5'], ⟨by decide, by decide⟩, rfl⟩)
      (.inr ⟨'e', [], ['3'], .inl rfl, .inl rfl, ⟨by decide, by decide⟩, rfl⟩)
  have hslash : ∀ g ∈ [Glyph.short '\\'], g.IsValid := by simp [Glyph.IsValid, Json.shortEscape?]
  have hname : ∀ g ∈ [Glyph.plain ']', .short '"'], g.IsValid := by simp [Glyph.IsValid, Json.shortEscape?]
  have hitems : Derives (.entries .item) "-1.5e3, \"\\\\\", []".toList :=
    .more (@Derives.item [] _ [] rfl (.number hnumber) rfl)
      (.more (@Derives.item [' '] _ [] rfl (.string hslash) rfl)
        (.last (@Derives.item [' '] _ [] rfl (@Derives.empty .item [] rfl) rfl)))
  have hvalue : Derives .value "\x7b\"]\\\"\": [-1.5e3, \"\\\\\", []]\x7d".toList :=
    .brackets .member (.last (@Derives.member [] [] [' '] _ [] _ rfl hname rfl rfl (.brackets .item hitems) rfl))
  have hblank : ∀ c ∈ ['\u00a0', ']'].head?, isBlank c ∨ c = ',' ∨ c = ']' ∨ c = '\x7d' := by
    intro c hc
    obtain rfl := Option.some.inj hc
    exact .inl rfl
  exact ⟨hvalue, @valueEnd?_exact ['['] _ ['\u00a0', ']'] hvalue hblank⟩

/-! ### Whatever is found -/

/-- A length that ends with a character of the text that is no line feed. -/
def EndsDark (cs : List Char) (length : Nat) : Prop :=
  ∃ n c, length = n + 1 ∧ cs[n]? = some c ∧ c ≠ '\n'

theorem EndsDark.cons {cs : List Char} {length : Nat} (c : Char) (h : EndsDark cs length) :
    EndsDark (c :: cs) (length + 1) := by
  obtain ⟨n, d, rfl, hd, hline⟩ := h
  exact ⟨n + 1, d, rfl, by simpa using hd, hline⟩

theorem endsDark_of_map {cs : List Char} {found : Option Nat} {length : Nat} (c : Char)
    (h : found.map (· + 1) = some length) (hfound : ∀ n, found = some n → EndsDark cs n) :
    EndsDark (c :: cs) length := by
  obtain ⟨n, hn, rfl⟩ := Option.map_eq_some_iff.mp h
  exact (hfound n hn).cons c

theorem endsDark_of_bracketLength? {mode : ScanMode} {depth length : Nat} {cs : List Char}
    (h : bracketLength? mode depth cs = some length) : EndsDark cs length := by
  induction cs generalizing mode depth length with
  | nil => simp [bracketLength?] at h
  | cons c cs ih =>
    cases mode with
    | escaped => exact endsDark_of_map c h fun _ hn => ih hn
    | inString => exact endsDark_of_map c h fun _ hn => ih hn
    | plain =>
      simp only [bracketLength?] at h
      split_ifs at h with hquote hopen hclose hlast
      · exact endsDark_of_map c h fun _ hn => ih hn
      · exact endsDark_of_map c h fun _ hn => ih hn
      · obtain rfl := Option.some.inj h
        refine ⟨0, c, rfl, rfl, ?_⟩
        rcases hclose with rfl | rfl <;> decide
      · exact endsDark_of_map c h fun _ hn => ih hn
      · exact endsDark_of_map c h fun _ hn => ih hn

theorem endsDark_of_stringLength? {isEscaped : Bool} {length : Nat} {cs : List Char}
    (h : stringLength? isEscaped cs = some length) : EndsDark cs length := by
  induction cs generalizing isEscaped length with
  | nil => simp [stringLength?] at h
  | cons c cs ih =>
    simp only [stringLength?] at h
    split_ifs at h with hescaped hslash hquote
    · exact endsDark_of_map c h fun _ hn => ih hn
    · exact endsDark_of_map c h fun _ hn => ih hn
    · obtain rfl := Option.some.inj h
      exact ⟨0, c, rfl, rfl, by rw [hquote]; decide⟩
    · exact endsDark_of_map c h fun _ hn => ih hn

/-- What is found as a value does not end with a line feed. -/
theorem endsDark_of_valueLength? {cs : List Char} {length : Nat} (h : valueLength? cs = some length) :
    EndsDark cs length := by
  cases cs with
  | nil => simp [valueLength?] at h
  | cons c cs =>
    simp only [valueLength?] at h
    split_ifs at h with hopen hquote hword
    · exact endsDark_of_bracketLength? h
    · exact endsDark_of_map c h fun _ hn => endsDark_of_stringLength? hn
    · obtain rfl := Option.some.inj h
      have hprefix := List.takeWhile_prefix (l := c :: cs) (!endsWord ·)
      have hall := List.all_eq_true.mp (List.all_takeWhile (p := (!endsWord ·)) (l := c :: cs))
      generalize (c :: cs).takeWhile (!endsWord ·) = word at hword hprefix hall
      -- a word is what stands in front of the first character that ends one, and a line feed does
      obtain ⟨front, last, rfl⟩ := List.eq_nil_or_concat word |>.resolve_left hword
      refine ⟨front.length, last, by simp, ?_, ?_⟩
      · obtain ⟨rest, hrest⟩ := hprefix
        rw [← hrest]
        simp
      · rintro rfl
        exact absurd (hall '\n' (by simp)) (by decide)

end ProposalCheck
