import Mathlib.Data.List.Basic
import ProposalCheck.Json.Decode

/-!
# Numbers and words of a JSON text

A number has a sign or none, digits, and perhaps a fraction and an exponent. What is read as one of these
parts is one, and each part is read alike wherever it stands. Numbers and words end where a blank, a comma,
a closing bracket or the end of the text follows. With such an end behind them they are read alike.

## Main definitions

* `EndsValue`: may a text follow a number or a word?
* `scanBare`: the reader of words and numbers
* `IsBare`: a word or number as it is written, with its value
* `IsNumber`: numbers as they are written

## Main results

* `exists_isNumber_of_scanNumber`: what is read as a number is one
* `IsNumber.exists_scanNumber`: a number is read alike in front of every end
* `isBare_of_scanBare`: what has been read in front of an end is a word or a number
-/

namespace ProposalCheck.Json

/-- Does a character end a number or a word? -/
def isDelimiter (c : Char) : Bool := isSpace c || c = ',' || c = ']' || c = '\x7d'

/-- May a text follow a number or a word? -/
def EndsValue (rest : List Char) : Prop := ∀ c ∈ rest.head?, isDelimiter c

theorem endsValue_nil : EndsValue [] := by simp [EndsValue]

theorem endsValue_cons {c : Char} {rest : List Char} (h : isDelimiter c) : EndsValue (c :: rest) := by
  simpa [EndsValue] using h

/-- Blanks may stand between a value and what ends it. -/
theorem EndsValue.append {gap rest : List Char} (hgap : gap.all isSpace) (h : EndsValue rest) :
    EndsValue (gap ++ rest) := by
  cases gap with
  | nil => exact h
  | cons c gap =>
    have hc : isSpace c := (List.all_eq_true.mp hgap) c List.mem_cons_self
    exact endsValue_cons (by simp [isDelimiter, hc])

/-- Reads a word or a number. -/
def scanBare (cs : List Char) : Except Stop (Json × List Char) :=
  match scanWord? cs with
  | some found => .ok found
  | none => scanNumber cs

/-- The characters of words and numbers. -/
def isBareChar (c : Char) : Bool := c.isAlpha || c.isDigit || c = '-' || c = '+' || c = '.'

/-- A word or number as it is written, with its value. -/
structure IsBare (chars : List Char) (value : Json) : Prop where
  reads : ∀ rest, EndsValue rest → scanBare (chars ++ rest) = .ok (value, rest)
  all : chars.all isBareChar
  /-- The first character is a letter or a digit, or a single sign. -/
  start : ∃ c more, chars = c :: more ∧
    (c.isAlpha ∨ c.isDigit ∨ c = '-' ∧ ∃ d ∈ more.head?, d ≠ '-')

theorem isBareChar_of_isDigit {c : Char} (h : c.isDigit) : isBareChar c := by simp [isBareChar, h]

theorem ne_of_isDigit {c d : Char} (hc : c.isDigit) (hd : d.isDigit = false) : c ≠ d := by
  rintro rfl
  simp [hc] at hd

theorem ne_of_isBareChar {c : Char} (hc : isBareChar c) (d : Char) (hd : isBareChar d = false) : c ≠ d := by
  rintro rfl
  simp [hc] at hd

/-- What ends words and numbers is in none of them. -/
theorem not_isDelimiter_of_isBareChar {c : Char} (h : isBareChar c) : isDelimiter c = false := by
  by_contra hdelimiter
  simp only [isDelimiter, isSpace, Bool.not_eq_false, Bool.or_eq_true, decide_eq_true_eq] at hdelimiter
  rcases hdelimiter with (((((rfl | rfl) | rfl) | rfl) | rfl) | rfl) | rfl <;> simp [isBareChar] at h

/-! ### Digits -/

section digits

variable {digits rest : List Char}

/-- The first character of a text, if any, is no digit. -/
def NoDigit (rest : List Char) : Prop := ∀ c ∈ rest.head?, c.isDigit = false

theorem EndsValue.noDigit (h : EndsValue rest) : NoDigit rest := by
  intro c hc
  by_contra hdigit
  have hdelimiter := not_isDelimiter_of_isBareChar
    (isBareChar_of_isDigit (by simpa using hdigit))
  have hend := h c hc
  simp [hdelimiter] at hend

theorem noDigit_cons {c : Char} (h : c.isDigit = false) : NoDigit (c :: rest) := by simpa [NoDigit]

/-- Digits are read up to what is no digit. -/
theorem spanDigits_append (hdigits : digits.all Char.isDigit) (hrest : NoDigit rest) :
    spanDigits (digits ++ rest) = (digits, rest) := by
  have hall : ∀ c ∈ digits, c.isDigit := List.all_eq_true.mp hdigits
  rw [spanDigits, List.takeWhile_append_of_pos hall, List.dropWhile_append_of_pos hall]
  cases rest with
  | nil => simp
  | cons c rest =>
    have hc : c.isDigit = false := hrest c rfl
    simp [hc]

theorem exists_of_spanDigits {cs : List Char} (h : spanDigits cs = (digits, rest)) :
    cs = digits ++ rest ∧ digits.all Char.isDigit ∧ NoDigit rest := by
  obtain ⟨rfl, rfl⟩ := Prod.mk.inj h
  refine ⟨List.takeWhile_append_dropWhile.symm, List.all_takeWhile, fun c hc => ?_⟩
  have := List.head?_dropWhile_not Char.isDigit cs
  rw [Option.mem_def.mp hc] at this
  simpa using this

end digits

/-! ### The grammar of numbers -/

/-- One or more digits. -/
def AreDigits (cs : List Char) : Prop := cs ≠ [] ∧ cs.all Char.isDigit

/-- The digits of a number before its fraction: a zero, or digits that do not start with one. -/
def IsWhole (cs : List Char) : Prop := cs = ['0'] ∨ AreDigits cs ∧ cs.head? ≠ some '0'

/-- Nothing, or a point with digits behind it. -/
def IsFraction (cs : List Char) : Prop := cs = [] ∨ ∃ digits, AreDigits digits ∧ cs = '.' :: digits

/-- Nothing, or the letter `e` in either case, a sign or none, and digits. -/
def IsPower (cs : List Char) : Prop := cs = [] ∨ ∃ mark sign digits, (mark = 'e' ∨ mark = 'E') ∧
  (sign = [] ∨ sign = ['-'] ∨ sign = ['+']) ∧ AreDigits digits ∧ cs = mark :: (sign ++ digits)

/-- A number as it is written. -/
inductive IsNumber : List Char → Prop
  | parts {sign whole fraction power : List Char} (hsign : sign = [] ∨ sign = ['-']) (hwhole : IsWhole whole)
      (hfraction : IsFraction fraction) (hpower : IsPower power) :
      IsNumber (sign ++ (whole ++ (fraction ++ power)))

theorem all_isBareChar_of_digits {digits : List Char} (h : digits.all Char.isDigit) :
    digits.all isBareChar := by
  rw [List.all_eq_true] at h ⊢
  exact fun c hc => isBareChar_of_isDigit (h c hc)

theorem AreDigits.all {cs : List Char} (h : AreDigits cs) : cs.all isBareChar := all_isBareChar_of_digits h.2

theorem IsWhole.all {cs : List Char} (h : IsWhole cs) : cs.all isBareChar := by
  rcases h with rfl | ⟨h, -⟩
  · decide
  · exact h.all

theorem IsFraction.all {cs : List Char} (h : IsFraction cs) : cs.all isBareChar := by
  rcases h with rfl | ⟨digits, hdigits, rfl⟩
  · rfl
  · exact hdigits.all

theorem IsPower.all {cs : List Char} (h : IsPower cs) : cs.all isBareChar := by
  rcases h with rfl | ⟨mark, sign, digits, hmark, hsign, hdigits, rfl⟩
  · rfl
  · have hmark' : isBareChar mark := by rcases hmark with rfl | rfl <;> decide
    have hsign' : sign.all isBareChar := by rcases hsign with rfl | rfl | rfl <;> decide
    rw [List.all_cons, List.all_append, hmark', hsign', hdigits.all]
    rfl

theorem IsNumber.all {cs : List Char} (h : IsNumber cs) : cs.all isBareChar := by
  obtain ⟨hsign, hwhole, hfraction, hpower⟩ := h
  rename_i sign _ _ _
  have hsign' : sign.all isBareChar := by rcases hsign with rfl | rfl <;> decide
  rw [List.all_append, List.all_append, List.all_append, hsign', hwhole.all, hfraction.all, hpower.all]
  rfl

theorem IsWhole.isDigit {cs : List Char} (h : IsWhole cs) : cs.all Char.isDigit := by
  rcases h with rfl | ⟨h, -⟩
  · decide
  · exact h.2

theorem IsWhole.ne_nil {cs : List Char} (h : IsWhole cs) : cs ≠ [] := by
  rcases h with rfl | ⟨⟨hne, -⟩, -⟩
  · decide
  · exact hne

theorem IsNumber.ne_nil {cs : List Char} (h : IsNumber cs) : cs ≠ [] := by
  obtain ⟨-, hwhole, -, -⟩ := h
  simp [hwhole.ne_nil]

/-- The first digit of a number stands behind its sign. -/
theorem IsNumber.exists_digit {cs : List Char} (h : IsNumber cs) :
    ∃ sign d more, cs = sign ++ d :: more ∧ (sign = [] ∨ sign = ['-']) ∧ d.isDigit := by
  obtain ⟨hsign, hwhole, -, -⟩ := h
  obtain ⟨d, more, rfl⟩ := List.exists_cons_of_ne_nil hwhole.ne_nil
  exact ⟨_, d, _, rfl, hsign, List.all_eq_true.mp hwhole.isDigit d List.mem_cons_self⟩

/-! ### How numbers are read -/

/-- Is a value an integer? -/
def isInteger : Json → Bool
  | .int _ => true
  | _ => false

/-- The digits of a number before its fraction: a zero, or digits that do not start with one. -/
def wholePart : List Char → Option (List Char × List Char)
  | '0' :: rest => some (['0'], rest)
  | c :: rest => if c.isDigit then some (spanDigits (c :: rest)) else none
  | [] => none

/-- The number that follows the digits `digits`. -/
def numberAfter (negative : Bool) (digits rest : List Char) : Json × List Char :=
  let (fraction, rest) := fractionPart rest
  match fraction, exponentPart rest with
  | [], none =>
    let value : Int := digitsValue digits
    (.int (if negative then -value else value), rest)
  | fraction, none =>
    (.float (nearestFloat negative (digitsValue (digits ++ fraction)) (-fraction.length)), rest)
  | fraction, some (power, rest) =>
    (.float (nearestFloat negative (digitsValue (digits ++ fraction)) (power - fraction.length)), rest)

/-- The sign in front of a number. -/
def splitMinus : List Char → Bool × List Char
  | '-' :: rest => (true, rest)
  | rest => (false, rest)

theorem scanNumber?_eq (cs : List Char) :
    scanNumber? cs = (wholePart (splitMinus cs).2).map fun (digits, rest) =>
      numberAfter (splitMinus cs).1 digits rest := by
  unfold scanNumber? splitMinus wholePart numberAfter
  rfl

/-- The sign in front of the digits of an exponent, as the reader of exponents splits it off. -/
def splitSign : List Char → Bool × List Char
  | '-' :: more => (true, more)
  | '+' :: more => (false, more)
  | more => (false, more)

theorem exponentPart_cons (e : Char) (rest : List Char) :
    exponentPart (e :: rest) =
      if e = 'e' ∨ e = 'E' then
        match spanDigits (splitSign rest).2 with
        | ([], _) => none
        | (digits, after) =>
          some (if (splitSign rest).1 then -(digitsValue digits : Int) else digitsValue digits, after)
      else none := by
  unfold exponentPart splitSign
  rfl

theorem splitMinus_snd (cs : List Char) :
    (splitMinus cs).2 = if cs.head? = some '-' then cs.tail else cs := by
  unfold splitMinus
  split
  · rfl
  · rename_i hne
    cases cs with
    | nil => rfl
    | cons c rest =>
      have hc : c ≠ '-' := by
        rintro rfl
        exact hne rest rfl
      simp [hc]

/-- A number is what stands in its parts, unless it is an integer that is too long. -/
theorem scanNumber_eq {cs unsigned digits more after : List Char} {negative : Bool} {value : Json}
    (hsign : splitMinus cs = (negative, unsigned)) (hwhole : wholePart unsigned = some (digits, more))
    (hafter : numberAfter negative digits more = (value, after)) :
    scanNumber cs =
      if isInteger value ∧ maximumDigits < (spanDigits unsigned).1.length then
        .error ⟨.tooManyDigits (spanDigits unsigned).1.length, cs.length⟩
      else .ok (value, after) := by
  have hunsigned : (if cs.head? = some '-' then cs.tail else cs) = unsigned := by
    rw [← splitMinus_snd, hsign]
  have hread : scanNumber? cs = some (value, after) := by
    simp [scanNumber?_eq, hsign, hwhole, hafter]
  unfold scanNumber
  rw [hread, hunsigned]
  cases value <;> simp [isInteger]

/-! ### The parts of a number -/

section parts

variable {cs rest digits after : List Char}

theorem wholePart_of_ne {c : Char} (h : c ≠ '0') (rest : List Char) :
    wholePart (c :: rest) = if c.isDigit then some (spanDigits (c :: rest)) else none := by
  simp [wholePart]

theorem exists_isWhole_of_wholePart (h : wholePart cs = some (digits, rest)) :
    cs = digits ++ rest ∧ IsWhole digits := by
  unfold wholePart at h
  split at h
  · obtain ⟨rfl, rfl⟩ : ['0'] = digits ∧ _ = rest := by simpa using h
    exact ⟨rfl, .inl rfl⟩
  · rename_i c cs hzero
    split_ifs at h with hc
    obtain ⟨hcs, hdigits, -⟩ := exists_of_spanDigits (Option.some.inj h)
    cases digits with
    | nil => simp [spanDigits, hc] at h
    | cons d digits =>
      obtain ⟨rfl, rfl⟩ : c = d ∧ cs = digits ++ rest := by simpa using hcs
      exact ⟨rfl, .inr ⟨⟨by simp, hdigits⟩, by simpa using hzero⟩⟩
  · simp at h

theorem IsWhole.wholePart_append (h : IsWhole digits) (hrest : NoDigit rest) :
    wholePart (digits ++ rest) = some (digits, rest) := by
  rcases h with rfl | ⟨⟨hne, hdigits⟩, hzero⟩
  · rfl
  · obtain ⟨d, more, rfl⟩ := List.exists_cons_of_ne_nil hne
    have hd : d.isDigit := List.all_eq_true.mp hdigits d List.mem_cons_self
    rw [List.cons_append, wholePart_of_ne (by simpa using hzero), if_pos hd, ← List.cons_append,
      spanDigits_append hdigits hrest]

theorem exists_isFraction_of_fractionPart (h : fractionPart cs = (digits, rest)) :
    ∃ fraction, cs = fraction ++ rest ∧ IsFraction fraction := by
  unfold fractionPart at h
  split at h
  · rename_i more
    split at h
    · obtain ⟨rfl, rfl⟩ := Prod.mk.inj h
      exact ⟨[], rfl, .inl rfl⟩
    · rename_i found hfound
      obtain ⟨rfl, hdigits, -⟩ := exists_of_spanDigits h
      refine ⟨'.' :: digits, rfl, .inr ⟨digits, ⟨?_, hdigits⟩, rfl⟩⟩
      rintro rfl
      exact hfound _ h
  · obtain ⟨rfl, rfl⟩ := Prod.mk.inj h
    exact ⟨[], rfl, .inl rfl⟩

theorem IsFraction.fractionPart_append {fraction : List Char} (h : IsFraction fraction)
    (hrest : NoDigit rest) (hpoint : rest.head? ≠ some '.') :
    fractionPart (fraction ++ rest) = (fraction.tail, rest) := by
  rcases h with rfl | ⟨digits, ⟨hne, hdigits⟩, rfl⟩
  · rw [List.nil_append]
    unfold fractionPart
    split
    · simp at hpoint
    · rfl
  · obtain ⟨d, more, rfl⟩ := List.exists_cons_of_ne_nil hne
    rw [List.cons_append, fractionPart, spanDigits_append hdigits hrest]
    rfl

/-- No digit stands behind the digits of a number, whether a fraction follows them or not. -/
theorem IsFraction.noDigit {fraction : List Char} (h : IsFraction fraction) (hrest : NoDigit rest) :
    NoDigit (fraction ++ rest) := by
  rcases h with rfl | ⟨digits, -, rfl⟩
  · exact hrest
  · exact noDigit_cons (by decide)

theorem exists_sign_of_splitSign (cs : List Char) :
    ∃ sign, cs = sign ++ (splitSign cs).2 ∧ (sign = [] ∨ sign = ['-'] ∨ sign = ['+']) := by
  unfold splitSign
  split
  · exact ⟨['-'], rfl, .inr (.inl rfl)⟩
  · exact ⟨['+'], rfl, .inr (.inr rfl)⟩
  · exact ⟨[], rfl, .inl rfl⟩

/-- A sign in front of digits is split off whatever follows them. -/
theorem exists_splitSign_append {sign : List Char} (hsign : sign = [] ∨ sign = ['-'] ∨ sign = ['+'])
    (hdigits : AreDigits digits) :
    ∃ negative, ∀ rest, splitSign (sign ++ (digits ++ rest)) = (negative, digits ++ rest) := by
  obtain ⟨hne, hall⟩ := hdigits
  obtain ⟨d, more, rfl⟩ := List.exists_cons_of_ne_nil hne
  have hd : d.isDigit := List.all_eq_true.mp hall d List.mem_cons_self
  rcases hsign with rfl | rfl | rfl
  · refine ⟨false, fun rest => ?_⟩
    simp [splitSign, ne_of_isDigit hd (by decide : '-'.isDigit = false),
      ne_of_isDigit hd (by decide : '+'.isDigit = false)]
  · exact ⟨true, fun rest => rfl⟩
  · exact ⟨false, fun rest => rfl⟩

theorem exists_isPower_of_exponentPart {power : Int} (h : exponentPart cs = some (power, rest)) :
    ∃ chars, cs = chars ++ rest ∧ IsPower chars := by
  cases cs with
  | nil => cases h
  | cons mark cs =>
    rw [exponentPart_cons] at h
    by_cases hmark : mark = 'e' ∨ mark = 'E'
    swap
    · rw [if_neg hmark] at h
      cases h
    rw [if_pos hmark] at h
    split at h
    · cases h
    · rename_i digits after hne hspan
      obtain ⟨-, rfl⟩ := Prod.mk.inj (Option.some.inj h)
      obtain ⟨hcs, hdigits, -⟩ := exists_of_spanDigits hspan
      -- the mark, a sign if there is one, and digits of which there is at least one
      obtain ⟨sign, hsign, hcases⟩ := exists_sign_of_splitSign cs
      refine ⟨mark :: (sign ++ digits), ?_, .inr ⟨mark, sign, digits, hmark, hcases, ⟨?_, hdigits⟩, rfl⟩⟩
      · rw [hsign, hcs]
        simp
      · rintro rfl
        exact hne rfl

theorem exponentPart_of_endsValue {rest : List Char} (h : EndsValue rest) : exponentPart rest = none := by
  cases rest with
  | nil => rfl
  | cons c rest =>
    have hc : isDelimiter c := h c rfl
    have he : ¬(c = 'e' ∨ c = 'E') := by
      rintro (rfl | rfl) <;> simp [isDelimiter, isSpace] at hc
    simp [exponentPart, he]

/-- An exponent is read alike in front of every end. -/
theorem IsPower.exists_exponentPart {chars : List Char} (h : IsPower chars) :
    ∃ power : Option Int, (power = none → chars = []) ∧
      ∀ rest, EndsValue rest → exponentPart (chars ++ rest) = power.map (·, rest) := by
  rcases h with rfl | ⟨mark, sign, digits, hmark, hsign, hdigits, rfl⟩
  · exact ⟨none, fun _ => rfl, fun rest => exponentPart_of_endsValue⟩
  · obtain ⟨negative, hsplit⟩ := exists_splitSign_append hsign hdigits
    refine ⟨some (if negative then -(digitsValue digits : Int) else digitsValue digits), by simp,
      fun rest hrest => ?_⟩
    rw [List.cons_append, exponentPart_cons, if_pos hmark, List.append_assoc, hsplit,
      spanDigits_append hdigits.2 hrest.noDigit]
    obtain ⟨d, more, rfl⟩ := List.exists_cons_of_ne_nil hdigits.1
    rfl

theorem EndsValue.head?_ne {rest : List Char} (h : EndsValue rest) {c : Char}
    (hc : isDelimiter c = false) : rest.head? ≠ some c := by
  intro hhead
  have := h c hhead
  simp_all

/-- What follows the digits of a number without a fraction starts with neither a digit nor a point. -/
theorem IsPower.head?_append {chars : List Char} (h : IsPower chars) (hrest : EndsValue rest) :
    NoDigit (chars ++ rest) ∧ (chars ++ rest).head? ≠ some '.' := by
  rcases h with rfl | ⟨mark, sign, digits, hmark, -, -, rfl⟩
  · exact ⟨hrest.noDigit, hrest.head?_ne (by decide)⟩
  · rcases hmark with rfl | rfl <;> exact ⟨noDigit_cons (by decide), by simp⟩

/-! ### Numbers -/

theorem exists_of_numberAfter {negative : Bool} {value : Json}
    (h : numberAfter negative digits rest = (value, after)) :
    ∃ fraction power, rest = fraction ++ (power ++ after) ∧ IsFraction fraction ∧ IsPower power := by
  unfold numberAfter at h
  cases hfraction : fractionPart rest with
  | mk found more =>
  obtain ⟨fraction, rfl, hvalid⟩ := exists_isFraction_of_fractionPart hfraction
  rw [hfraction] at h
  cases hpower : exponentPart more with
  | none =>
    simp only [hpower] at h
    have hafter : more = after := by cases found <;> exact (Prod.mk.inj h).2
    exact ⟨fraction, [], by rw [hafter, List.nil_append], hvalid, .inl rfl⟩
  | some found' =>
    obtain ⟨exponent, last⟩ := found'
    obtain ⟨power, rfl, hpower'⟩ := exists_isPower_of_exponentPart hpower
    simp only [hpower] at h
    have hafter : last = after := by cases found <;> exact (Prod.mk.inj h).2
    exact ⟨fraction, power, by rw [hafter], hvalid, hpower'⟩

/-- The value of a number with its digits, those of its fraction and its exponent. -/
def numberValue (negative : Bool) (digits fraction : List Char) (power : Option Int) : Json :=
  match fraction, power with
  | [], none => .int (if negative then -(digitsValue digits : Int) else digitsValue digits)
  | fraction, power => .float (nearestFloat negative (digitsValue (digits ++ fraction))
      (power.getD 0 - fraction.length))

theorem numberAfter_eq {negative : Bool} {fraction more : List Char} {power : Option Int}
    (hfraction : fractionPart cs = (fraction, more)) (hpower : exponentPart more = power.map (·, rest))
    (hnone : power = none → more = rest) :
    numberAfter negative digits cs = (numberValue negative digits fraction power, rest) := by
  rw [numberAfter, hfraction]
  cases power with
  | some power =>
    simp only [hpower, Option.map_some]
    cases fraction <;> rfl
  | none =>
    obtain rfl := hnone rfl
    simp only [hpower, Option.map_none]
    cases fraction with
    | nil => rfl
    | cons d fraction => simp [numberValue]

/-- What follows the digits of a number is read alike in front of every end. -/
theorem exists_numberAfter_append {fraction power : List Char} (hfraction : IsFraction fraction)
    (hpower : IsPower power) (negative : Bool) (digits : List Char) :
    ∃ value, ∀ rest, EndsValue rest →
      numberAfter negative digits (fraction ++ (power ++ rest)) = (value, rest) := by
  obtain ⟨exponent, hnone, hexponent⟩ := hpower.exists_exponentPart
  refine ⟨numberValue negative digits fraction.tail exponent, fun rest hrest => ?_⟩
  obtain ⟨hdigit, hpoint⟩ := hpower.head?_append hrest
  refine numberAfter_eq (hfraction.fractionPart_append hdigit hpoint) (hexponent rest hrest) fun h => ?_
  rw [hnone h, List.nil_append]

theorem exists_sign_of_splitMinus (cs : List Char) :
    ∃ sign, cs = sign ++ (splitMinus cs).2 ∧ (sign = [] ∨ sign = ['-']) := by
  unfold splitMinus
  split
  · exact ⟨['-'], rfl, .inr rfl⟩
  · exact ⟨[], rfl, .inl rfl⟩

/-- A sign is split off alike in front of any digit. -/
theorem exists_splitMinus_append {sign : List Char} (hsign : sign = [] ∨ sign = ['-']) :
    ∃ negative, ∀ (d : Char) (rest : List Char), d.isDigit →
      splitMinus (sign ++ d :: rest) = (negative, d :: rest) := by
  rcases hsign with rfl | rfl
  · refine ⟨false, fun d rest hd => ?_⟩
    simp [splitMinus, ne_of_isDigit hd (by decide : '-'.isDigit = false)]
  · exact ⟨true, fun d rest _ => rfl⟩

/-- What is read as a number is one. -/
theorem exists_isNumber_of_scanNumber {value : Json} (h : scanNumber cs = .ok (value, rest)) :
    ∃ chars, cs = chars ++ rest ∧ IsNumber chars := by
  cases hwhole : wholePart (splitMinus cs).2 with
  | none =>
    rw [scanNumber, scanNumber?_eq, hwhole] at h
    cases h
  | some found =>
    obtain ⟨whole, more⟩ := found
    cases hnumber : numberAfter (splitMinus cs).1 whole more with
    | mk result after =>
    rw [scanNumber_eq rfl hwhole hnumber] at h
    split_ifs at h
    obtain ⟨-, rfl⟩ := Prod.mk.inj (Except.ok.inj h)
    obtain ⟨sign, hcs, hsign⟩ := exists_sign_of_splitMinus cs
    obtain ⟨hunsigned, hvalid⟩ := exists_isWhole_of_wholePart hwhole
    obtain ⟨fraction, power, rfl, hfraction, hpower⟩ := exists_of_numberAfter hnumber
    refine ⟨_, ?_, .parts hsign hvalid hfraction hpower⟩
    rw [hcs, hunsigned]
    simp

/-- A number is read alike in front of every end, unless it is an integer that is too long. -/
theorem IsNumber.exists_scanNumber {chars : List Char} (h : IsNumber chars) :
    ∃ value count, ∀ rest, EndsValue rest → scanNumber (chars ++ rest) =
      if isInteger value ∧ maximumDigits < count then
        .error ⟨.tooManyDigits count, (chars ++ rest).length⟩
      else .ok (value, rest) := by
  obtain @⟨sign, whole, fraction, power, hsign, hwhole, hfraction, hpower⟩ := h
  obtain ⟨negative, hsplit⟩ := exists_splitMinus_append hsign
  obtain ⟨value, hnumber⟩ := exists_numberAfter_append hfraction hpower negative whole
  refine ⟨value, whole.length, fun rest hrest => ?_⟩
  have hnoDigit := hfraction.noDigit (hpower.head?_append hrest).1
  have hsign : splitMinus (sign ++ (whole ++ (fraction ++ power)) ++ rest) =
      (negative, whole ++ (fraction ++ (power ++ rest))) := by
    obtain ⟨d, more, rfl⟩ := List.exists_cons_of_ne_nil hwhole.ne_nil
    have hd := List.all_eq_true.mp hwhole.isDigit d List.mem_cons_self
    simpa using hsplit d (more ++ (fraction ++ (power ++ rest))) hd
  rw [scanNumber_eq hsign (hwhole.wholePart_append hnoDigit) (hnumber rest hrest),
    spanDigits_append hwhole.isDigit hnoDigit]

end parts

/-! ### Words and numbers -/

theorem scanWord?_of_isDigit {c : Char} (h : c.isDigit) (rest : List Char) :
    scanWord? (c :: rest) = none := by
  have hne : ∀ d : Char, d.isDigit = false → d ≠ c := fun d hd => (ne_of_isDigit h hd).symm
  simp [scanWord?, wordValues, hne]

theorem scanWord?_minus {c : Char} (h : c.isDigit) (rest : List Char) :
    scanWord? ('-' :: c :: rest) = none := by
  have hne : 'I' ≠ c := (ne_of_isDigit h (by decide)).symm
  simp [scanWord?, wordValues, hne]

/-- A word that is read stands in front of what is left. -/
theorem exists_of_scanWord? {cs rest : List Char} {value : Json} (h : scanWord? cs = some (value, rest)) :
    ∃ word, (word, value) ∈ wordValues ∧ cs = word ++ rest := by
  obtain ⟨⟨word, result⟩, hmem, hfound⟩ := List.exists_of_findSome?_eq_some h
  dsimp only at hfound
  split_ifs at hfound with hprefix
  obtain ⟨tail, rfl⟩ := List.isPrefixOf_iff_prefix.mp hprefix
  obtain ⟨rfl, rfl⟩ : result = value ∧ tail = rest := by simpa using hfound
  exact ⟨word, hmem, rfl⟩

/-- What is read is a word or else a number. -/
theorem scanBare_cases {cs rest : List Char} {value : Json} (h : scanBare cs = .ok (value, rest)) :
    (∃ word, (word, value) ∈ wordValues ∧ cs = word ++ rest) ∨ scanNumber cs = .ok (value, rest) := by
  unfold scanBare at h
  split at h
  · rename_i found hword
    obtain rfl := Except.ok.inj h
    exact .inl (exists_of_scanWord? hword)
  · exact .inr h

/-- A number is read alike in front of every end. -/
theorem isBare_of_scanNumber {cs rest : List Char} {value : Json}
    (h : scanNumber cs = .ok (value, rest)) (hrest : EndsValue rest) :
    ∃ chars, cs = chars ++ rest ∧ IsBare chars value := by
  obtain ⟨chars, rfl, hnumber⟩ := exists_isNumber_of_scanNumber h
  obtain ⟨result, count, hread⟩ := hnumber.exists_scanNumber
  rw [hread rest hrest] at h
  split_ifs at h with hlong
  obtain ⟨rfl, -⟩ := Prod.mk.inj (Except.ok.inj h)
  obtain ⟨sign, d, more, hchars, hsign, hd⟩ := hnumber.exists_digit
  refine ⟨chars, rfl, fun rest hends => ?_, hnumber.all, ?_⟩
  · -- a number starts with a digit or with a minus in front of one, and so no word starts there
    have hword : scanWord? (chars ++ rest) = none := by
      rw [hchars, List.append_assoc]
      rcases hsign with rfl | rfl
      · exact scanWord?_of_isDigit hd _
      · exact scanWord?_minus hd _
    rw [scanBare, hword]
    exact (hread rest hends).trans (if_neg hlong)
  · rcases hsign with rfl | rfl
    · exact ⟨d, more, hchars, .inr (.inl hd)⟩
    · exact ⟨'-', d :: more, hchars, .inr (.inr ⟨rfl, d, rfl, ne_of_isDigit hd (by decide)⟩)⟩

theorem isBare_of_mem_wordValues {word : List Char} {value : Json} (h : (word, value) ∈ wordValues) :
    IsBare word value := by
  simp only [wordValues, List.mem_cons, Prod.mk.injEq, List.not_mem_nil, or_false] at h
  rcases h with ⟨rfl, rfl⟩ | ⟨rfl, rfl⟩ | ⟨rfl, rfl⟩ | ⟨rfl, rfl⟩ | ⟨rfl, rfl⟩ | ⟨rfl, rfl⟩
  case inr.inr.inr.inr.inr => exact ⟨fun _ _ => rfl, by decide, _, _, rfl, .inr (.inr ⟨rfl, 'I', rfl, by decide⟩)⟩
  all_goals exact ⟨fun _ _ => rfl, by decide, _, _, rfl, .inl (by decide)⟩

/-- A word or a number is read alike in front of every end. -/
theorem isBare_of_scanBare {cs rest : List Char} {value : Json}
    (h : scanBare cs = .ok (value, rest)) (hrest : EndsValue rest) :
    ∃ chars, cs = chars ++ rest ∧ IsBare chars value := by
  rcases scanBare_cases h with ⟨word, hmem, rfl⟩ | hnumber
  · exact ⟨word, rfl, isBare_of_mem_wordValues hmem⟩
  · exact isBare_of_scanNumber hnumber hrest

/-- Is a value neither a list nor an object? -/
def isLeaf : Json → Bool
  | .arr _ | .obj _ => false
  | _ => true

theorem isLeaf_numberAfter (negative : Bool) (digits rest : List Char) :
    isLeaf (numberAfter negative digits rest).1 := by
  unfold numberAfter
  dsimp only
  split <;> rfl

theorem isLeaf_of_scanBare {cs rest : List Char} {value : Json} (h : scanBare cs = .ok (value, rest)) :
    isLeaf value := by
  rcases scanBare_cases h with ⟨word, hmem, -⟩ | hnumber
  · have hleaf : ∀ entry ∈ wordValues, isLeaf entry.2 := by simp [wordValues, isLeaf]
    exact hleaf _ hmem
  · cases hwhole : wholePart (splitMinus cs).2 with
    | none =>
      rw [scanNumber, scanNumber?_eq, hwhole] at hnumber
      simp at hnumber
    | some found =>
      obtain ⟨digits, more⟩ := found
      have hleaf := isLeaf_numberAfter (splitMinus cs).1 digits more
      cases hafter : numberAfter (splitMinus cs).1 digits more with
      | mk result after =>
        rw [scanNumber_eq rfl hwhole hafter] at hnumber
        split_ifs at hnumber
        obtain ⟨rfl, -⟩ := Prod.mk.inj (Except.ok.inj hnumber)
        simpa [hafter] using hleaf

theorem IsBare.isLeaf {chars : List Char} {value : Json} (h : IsBare chars value) : isLeaf value :=
  isLeaf_of_scanBare (h.reads [] endsValue_nil)

end ProposalCheck.Json
