import Mathlib.Data.List.Forall2
import ProposalCheck.Proofs.Reference.Linked
import ProposalCheck.Proofs.Text.Decimal

/-!
# Words of letters and digits

The word of a mention is of letters of the Latin alphabet and digits. Where case does not count, such a character
equals others of them and four more: `İ` and the Kelvin sign, whose lower cases are `i` and `k`, and `ı` and `ſ`, which
share the upper cases of `i` and `s`. All of these are word characters and none is allowed between word and number. A
letter equals no digit. So whatever matches the word stands out from what may come around it.

## Main definitions

* `IsWord`: characters of a word with a letter in it

## Main results

* `cases_of_equalsIgnoringCase`: what equals a letter or a digit
* `EqualIgnoringCase.isWord`: what matches the word
* `equalIgnoringCase_upperCase`: the word in upper case matches
-/

namespace ProposalCheck

variable {a b : Char} {word front : List Char}

/-! ### The tables of case -/

/-- Lower cases in ASCII belong to ASCII characters, but for `İ` and the Kelvin sign, and nothing has `ı` or `ſ` as its
lower case. -/
theorem mem_lowerShifts : ∀ entry ∈ lowerShifts.runs,
    (entry.2.image < 128 → entry.2.last < 128 ∨ entry.1 = 0x130 ∧ entry.2.last = 0x130 ∨
      entry.1 = 0x212a ∧ entry.2.last = 0x212a) ∧
    ∀ code ∈ [0x131, 0x17f], code < entry.2.image ∨ entry.2.image + (entry.2.last - entry.1) < code := by
  simp only [← Array.mem_toList_iff]
  rw [lowerShifts, CodeShifts.ofText, Array.toList_map, tableWords, String.toList_ofList]
  decide +kernel

/-- Of the characters in ASCII, `i` and `s` share their upper case, each with one other. -/
theorem mem_sharedUpperCase_ascii : ∀ entry ∈ sharedUpperCase, entry.1 < 128 →
    ∀ code ∈ entry.2, code = 0x131 ∨ code = 0x17f := by
  simp only [← Array.mem_toList_iff]
  rw [sharedUpperCase, codeLists, Array.toList_map, tableWords, String.toList_ofList]
  decide +kernel

/-- The four characters are letters and no separators. -/
theorem isLetter_of_mem_variants : ∀ code ∈ [0x130, 0x131, 0x17f, 0x212a],
    letterOrNumberRanges.contains code = true ∧ isSeparator (Char.ofNat code) = false := by
  rw [letterOrNumberRanges, CodeRanges.ofText, tableWords, String.toList_ofList, List.map_toArray]
  decide +kernel

/-- No character in ASCII has an upper case of more characters. -/
theorem le_of_mem_upperExpansions : ∀ entry ∈ upperExpansions, 128 ≤ entry.1 := by
  simp only [← Array.mem_toList_iff]
  rw [upperExpansions, codeLists, Array.toList_map, tableWords, String.toList_ofList]
  decide +kernel

/-- One run of the table of upper cases is in ASCII, that of the letters. -/
theorem mem_upperShifts : (∀ entry ∈ upperShifts.runs, entry.1 = 97 ∧ entry.2.last = 122 ∨ 128 ≤ entry.1) ∧
    ∀ code < 123, 97 ≤ code → upperShifts.apply code = code - 32 := by
  simp only [← Array.mem_toList_iff]
  rw [upperShifts, CodeShifts.ofText, tableWords, String.toList_ofList, List.map_toArray]
  decide +kernel

/-- The cases of the characters in ASCII. None of the letters and digits is a separator. -/
theorem cases_ofNat : ∀ code < 128, let c := Char.ofNat code
    (c.toLower.isAlphanum = c.isAlphanum ∧ c.toLower.toNat < 128) ∧ (c.isAlphanum → isSeparator c = false) ∧
      (c.toUpper.toNat < 128 ∧ c.toUpper.toLower = c.toLower) ∧
      c.toUpper = if 97 ≤ code ∧ code < 123 then Char.ofNat (code - 32) else c := by
  decide +kernel

/-! ### Letters and digits -/

/-- The letters and digits by their code points. -/
theorem isAlphanum_iff : a.isAlphanum ↔
    48 ≤ a.toNat ∧ a.toNat ≤ 57 ∨ 65 ≤ a.toNat ∧ a.toNat ≤ 90 ∨ 97 ≤ a.toNat ∧ a.toNat ≤ 122 := by
  unfold Char.isAlphanum Char.isAlpha Char.isUpper Char.isLower Char.isDigit
  simp only [Bool.or_eq_true, Bool.and_eq_true, decide_eq_true_eq, ge_iff_le, UInt32.le_iff_toNat_le, Char.toNat_val,
    Char.reduceToNat]
  omega

theorem le_of_isAlpha (h : a.isAlpha) : 65 ≤ a.toNat := by
  unfold Char.isAlpha Char.isUpper Char.isLower at h
  simp only [Bool.or_eq_true, Bool.and_eq_true, decide_eq_true_eq, ge_iff_le, UInt32.le_iff_toNat_le, Char.toNat_val,
    Char.reduceToNat] at h
  omega

theorem lt_of_isAlphanum (h : a.isAlphanum) : 0 < a.toNat ∧ a.toNat < 128 := by
  rw [isAlphanum_iff] at h
  omega

/-- A character in ASCII has its lower case there. Another one stays or moves with its run. -/
theorem lowerChar_cases (hpos : 0 < (lowerChar b).toNat) :
    b.toNat < 128 ∧ lowerChar b = b.toLower ∨ 128 ≤ b.toNat ∧ (lowerChar b = b ∨ ∃ entry ∈ lowerShifts.runs,
      entry.1 ≤ b.toNat ∧ b.toNat ≤ entry.2.last ∧ (lowerChar b).toNat = entry.2.image + (b.toNat - entry.1)) := by
  by_cases hascii : b.toNat < 128
  · exact .inl ⟨hascii, if_pos hascii⟩
  · have heq : lowerChar b = Char.ofNat (lowerShifts.apply b.toNat) := if_neg hascii
    refine .inr ⟨by omega, ?_⟩
    by_cases hmoves : lowerShifts.apply b.toNat = b.toNat
    · rw [heq, hmoves, Char.ofNat_toNat]
      exact .inl rfl
    · obtain ⟨entry, hentry, hfirst, hlast, happly⟩ := CodeShifts.exists_of_apply hmoves
      refine .inr ⟨entry, hentry, hfirst, hlast, ?_⟩
      rw [heq] at hpos ⊢
      rw [toNat_ofNat hpos, happly]

/-- The lower case of a letter or a digit is one. -/
theorem isAlphanum_lowerChar (h : a.isAlphanum) : (lowerChar a).isAlphanum := by
  have hascii := (lt_of_isAlphanum h).2
  have hlower := (cases_ofNat a.toNat hascii).1.1
  rw [Char.ofNat_toNat] at hlower
  rw [lowerChar, if_pos hascii, hlower]
  exact h

/-- The characters whose lower case is a letter or a digit in ASCII. -/
theorem cases_of_lowerChar (h : (lowerChar b).isAlphanum) : b.isAlphanum ∨ b.toNat = 0x130 ∨ b.toNat = 0x212a := by
  obtain ⟨hpos, hlt⟩ := lt_of_isAlphanum h
  rcases lowerChar_cases hpos with ⟨hascii, hlower⟩ | ⟨hbeyond, hself | ⟨entry, hentry, hfirst, hlast, hcode⟩⟩
  · have hboth := (cases_ofNat b.toNat hascii).1.1
    rw [Char.ofNat_toNat, ← hlower, h] at hboth
    exact .inl hboth.symm
  · rw [hself] at hlt
    omega
  · have := (mem_lowerShifts entry hentry).1 (by omega)
    omega

/-- No other character has `ı` or `ſ` as its lower case. -/
theorem toNat_of_lowerChar (h : (lowerChar b).toNat = 0x131 ∨ (lowerChar b).toNat = 0x17f) :
    b.toNat = 0x131 ∨ b.toNat = 0x17f := by
  rcases lowerChar_cases (b := b) (by omega) with ⟨hascii, hlower⟩ | ⟨-, hself | ⟨entry, hentry, hfirst, hlast, hcode⟩⟩
  · have hlt := (cases_ofNat b.toNat hascii).1.2
    rw [Char.ofNat_toNat, ← hlower] at hlt
    omega
  · rwa [hself] at h
  · have hnone := (mem_lowerShifts entry hentry).2 (lowerChar b).toNat (by simpa using h)
    omega

/-- Where case does not count, a letter or a digit equals others of them, and four more characters. -/
theorem cases_of_equalsIgnoringCase (ha : a.isAlphanum) (h : equalsIgnoringCase a b = true) :
    b.isAlphanum ∨ b.toNat ∈ [0x130, 0x131, 0x17f, 0x212a] := by
  have hlower := isAlphanum_lowerChar ha
  simp only [equalsIgnoringCase, Bool.or_eq_true, decide_eq_true_eq, List.contains_iff_mem] at h
  rcases h with heq | hshared
  · rw [heq] at hlower
    rcases cases_of_lowerChar hlower with hb | hb | hb
    · exact .inl hb
    · exact .inr (by simp [hb])
    · exact .inr (by simp [hb])
  · obtain ⟨entry, hentry, hfirst, hcode⟩ := mem_listAt hshared
    have hascii : entry.1 < 128 := hfirst ▸ (lt_of_isAlphanum hlower).2
    rcases toNat_of_lowerChar (mem_sharedUpperCase_ascii entry hentry hascii _ hcode) with hb | hb
    · exact .inr (by simp [hb])
    · exact .inr (by simp [hb])

/-- So it is a word character. -/
theorem isWordChar_of_equalsIgnoringCase (ha : a.isAlphanum) (h : equalsIgnoringCase a b = true) :
    isWordChar b = true := by
  rw [isWordChar]
  rcases cases_of_equalsIgnoringCase ha h with hb | hb
  · rw [if_pos (lt_of_isAlphanum hb).2, hb, Bool.true_or]
  · rw [if_neg (by simp at hb; omega)]
    exact (isLetter_of_mem_variants _ hb).1

/-- It is not allowed between word and number. -/
theorem isSeparator_of_equalsIgnoringCase (ha : a.isAlphanum) (h : equalsIgnoringCase a b = true) :
    isSeparator b = false := by
  rcases cases_of_equalsIgnoringCase ha h with hb | hb
  · have hseparator := (cases_ofNat b.toNat (lt_of_isAlphanum hb).2).2.1
    rw [Char.ofNat_toNat] at hseparator
    exact hseparator hb
  · have hseparator := (isLetter_of_mem_variants b.toNat hb).2
    rwa [Char.ofNat_toNat] at hseparator

/-- A letter equals no digit. -/
theorem eq_of_isDigit (hb : b.isDigit) (h : equalsIgnoringCase a b = true) : a = b := by
  obtain ⟨hle, hge⟩ := toNat_of_isDigit hb
  exact eq_of_equalsIgnoringCase (by omega) (by omega) h

/-! ### Words -/

/-- The characters of a word: none of them is a separator, and one of them is no digit. -/
structure IsWord (cs : List Char) : Prop where
  isWordChar : ∀ c ∈ cs, isWordChar c = true
  isSeparator : ∀ c ∈ cs, isSeparator c = false
  letter : ∃ c ∈ cs, c.isDigit = false

theorem exists_of_forall₂ {α β : Type} {R : α → β → Prop} {items : List α} {others : List β}
    (h : List.Forall₂ R items others) {item : α} (hitem : item ∈ items) : ∃ other ∈ others, R item other := by
  induction h with
  | nil => cases hitem
  | cons hrel _ ih =>
    rcases List.mem_cons.mp hitem with rfl | hitem
    · exact ⟨_, List.mem_cons_self, hrel⟩
    · obtain ⟨other, hother, hrel⟩ := ih hitem
      exact ⟨other, List.mem_cons_of_mem _ hother, hrel⟩

/-- What matches a word of letters and digits with a letter in it is a word. -/
theorem EqualIgnoringCase.isWord (h : EqualIgnoringCase word front) (hword : ∀ c ∈ word, c.isAlphanum)
    (hletter : ∃ c ∈ word, c.isAlpha) : IsWord front := by
  refine ⟨fun d hd => ?_, fun d hd => ?_, ?_⟩
  · obtain ⟨c, hc, hrel⟩ := exists_of_forall₂ h.flip hd
    exact isWordChar_of_equalsIgnoringCase (hword c hc) hrel
  · obtain ⟨c, hc, hrel⟩ := exists_of_forall₂ h.flip hd
    exact isSeparator_of_equalsIgnoringCase (hword c hc) hrel
  · obtain ⟨c, hc, halpha⟩ := hletter
    obtain ⟨d, hd, hrel⟩ := exists_of_forall₂ h hc
    refine ⟨d, hd, Bool.eq_false_iff.mpr fun hdigit => ?_⟩
    have hle := le_of_isAlpha halpha
    have hge := (toNat_of_isDigit hdigit).2
    rw [eq_of_isDigit hdigit hrel] at hle
    omega

/-! ### Upper case -/

/-- The upper case of a character in ASCII is one character. -/
theorem upperChar_eq (h : a.toNat < 128) : upperChar a = [a.toUpper] := by
  have hnone : listAt upperExpansions a.toNat = [] := by
    refine List.eq_nil_iff_forall_not_mem.mpr fun code hcode => ?_
    obtain ⟨entry, hentry, hfirst, -⟩ := mem_listAt hcode
    have := le_of_mem_upperExpansions entry hentry
    omega
  have hupper := (cases_ofNat a.toNat h).2.2.2
  rw [Char.ofNat_toNat] at hupper
  rw [upperChar, hnone, upperCodes, hupper]
  split_ifs with hletter
  · rw [mem_upperShifts.2 a.toNat hletter.2 hletter.1]
  · by_cases hmoves : upperShifts.apply a.toNat = a.toNat
    · rw [hmoves, Char.ofNat_toNat]
    · obtain ⟨entry, hentry, hfirst, hlast, -⟩ := CodeShifts.exists_of_apply hmoves
      have := mem_upperShifts.1 entry hentry
      omega

/-- A character in ASCII equals its upper case. -/
theorem equalsIgnoringCase_toUpper (h : a.toNat < 128) : equalsIgnoringCase a a.toUpper = true := by
  have hupper := (cases_ofNat a.toNat h).2.2.1
  rw [Char.ofNat_toNat] at hupper
  have hlower : lowerChar a = lowerChar a.toUpper := by
    rw [lowerChar, lowerChar, if_pos h, if_pos hupper.1, hupper.2]
  simp [equalsIgnoringCase, hlower]

/-- The upper case of a word. -/
theorem upperCase_eq (h : ∀ c ∈ word, c.toNat < 128) :
    upperCase (String.ofList word) = String.ofList (word.map Char.toUpper) := by
  rw [upperCase, String.toList_ofList, String.ofList_inj, List.map_eq_flatMap]
  exact List.flatMap_congr fun c hc => upperChar_eq (h c hc)

/-- The word in upper case matches. -/
theorem equalIgnoringCase_upperCase (hword : ∀ c ∈ word, c.isAlphanum) :
    EqualIgnoringCase word (upperCase (String.ofList word)).toList := by
  have hascii : ∀ c ∈ word, c.toNat < 128 := fun c hc => (lt_of_isAlphanum (hword c hc)).2
  rw [upperCase_eq hascii, String.toList_ofList, EqualIgnoringCase, List.forall₂_map_right_iff, List.forall₂_same]
  exact fun c hc => equalsIgnoringCase_toUpper (hascii c hc)

end ProposalCheck
