import Mathlib.Data.List.Basic
import ProposalCheck.Text.Case

/-!
# Characters without case

Digits and most marks come before the letters of the alphabet, and no character has one of them as its lower
case. So where case does not count, such a character equals no other.

## Main results

* `CodeTable.mem_of_last?`: what is found in a table is one of its entries
* `CodeShifts.exists_of_apply`: a code point that moves is in a run
* `CodeShifts.le_apply`: a code point that moves comes to the image of a run, or behind it
* `eq_of_equalsIgnoringCase`: a character before the letters equals itself alone
-/

namespace ProposalCheck

/-! ### Tables -/

theorem CodeTable.mem_of_lastIn? {α : Type} {table : CodeTable α} {code low high : Nat} {entry : Nat × α}
    (h : table.lastIn? code low high = some entry) : entry ∈ table := by
  fun_induction CodeTable.lastIn? table code low high with
  | case1 => cases h
  | case2 low high _ middle found hfound _ ih =>
    rcases Option.or_eq_some_iff.mp h with h | ⟨-, h⟩
    · exact ih h
    · obtain rfl := Option.some.inj h
      exact Array.mem_of_getElem? hfound
  | case3 low high _ middle found _ _ ih => exact ih h
  | case4 => cases h

theorem CodeTable.mem_of_last? {α : Type} {table : CodeTable α} {code : Nat} {entry : Nat × α}
    (h : table.last? code = some entry) : entry ∈ table := mem_of_lastIn? h

theorem CodeTable.le_of_lastIn? {α : Type} {table : CodeTable α} {code low high : Nat} {entry : Nat × α}
    (h : table.lastIn? code low high = some entry) : entry.1 ≤ code := by
  fun_induction CodeTable.lastIn? table code low high with
  | case1 => cases h
  | case2 low high _ middle found _ hle ih =>
    rcases Option.or_eq_some_iff.mp h with h | ⟨-, h⟩
    · exact ih h
    · obtain rfl := Option.some.inj h
      exact hle
  | case3 low high _ middle found _ _ ih => exact ih h
  | case4 => cases h

/-- A code point that moves is in a run, and moves with it. -/
theorem CodeShifts.exists_of_apply {shifts : CodeShifts} {code : Nat} (hmoves : shifts.apply code ≠ code) :
    ∃ entry ∈ shifts.runs, entry.1 ≤ code ∧ code ≤ entry.2.last ∧
      shifts.apply code = entry.2.image + (code - entry.1) := by
  rw [apply] at hmoves ⊢
  cases hrun : shifts.runs.last? code with
  | none => simp [hrun] at hmoves
  | some entry =>
    simp only [hrun] at hmoves ⊢
    split_ifs at hmoves ⊢ with hin
    · exact ⟨entry, CodeTable.mem_of_last? hrun, CodeTable.le_of_lastIn? hrun, hin.1, rfl⟩
    · exact absurd rfl hmoves

/-- A code point that moves comes to the image of a run, or behind it. -/
theorem CodeShifts.le_apply {shifts : CodeShifts} {low code : Nat} (h : ∀ entry ∈ shifts.runs, low ≤ entry.2.image)
    (hmoves : shifts.apply code ≠ code) : low ≤ shifts.apply code := by
  obtain ⟨entry, hentry, -, -, happly⟩ := exists_of_apply hmoves
  rw [happly]
  exact Nat.le_trans (h entry hentry) (Nat.le_add_right _ _)

theorem mem_listAt {table : CodeTable (List Nat)} {code other : Nat} (h : other ∈ listAt table code) :
    ∃ entry ∈ table, entry.1 = code ∧ other ∈ entry.2 := by
  rw [listAt] at h
  split at h
  · rename_i found codes hfound
    split_ifs at h with hcode
    · exact ⟨_, CodeTable.mem_of_last? hfound, hcode, h⟩
    · cases h
  · cases h

/-! ### Case -/

/-- No run of upper-case characters moves to one before the letters. -/
theorem le_image_of_mem_lowerShifts : ∀ entry ∈ lowerShifts.runs, 65 ≤ entry.2.image := by
  simp only [← Array.mem_toList_iff]
  rw [lowerShifts, CodeShifts.ofText, Array.toList_map, tableWords]
  -- the kernel is slow to read the characters of a long text
  rw [String.toList_ofList]
  decide +kernel

/-- No character before the letters shares an upper case with another one. -/
theorem le_of_mem_sharedUpperCase : ∀ entry ∈ sharedUpperCase, ∀ code ∈ entry.2, 65 ≤ code := by
  simp only [← Array.mem_toList_iff]
  rw [sharedUpperCase, codeLists, Array.toList_map, tableWords, String.toList_ofList]
  decide +kernel

/-- No letter has a mark or a digit as its lower case. -/
theorem toLower_ofNat : ∀ code < 128, code < 65 ∨ (Char.ofNat code).toLower.toNat < 65 →
    (Char.ofNat code).toLower = Char.ofNat code := by
  decide +kernel

/-- A character before the letters is its own lower case. -/
theorem lowerChar_of_lt {c : Char} (hlt : c.toNat < 65) : lowerChar c = c := by
  have h := toLower_ofNat c.toNat (by omega) (.inl hlt)
  rw [Char.ofNat_toNat] at h
  rw [lowerChar, if_pos (by omega), h]

/-- A number is the code point of its character, if that is not the one for numbers that are no code points. -/
theorem toNat_ofNat {code : Nat} (hpos : 0 < (Char.ofNat code).toNat) : (Char.ofNat code).toNat = code := by
  by_cases hvalid : code.isValidChar
  · rw [Char.ofNat, dif_pos hvalid]
    rfl
  · rw [Char.ofNat, dif_neg hvalid] at hpos
    exact absurd hpos (by decide)

/-- A character before the letters is the lower case of no other one. -/
theorem lowerChar_eq_self {a : Char} (hpos : 0 < (lowerChar a).toNat) (hlt : (lowerChar a).toNat < 65) :
    lowerChar a = a := by
  rw [lowerChar] at hpos hlt ⊢
  split_ifs at hpos hlt ⊢ with hascii
  · have h := toLower_ofNat a.toNat hascii
    rw [Char.ofNat_toNat] at h
    exact h (.inr hlt)
  · by_cases hmoves : lowerShifts.apply a.toNat = a.toNat
    · rw [hmoves, Char.ofNat_toNat]
    · -- a code point that moves comes behind the marks and digits, or stands for no character
      have hle := CodeShifts.le_apply le_image_of_mem_lowerShifts hmoves
      rw [toNat_ofNat hpos] at hlt
      omega

/-- Where case does not count, a character before the letters equals itself alone. -/
theorem eq_of_equalsIgnoringCase {a c : Char} (hpos : 0 < c.toNat) (hlt : c.toNat < 65)
    (h : equalsIgnoringCase a c = true) : a = c := by
  simp only [equalsIgnoringCase, lowerChar_of_lt hlt, Bool.or_eq_true, decide_eq_true_eq,
    List.contains_iff_mem] at h
  rcases h with rfl | h
  · exact (lowerChar_eq_self hpos hlt).symm
  · obtain ⟨entry, hentry, -, hcode⟩ := mem_listAt h
    have hle := le_of_mem_sharedUpperCase entry hentry _ hcode
    omega

end ProposalCheck
