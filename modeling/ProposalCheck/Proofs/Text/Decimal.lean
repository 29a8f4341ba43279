import Mathlib.Data.List.Basic
import ProposalCheck.Rule.Value

/-!
# Numbers in base ten

Digits denote a number, whether or not there are zeros in front. Without these, there is one text for every number:
the one that writing the number gives.

## Main results

* `decimalNat?_eq`: the number that digits denote
* `decimalNat?_toDigits`: a number that is written is read again
* `isCanonicalNumber_iff`: the texts of numbers
-/

namespace ProposalCheck

variable {c : Char} {cs : List Char} {n : Nat}

/-! ### The number that digits denote -/

theorem toNat_of_isDigit (h : c.isDigit) : 48 ≤ c.toNat ∧ c.toNat ≤ 57 := by
  rw [Char.isDigit, Bool.and_eq_true, decide_eq_true_eq, decide_eq_true_eq] at h
  exact h

/-- A digit is how its value is written. -/
theorem digitChar_of_isDigit (h : c.isDigit) : Nat.digitChar (c.toNat - 48) = c := by
  obtain ⟨hle, hge⟩ := toNat_of_isDigit h
  apply Char.toNat_inj.mp
  rw [Nat.toNat_digitChar_of_lt_ten (by omega)]
  omega

theorem decimalValue?_of_isDigit (h : c.isDigit) : decimalValue? c = some (c.toNat - 48) :=
  if_pos (toNat_of_isDigit h)

/-- Digits denote a number in base ten. -/
theorem decimalNat?_eq (hne : cs ≠ []) (hdigits : ∀ c ∈ cs, c.isDigit) :
    decimalNat? cs = some (Nat.ofDigitChars 10 cs 0) := by
  have hfold : ∀ start, cs.foldlM (fun value c => (decimalValue? c).map (value * 10 + ·)) start =
      some (Nat.ofDigitChars 10 cs start) := by
    clear hne
    induction cs with
    | nil => exact fun start => congrArg some Nat.ofDigitChars_nil.symm
    | cons c cs ih =>
      intro start
      rw [List.foldlM_cons, decimalValue?_of_isDigit (hdigits c List.mem_cons_self), Option.map_some,
        Nat.ofDigitChars_cons, Nat.mul_comm 10]
      exact ih (fun d hd => hdigits d (List.mem_cons_of_mem _ hd)) _
  rw [decimalNat?, if_neg hne, hfold]

/-- A number that is written is read again. -/
theorem decimalNat?_toDigits (n : Nat) : decimalNat? (Nat.toDigits 10 n) = some n := by
  rw [decimalNat?_eq Nat.toDigits_ne_nil fun c hc => Nat.isDigit_of_mem_toDigits (by decide) (by decide) hc,
    Nat.ofDigitChars_ten_toDigits]

/-! ### Texts of numbers -/

/-- A number has no zeros in front when it is written. -/
theorem head?_toDigits_ne (h : 0 < n) : (Nat.toDigits 10 n).head? ≠ some '0' := by
  induction n using Nat.strongRecOn with
  | _ n ih =>
    rw [Nat.toDigits_eq_if (by decide)]
    split_ifs with hlt
    · intro hzero
      have hvalue := Nat.toNat_digitChar_of_lt_ten hlt
      rw [Option.some.inj hzero] at hvalue
      exact absurd hvalue (by simp; omega)
    · rw [List.head?_append_of_ne_nil _ Nat.toDigits_ne_nil]
      exact ih (n / 10) (by omega) (by omega)

/-- Digits go on writing a number that is not zero. -/
theorem toDigits_append (h : 0 < n) (hdigits : ∀ c ∈ cs, c.isDigit) :
    Nat.toDigits 10 n ++ cs = Nat.toDigits 10 (Nat.ofDigitChars 10 cs n) := by
  induction cs generalizing n with
  | nil => rw [List.append_nil, Nat.ofDigitChars_nil]
  | cons c cs ih =>
    have hc := hdigits c List.mem_cons_self
    have hvalue : c.toNat - 48 < 10 := by
      have := toNat_of_isDigit hc
      omega
    calc Nat.toDigits 10 n ++ c :: cs
      _ = (Nat.toDigits 10 n ++ Nat.toDigits 10 (c.toNat - 48)) ++ cs := by
        rw [Nat.toDigits_of_lt_base hvalue, digitChar_of_isDigit hc, List.append_assoc, List.singleton_append]
      _ = Nat.toDigits 10 (10 * n + (c.toNat - 48)) ++ cs := by
        rw [Nat.toDigits_append_toDigits (by decide) h hvalue]
      _ = Nat.toDigits 10 (Nat.ofDigitChars 10 (c :: cs) n) := by
        rw [ih (by omega) fun d hd => hdigits d (List.mem_cons_of_mem _ hd), Nat.ofDigitChars_cons]
        rfl

/-- Digits without zeros in front are how their number is written. -/
theorem toDigits_ofDigitChars (hdigits : ∀ d ∈ c :: cs, d.isDigit) (hzero : c = '0' → cs = []) :
    Nat.toDigits 10 (Nat.ofDigitChars 10 (c :: cs) 0) = c :: cs := by
  have hc := hdigits c List.mem_cons_self
  obtain ⟨hle, hge⟩ := toNat_of_isDigit hc
  have hfirst : Nat.toDigits 10 (c.toNat - 48) = [c] := by
    rw [Nat.toDigits_of_lt_base (by omega), digitChar_of_isDigit hc]
  rw [Nat.ofDigitChars_cons, Nat.mul_zero, Nat.zero_add]
  by_cases hpos : 0 < c.toNat - 48
  · rw [← List.singleton_append, ← hfirst]
    exact (toDigits_append hpos fun d hd => hdigits d (List.mem_cons_of_mem _ hd)).symm
  · have hc : c = '0' := Char.toNat_inj.mp (show c.toNat = 48 by omega)
    rw [hzero hc, Nat.ofDigitChars_nil]
    exact hfirst

/-- Texts without signs and zeros in front are how numbers are written. -/
theorem isCanonicalNumber_iff : isCanonicalNumber cs ↔ ∃ n, cs = Nat.toDigits 10 n := by
  constructor
  · intro h
    cases cs with
    | nil => cases h
    | cons c cs =>
      simp only [isCanonicalNumber, Bool.and_eq_true, List.all_eq_true, Bool.or_eq_true, decide_eq_true_eq] at h
      obtain ⟨⟨-, hdigits⟩, hhead⟩ := h
      refine ⟨_, (toDigits_ofDigitChars hdigits ?_).symm⟩
      rintro rfl
      simpa using hhead
  · rintro ⟨n, rfl⟩
    have hdigits : (Nat.toDigits 10 n).all Char.isDigit :=
      List.all_eq_true.mpr fun c hc => Nat.isDigit_of_mem_toDigits (by decide) (by decide) hc
    rcases Nat.eq_zero_or_pos n with rfl | hpos
    · decide
    · simp [isCanonicalNumber, hdigits, head?_toDigits_ne hpos]

end ProposalCheck
