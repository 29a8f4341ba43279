import Mathlib.Data.List.Infix
import ProposalCheck.Text.Blank
import ProposalCheck.Text.CodeTable

/-!
# Texts between separators

A text falls into parts at the occurrences of a separator, each looked for from the left behind the one before it. The
separator may have several characters, and its occurrences may overlap: of such occurrences the first one counts.

## Main definitions

* `Splits`: the parts of a text between the occurrences of a separator

## Main results

* `dropStart?_isSome_iff`: a text stands at the front of another one
* `splits_splitOnChars`: splitting gives the parts
* `splitWhere_append`: splitting at single characters, before one of them and behind it
-/

namespace ProposalCheck

variable {cs start rest separator : List Char}

/-! ### The front of a text -/

theorem eq_of_dropStart? (h : dropStart? start cs = some rest) : cs = start ++ rest := by
  induction start generalizing cs with
  | nil => exact Option.some.inj h
  | cons a start ih =>
    cases cs with
    | nil => cases h
    | cons b cs =>
      rw [dropStart?] at h
      split_ifs at h with heq
      rw [heq, ih h, List.cons_append]

theorem dropStart?_append (start rest : List Char) : dropStart? start (start ++ rest) = some rest := by
  induction start with
  | nil => rfl
  | cons a start ih => rw [List.cons_append, dropStart?, if_pos rfl, ih]

theorem dropStart?_isSome_iff : (dropStart? start cs).isSome ↔ start <+: cs := by
  rw [Option.isSome_iff_exists]
  constructor
  · rintro ⟨rest, hrest⟩
    exact ⟨rest, (eq_of_dropStart? hrest).symm⟩
  · rintro ⟨rest, rfl⟩
    exact ⟨rest, dropStart?_append start rest⟩

/-! ### Separators of any length -/

/-- The parts of a text between the occurrences of a separator, the first of which is the first one in the text. -/
inductive Splits (separator : List Char) : List Char → List (List Char) → Prop
  | last {part : List Char} (hpart : ¬separator <:+: part) : Splits separator part [part]
  | more {part rest : List Char} {parts : List (List Char)}
      (hfirst : ∀ front back, part ++ separator ++ rest = front ++ separator ++ back → part.length ≤ front.length)
      (hrest : Splits separator rest parts) : Splits separator (part ++ separator ++ rest) (part :: parts)

theorem Splits.ne_nil {parts : List (List Char)} (h : Splits separator cs parts) : parts ≠ [] := by
  cases h <;> exact List.cons_ne_nil _ _

/-- The parts with the separator between them are the text. -/
theorem Splits.intercalate_eq {parts : List (List Char)} (h : Splits separator cs parts) :
    separator.intercalate parts = cs := by
  induction h with
  | last => simp
  | more _ hrest ih => rw [List.intercalate_cons_of_ne_nil hrest.ne_nil, ih]

/-- A character in front of which the separator does not stand belongs to the first part. -/
theorem Splits.cons {c : Char} {part : List Char} {parts : List (List Char)} (hseparator : ¬separator <+: c :: cs)
    (h : Splits separator cs (part :: parts)) : Splits separator (c :: cs) ((c :: part) :: parts) := by
  cases h with
  | last hpart => exact .last fun hmem => (List.infix_cons_iff.mp hmem).elim hseparator hpart
  | @more _ rest _ hfirst hrest =>
    refine @Splits.more separator (c :: part) _ _ (fun front back heq => ?_) hrest
    cases front with
    | nil => exact absurd ⟨back, by simpa using heq.symm⟩ hseparator
    | cons d front =>
      simp only [List.cons_append, List.cons.injEq] at heq
      exact Nat.succ_le_succ (hfirst front back heq.2)

/-- Splitting a text gives its parts. -/
theorem splits_splitOnChars (hne : separator ≠ []) (skip : Nat) (cs : List Char) :
    Splits separator (cs.drop skip) (splitOnChars separator skip cs) := by
  -- `skip` counts what has not been passed yet of a separator that has been found
  have hlength : separator.length - 1 + 1 = separator.length := Nat.sub_add_cancel (List.length_pos_iff.mpr hne)
  fun_induction splitOnChars separator skip cs with
  | case1 skip =>
    rw [List.drop_nil]
    exact .last fun h => hne (List.infix_nil.mp h)
  | case2 skip c rest ih => exact ih
  | case3 c rest after hstart ih =>
    have hdrop : rest.drop (separator.length - 1) = after := by
      rw [← List.drop_succ_cons (a := c), hlength, eq_of_dropStart? hstart, List.drop_left]
    rw [List.drop_zero, eq_of_dropStart? hstart]
    rw [hdrop] at ih
    exact @Splits.more separator [] _ _ (fun _ _ _ => Nat.zero_le _) ih
  | case4 c rest hstart hnil ih => exact absurd hnil ih.ne_nil
  | case5 c rest hstart first others hsplit ih =>
    rw [hsplit] at ih
    refine .cons (fun h => ?_) ih
    rw [← dropStart?_isSome_iff, hstart] at h
    cases h

/-! ### Single characters -/

/-- A text is split at a character into the pieces before it and the pieces behind it. -/
theorem splitWhere_append {p : Char → Bool} {c : Char} (hc : p c) (cs rest : List Char) :
    splitWhere p (cs ++ c :: rest) = splitWhere p cs ++ splitWhere p rest := by
  induction cs with
  | nil => simp [splitWhere, hc]
  | cons d cs ih =>
    obtain ⟨first, others, hsplit⟩ := List.exists_cons_of_ne_nil (splitWhere_ne_nil p cs)
    rw [List.cons_append, splitWhere, splitWhere, ih, hsplit]
    split <;> rfl

theorem splitWhere_of_all_not {p : Char → Bool} (h : ∀ c ∈ cs, p c = false) : splitWhere p cs = [cs] := by
  induction cs with
  | nil => rfl
  | cons c cs ih =>
    rw [List.forall_mem_cons] at h
    rw [splitWhere, ih h.2, h.1]
    rfl

/-- No piece holds a character at which the text is split. -/
theorem not_of_mem_splitWhere {p : Char → Bool} {part : List Char} {c : Char} (h : part ∈ splitWhere p cs)
    (hc : c ∈ part) : p c = false := by
  induction cs generalizing part with
  | nil => simp_all [splitWhere]
  | cons d cs ih =>
    obtain ⟨first, others, hsplit⟩ := List.exists_cons_of_ne_nil (splitWhere_ne_nil p cs)
    rw [splitWhere, hsplit] at h
    rw [hsplit] at ih
    split_ifs at h with hd
    · rcases List.mem_cons.mp h with rfl | h
      · cases hc
      · exact ih h hc
    · rcases List.mem_cons.mp h with rfl | h
      · rcases List.mem_cons.mp hc with rfl | hc
        · exact Bool.eq_false_iff.mpr hd
        · exact ih List.mem_cons_self hc
      · exact ih (List.mem_cons_of_mem _ h) hc

end ProposalCheck
