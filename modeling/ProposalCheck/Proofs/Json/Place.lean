import Mathlib.Order.Monotone.Basic
import ProposalCheck.Json.Locator
import ProposalCheck.Proofs.Yaml.Quoted

/-!
# Places in a JSON text

YAML tells places by lines and columns. A byte order mark takes no column there, so that a place behind
one is taken for an earlier character of its line. Lines are the same where a carriage return stands
only in front of a line feed.

## Main definitions

* `hasPairedReturns`: is every carriage return followed by a line feed?
* `Locator.placeAt`: the line and the column of a position
* `lineBefore`: the characters in front of a position on its line
* `shownAt`: the position at which a position is found by its line and column

## Main results

* `offset?_placeAt`: where a position is found
* `shownAt_mono`: positions are found in their order
* `shownAt_of_no_mark`: without byte order marks a position is found where it is
-/

namespace ProposalCheck

/-- Is every carriage return followed by a line feed? -/
def hasPairedReturns : List Char → Bool
  | [] => true
  | c :: rest => (c ≠ '\r' || rest.head? = some '\n') && hasPairedReturns rest

theorem hasPairedReturns_of_not_mem {cs : List Char} (h : '\r' ∉ cs) : hasPairedReturns cs := by
  induction cs with
  | nil => rfl
  | cons c cs ih =>
    simp only [List.mem_cons, not_or] at h
    simp [hasPairedReturns, Ne.symm h.1, ih h.2]

theorem hasPairedReturns_drop {cs : List Char} (h : hasPairedReturns cs) (n : Nat) :
    hasPairedReturns (cs.drop n) := by
  induction n generalizing cs with
  | zero => exact h
  | succ n ih =>
    cases cs with
    | nil => rfl
    | cons c cs =>
      simp only [hasPairedReturns, Bool.and_eq_true] at h
      exact ih h.2

/-- The place of a position behind a cursor. -/
def Locator.placeAt (start : Yaml.Cursor) (k : Nat) : PartPlace :=
  ⟨(start.skip k).place.line, (start.skip k).place.column⟩

section lines

variable {cs : List Char} {k : Nat}

/-- The characters in front of a position on its line, the nearest first. -/
def lineBefore (cs : List Char) (k : Nat) : List Char := (cs.take k).reverse.takeWhile (· ≠ '\n')

theorem lineBefore_succ (hk : k < cs.length) :
    lineBefore cs (k + 1) = if cs[k] = '\n' then [] else cs[k] :: lineBefore cs k := by
  rw [lineBefore, lineBefore, List.take_succ_eq_append_getElem hk, List.reverse_append,
    List.reverse_singleton, List.singleton_append, List.takeWhile_cons]
  split_ifs <;> simp_all

theorem length_lineBefore_le (cs : List Char) (k : Nat) : (lineBefore cs k).length ≤ k := by
  have := (List.takeWhile_sublist (l := (cs.take k).reverse) (· ≠ '\n')).length_le
  simp only [List.length_reverse, List.length_take] at this
  exact this.trans (Nat.min_le_left _ _)

/-- The position at which a position is found by its line and column. -/
def shownAt (cs : List Char) (k : Nat) : Nat := k - (lineBefore cs k).count '\ufeff'

theorem shownAt_le (cs : List Char) (k : Nat) : shownAt cs k ≤ k := Nat.sub_le _ _

theorem shownAt_of_no_mark (h : '\ufeff' ∉ cs) : shownAt cs k = k := by
  have hline : '\ufeff' ∉ lineBefore cs k := fun hmem =>
    h (List.mem_of_mem_take (List.mem_reverse.mp ((List.takeWhile_sublist _).subset hmem)))
  rw [shownAt, List.count_eq_zero_of_not_mem hline, Nat.sub_zero]

theorem shownAt_le_succ (hk : k < cs.length) : shownAt cs k ≤ shownAt cs (k + 1) := by
  have hcount := List.count_le_length (a := '\ufeff') (l := lineBefore cs k)
  have := length_lineBefore_le cs k
  rw [shownAt, shownAt, lineBefore_succ hk]
  split_ifs
  · simp
    omega
  · rw [List.count_cons]
    split_ifs <;> omega

theorem shownAt_mono {k' : Nat} (h : k ≤ k') (hk' : k' ≤ cs.length) : shownAt cs k ≤ shownAt cs k' := by
  induction k', h using Nat.le_induction with
  | base => exact Nat.le_refl _
  | succ k' _ ih => exact (ih (by omega)).trans (shownAt_le_succ (by omega))

/-- No line ends among the characters in front of a position on its line. -/
theorem ne_newline_of_lineBefore {j : Nat} (hk : k ≤ cs.length) (hj : k - (lineBefore cs k).length ≤ j)
    (hjk : j < k) : cs[j]? ≠ some '\n' := by
  induction k with
  | zero => omega
  | succ k ih =>
    rw [lineBefore_succ hk] at hj
    split_ifs at hj with hc
    · simp at hj
      omega
    · rw [List.length_cons, Nat.add_sub_add_right] at hj
      rcases Nat.lt_succ_iff_lt_or_eq.mp hjk with hlt | rfl
      · exact ih (by omega) hj hlt
      · simpa [List.getElem?_eq_getElem hk] using hc

/-- A position within a line is found on that line. -/
theorem getElem?_shownAt_ne (hk : k < cs.length) (hc : cs[k]? ≠ some '\n') :
    cs[shownAt cs k]? ≠ some '\n' := by
  rcases Nat.lt_or_eq_of_le (shownAt_le cs k) with hlt | heq
  · have hcount := List.count_le_length (a := '\ufeff') (l := lineBefore cs k)
    exact ne_newline_of_lineBefore (Nat.le_of_lt hk) (by rw [shownAt]; omega) hlt
  · rwa [heq]

/-- The place of a position in a text. -/
theorem placeAt_eq (hpaired : hasPairedReturns cs) (hk : k ≤ cs.length) :
    ((⟨cs, {}⟩ : Yaml.Cursor).skip k).place =
      ⟨k, (cs.take k).count '\n', (lineBefore cs k).length - (lineBefore cs k).count '\ufeff'⟩ := by
  induction k with
  | zero => simp [Yaml.Cursor.skip, lineBefore]
  | succ k ih =>
    have hlt : k < cs.length := hk
    have hrest : ((⟨cs, {}⟩ : Yaml.Cursor).skip k).rest = cs[k] :: cs.drop (k + 1) := by
      rw [Yaml.Cursor.rest_skip, List.drop_eq_getElem_cons hlt]
    -- no carriage return stands alone, so only line feeds end lines
    have hreturn : cs[k] = '\r' → (cs.drop (k + 1)).head? = some '\n' := by
      intro hc
      have := hasPairedReturns_drop hpaired k
      rw [List.drop_eq_getElem_cons hlt] at this
      simp only [hasPairedReturns, hc, Bool.and_eq_true] at this
      simpa using this.1
    have hcount := List.count_le_length (a := '\ufeff') (l := lineBefore cs k)
    have hplace : ((⟨cs, {}⟩ : Yaml.Cursor).skip (k + 1)).place =
        ((⟨cs, {}⟩ : Yaml.Cursor).skip k).place.after cs[k] (cs.drop (k + 1)).head? := by
      rw [Yaml.Cursor.skip_add, ← Yaml.Cursor.next_eq_skip, Yaml.Cursor.next, hrest]
    rw [hplace, ih (Nat.le_of_lt hlt), lineBefore_succ hlt, List.take_succ_eq_append_getElem hlt,
      List.count_append, Yaml.Place.after]
    by_cases hline : cs[k] = '\n'
    · simp [hline]
    have hlone : ¬(cs[k] = '\r' ∧ (cs.drop (k + 1)).head? ≠ some '\n') := fun h => h.2 (hreturn h.1)
    by_cases hmark : cs[k] = '\ufeff'
    · simp [hmark]
    · have hcond : (decide (cs[k] = '\n') || (decide (cs[k] = '\r') &&
          decide ((cs.drop (k + 1)).head? ≠ some '\n'))) = false := by
        simpa [hline] using hreturn
      rw [hcond]
      simp [hline, hmark]
      omega

/-- After as many lines as end before a position, the line of the position starts. -/
theorem afterLines?_count (cs rest : List Char) :
    Locator.afterLines? (cs.count '\n') (cs ++ rest) =
      some ((cs.reverse.takeWhile (· ≠ '\n')).reverse ++ rest) := by
  induction cs with
  | nil => cases rest <;> rfl
  | cons c cs ih =>
    -- the first character is on the last line only if no line feed follows
    by_cases hmem : '\n' ∈ cs
    · have hline : (cs.reverse ++ [c]).takeWhile (· ≠ '\n') = cs.reverse.takeWhile (· ≠ '\n') := by
        rw [List.takeWhile_append, if_neg]
        intro hall
        have heq := (List.takeWhile_prefix (l := cs.reverse) (· ≠ '\n')).eq_of_length hall
        have hkept := List.all_eq_true.mp (List.all_takeWhile (p := (· ≠ '\n')) (l := cs.reverse))
        rw [heq] at hkept
        simpa using hkept '\n' (List.mem_reverse.mpr hmem)
      rw [List.reverse_cons, hline, ← ih]
      by_cases hc : c = '\n'
      · simp [hc, Locator.afterLines?]
      · obtain ⟨n, hn⟩ := Nat.exists_eq_succ_of_ne_zero (List.count_pos_iff.mpr hmem).ne'
        simp [hc, hn, Locator.afterLines?]
    · have hline : (cs.reverse ++ [c]).takeWhile (· ≠ '\n') = cs.reverse ++ [c].takeWhile (· ≠ '\n') := by
        refine List.takeWhile_append_of_pos fun d hd => ?_
        simpa using ne_of_mem_of_not_mem (List.mem_reverse.mp hd) hmem
      have hcount : cs.count '\n' = 0 := List.count_eq_zero_of_not_mem hmem
      rw [List.reverse_cons, hline]
      by_cases hc : c = '\n' <;> simp [hc, hcount, Locator.afterLines?]

/-- Where a position is found by its place. -/
theorem offset?_placeAt (hpaired : hasPairedReturns cs) (hk : k ≤ cs.length) :
    Locator.offset? cs (Locator.placeAt ⟨cs, {}⟩ k) = some (shownAt cs k) := by
  have hafter := afterLines?_count (cs.take k) (cs.drop k)
  rw [List.take_append_drop] at hafter
  have hline := length_lineBefore_le cs k
  have hcount := List.count_le_length (a := '\ufeff') (l := lineBefore cs k)
  rw [Locator.placeAt, placeAt_eq hpaired hk, Locator.offset?]
  dsimp only
  rw [hafter, Option.bind_some]
  change (if _ ≤ ((lineBefore cs k).reverse ++ cs.drop k).length then
    some (_ - ((lineBefore cs k).reverse ++ cs.drop k).length + _) else none) = _
  rw [List.length_append, List.length_reverse, List.length_drop, if_pos (by omega), shownAt]
  congr 1
  omega

end lines

end ProposalCheck
