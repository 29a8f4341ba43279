/-!
# Names of hosts in ASCII

Punycode writes a text with the characters below 128 only. These come first, as they are; then follow
the other characters in ascending order, each as the number of steps that an insertion takes from the
one before it. The numbers have a variable length in base 36, with thresholds that adapt to the size
of the numbers seen so far.

## Main definitions

* `Punycode.encode`: the ASCII form of a text
* `Punycode.decode?`: the text of an ASCII form
-/

namespace ProposalCheck.Punycode

/-- The threshold of the digit at `k` (36 for the first digit, 72 for the second, …). -/
def threshold (k bias : Nat) : Nat :=
  if k ≤ bias then 1 else if bias + 26 ≤ k then 26 else k - bias

theorem threshold_pos (k bias : Nat) : 0 < threshold k bias := by
  unfold threshold
  split
  · omega
  · split <;> omega

/-- The digit of a value: letters first, then numerals. -/
def digit (d : Nat) : Char :=
  if d < 26 then Char.ofNat ('a'.toNat + d) else Char.ofNat ('0'.toNat + d - 26)

/-- The value of a digit in either case. -/
def digitValue? (c : Char) : Option Nat :=
  if 'a' ≤ c ∧ c ≤ 'z' then some (c.toNat - 'a'.toNat)
  else if 'A' ≤ c ∧ c ≤ 'Z' then some (c.toNat - 'A'.toNat)
  else if '0' ≤ c ∧ c ≤ '9' then some (c.toNat - '0'.toNat + 26)
  else none

/-- Scales a number of steps down to the largest that two digits hold on average. -/
def scaleDown (delta divisions : Nat) : Nat :=
  if delta > 455 then scaleDown (delta / 35) (divisions + 36)
  else divisions + 36 * delta / (delta + 38)
termination_by delta
decreasing_by omega

/-- The bias after a number has been written, with `count` characters placed. -/
def adapt (delta count : Nat) (isFirst : Bool) : Nat :=
  let delta := if isFirst then delta / 700 else delta / 2
  scaleDown (delta + delta / count) 0

/-- The digits of a number. -/
def digits (q k bias : Nat) : List Char :=
  let t := threshold k bias
  if q < t then [digit q]
  else digit (t + (q - t) % (36 - t)) :: digits ((q - t) / (36 - t)) (k + 36) bias
termination_by q
decreasing_by
  have := threshold_pos k bias
  exact Nat.lt_of_le_of_lt (Nat.div_le_self _ _) (by omega)

/-- The state of the writer between two characters: the steps not yet written, the bias, the number
of characters placed and the digits written so far, in reverse. -/
structure Writer where
  delta : Nat
  bias : Nat
  placed : Nat
  output : List Char

/-- Goes past one character of the text while placing those equal to `n`. -/
def Writer.pass (basic n : Nat) (writer : Writer) (c : Char) : Writer :=
  if c.toNat < n then { writer with delta := writer.delta + 1 }
  else if c.toNat = n then
    { delta := 0
      bias := adapt writer.delta (writer.placed + 1) (writer.placed = basic)
      placed := writer.placed + 1
      output := (digits writer.delta 36 writer.bias).reverse ++ writer.output }
  else writer

/-- Places the characters of ascending codes `ns`, where all codes below `n` have been placed. -/
def Writer.placeAll (text : List Char) (basic : Nat) : Nat → List Nat → Writer → Writer
  | _, [], writer => writer
  | n, code :: codes, writer =>
    let writer := { writer with delta := writer.delta + (code - n) * (writer.placed + 1) }
    let writer := text.foldl (Writer.pass basic code) writer
    placeAll text basic (code + 1) codes { writer with delta := writer.delta + 1 }

/-- The ASCII form of a text. -/
def encode (text : List Char) : List Char :=
  let basic := text.filter (·.toNat < 128)
  let codes := ((text.filter (·.toNat ≥ 128)).map (·.toNat)).eraseDups.mergeSort
  let writer := Writer.placeAll text basic.length 128 codes ⟨0, 72, basic.length, []⟩
  (if basic.isEmpty then [] else basic ++ ['-']) ++ writer.output.reverse

/-- Reads a number: its value and what is left. -/
def number? (bias : Nat) : Nat → Nat → Nat → List Char → Option (Nat × List Char)
  | _, _, _, [] => none
  | k, weight, value, c :: rest =>
    match digitValue? c with
    | none => none
    | some d =>
      let t := threshold k bias
      let value := value + d * weight
      if d < t then some (value, rest) else number? bias (k + 36) (weight * (36 - t)) value rest

/-- Inserts the characters that the numbers in `rest` describe. `place` is one more than the place of
the last insertion. -/
def insertAll : Nat → Nat → Nat → Nat → Bool → List Char → List Char → Option (List Char)
  | 0, _, _, _, _, text, _ => some text
  | fuel + 1, code, place, bias, isFirst, text, rest =>
    if rest.isEmpty then some text
    else match number? bias 36 1 0 rest with
      | none => none
      | some (delta, rest) =>
        let place := place + delta
        let code := code + place / (text.length + 1)
        if code > 0x10FFFF then none
        else
          let place := place % (text.length + 1)
          let text := text.take place ++ Char.ofNat code :: text.drop place
          insertAll fuel code (place + 1) (adapt delta text.length isFirst) false text rest

/-- The text of an ASCII form. -/
def decode? (form : List Char) : Option (List Char) :=
  if form.any (·.toNat ≥ 128) then none
  else
    let tail := (form.reverse.takeWhile (· ≠ '-')).reverse
    let basic := if form.contains '-' then form.take (form.length - tail.length - 1) else []
    insertAll (tail.length + 1) 128 0 72 true basic tail

end ProposalCheck.Punycode
