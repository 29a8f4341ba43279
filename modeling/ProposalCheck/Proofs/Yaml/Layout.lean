import ProposalCheck.Proofs.Json.Form
import ProposalCheck.Proofs.Yaml.Quoted
import ProposalCheck.Yaml.Token

/-!
# JSON texts cut into YAML tokens

A form is cut into the tokens that its brackets, commas, colons and scalars call for, each at its place.
Only the mark in front of a name may be missing: a name that is too long or does not stand on the line
of its colon is no key.

## Main definitions

* `Reaches`: from a state of the scanner some tokens come out in the end
* `EmitsName`: the tokens of a name

## Main results

* `exists_step_of_run`: blanks are passed, then one token is added
* `Reaches.string`, `Reaches.bare`: a string or a bare value is passed, and its token is added
* `Reaches.name`: a name and its colon are passed, and the mark in front of them may be missing
-/

namespace ProposalCheck.Yaml

open Json (Form Items Members Glyph isSpace)

/-! ### Blanks -/

/-- No blank, line end or comment starts with the character. -/
def isDark (c : Char) : Bool := !isSpace c && !isBreak c && c ≠ '#'

/-- A text starts with no blank, line end or comment. -/
def IsDark (rest : List Char) : Prop := ∀ c ∈ rest.head?, isDark c

theorem isDark_nil : IsDark [] := by simp [IsDark]

theorem isDark_cons {c : Char} {rest : List Char} (h : isDark c) : IsDark (c :: rest) := by
  simpa [IsDark]

section blanks

variable {gap rest : List Char}

/-- Blanks of one kind in front of what is dark are blanks of the gap. -/
theorem takeWhile_gap {p : Char → Bool} (hp : ∀ c, isDark c → p c = false) (hdark : IsDark rest) :
    (gap ++ rest).takeWhile p = gap.takeWhile p := by
  induction gap with
  | nil =>
    cases rest with
    | nil => rfl
    | cons c rest => simp [hp c (hdark c rfl)]
  | cons c gap ih =>
    by_cases hc : p c <;> simp [hc, ih]

/-- What is left of a gap. -/
theorem rest_skip_gap {cursor : Cursor} {n : Nat} (hn : n ≤ gap.length)
    (hrest : cursor.rest = gap ++ rest) : (cursor.skip n).rest = gap.drop n ++ rest := by
  rw [Cursor.rest_skip, hrest, List.drop_append_of_le_length hn]

theorem all_isSpace_drop (hgap : gap.all isSpace) (n : Nat) : (gap.drop n).all isSpace :=
  List.all_eq_true.mpr fun c hc => List.all_eq_true.mp hgap c (List.mem_of_mem_drop hc)

/-- Blanks of one kind in front of a cursor within blanks are the first ones of the gap, as many as there
are of that kind. -/
theorem exists_takeWhile_gap {p : Char → Bool} (hp : ∀ c, isDark c → p c = false) (hdark : IsDark rest)
    {cursor : Cursor} (hrest : cursor.rest = gap ++ rest) :
    ∃ n ≤ gap.length, (cursor.takeWhile p).length = n ∧ ∀ c ∈ (gap.drop n).head?, p c = false := by
  refine ⟨(gap.takeWhile p).length, (List.takeWhile_prefix p).length_le, ?_, fun c hc => ?_⟩
  · rw [Cursor.takeWhile, hrest, takeWhile_gap hp hdark]
  · have hleft : gap.drop (gap.takeWhile p).length = gap.dropWhile p := by
      have hsplit := List.takeWhile_append_dropWhile (p := p) (l := gap)
      have hdrop := congrArg (List.drop (gap.takeWhile p).length) hsplit
      rwa [List.drop_left, eq_comm] at hdrop
    have hnot := List.head?_dropWhile_not p gap
    rw [← hleft, Option.mem_def.mp hc] at hnot
    simpa using hnot

theorem not_isSpaceOrTab_of_isDark {c : Char} (h : isDark c) : isSpaceOrTab c = false := by
  simp only [isDark, isSpace, Bool.and_eq_true, Bool.not_eq_true', Bool.or_eq_false_iff] at h
  simp_all [isSpaceOrTab]

theorem ne_space_of_isDark {c : Char} (h : isDark c) : decide (c = ' ') = false := by
  have := not_isSpaceOrTab_of_isDark h
  simp_all [isSpaceOrTab]

theorem not_isBreak_of_isDark {c : Char} (h : isDark c) : isBreak c = false := by
  simp_all [isDark]

/-- No line ends in front of what is dark. -/
theorem lineBreak?_of_isDark (hdark : IsDark rest) {cursor : Cursor} (hrest : cursor.rest = rest) :
    cursor.lineBreak? = none := by
  cases rest with
  | nil => simp [Cursor.lineBreak?, hrest]
  | cons c rest =>
    have hbreak := not_isBreak_of_isDark (hdark c rfl)
    have hreturn : c ≠ '\r' := by
      rintro rfl
      simp [isBreak, isLineEnd] at hbreak
    rw [Cursor.lineBreak?_cons hreturn hrest, hbreak]
    rfl

/-- A line end in front of a cursor within blanks is one of the blanks, or two. -/
theorem lineBreak?_gap (hgap : gap.all isSpace) (hdark : IsDark rest) {cursor : Cursor}
    (hrest : cursor.rest = gap ++ rest) :
    (cursor.lineBreak? = none ∧ ∀ c ∈ gap.head?, isSpaceOrTab c) ∨
      ∃ n, 0 < n ∧ n ≤ gap.length ∧ cursor.lineBreak? = some ('\n', cursor.skip n) := by
  cases gap with
  | nil => exact .inl ⟨lineBreak?_of_isDark hdark hrest, by simp⟩
  | cons c gap =>
    have hc : isSpace c := List.all_eq_true.mp hgap c List.mem_cons_self
    simp only [isSpace, Bool.or_eq_true, decide_eq_true_eq] at hc
    rcases hc with ((rfl | rfl) | rfl) | rfl
    · exact .inl ⟨Cursor.lineBreak?_cons (by decide) hrest, by simp [isSpaceOrTab]⟩
    · exact .inl ⟨Cursor.lineBreak?_cons (by decide) hrest, by simp [isSpaceOrTab]⟩
    · exact .inr ⟨1, Nat.one_pos, by simp, Cursor.lineBreak?_cons (by decide) hrest⟩
    · refine .inr ⟨_, by split <;> simp, ?_, Cursor.lineBreak?_return hrest⟩
      -- a line feed behind the carriage return is a blank as well
      split
      · rename_i hfeed
        cases gap with
        | nil =>
          have := hdark '\n' hfeed
          simp [isDark, isSpace] at this
        | cons => simp
      · simp

theorem peek_gap_ne (hgap : gap.all isSpace) (hdark : IsDark rest) {cursor : Cursor}
    (hrest : cursor.rest = gap ++ rest) : cursor.peek ≠ '#' := by
  intro hpeek
  rw [Cursor.peek, hrest] at hpeek
  cases gap with
  | nil =>
    cases rest with
    | nil => simp [endMark] at hpeek
    | cons c rest =>
      obtain rfl : c = '#' := hpeek
      simpa [isDark] using hdark '#' rfl
  | cons c gap =>
    obtain rfl : c = '#' := hpeek
    simp [isSpace] at hgap

/-- Does the scanner pass a character as a blank of its line? -/
def Layout.isBlank (layout : Layout) (c : Char) : Bool := c = ' ' || (c = '\t' && layout.inFlow)

theorem Layout.not_isBlank_of_isDark (layout : Layout) {c : Char} (h : isDark c) :
    layout.isBlank c = false := by
  have := not_isSpaceOrTab_of_isDark h
  simp_all [isSpaceOrTab, isBlank]

/-- Where the scanner goes on behind the end of a line: if the next line is empty, behind all blanks. -/
def Cursor.passEmpty (cursor : Cursor) : Cursor :=
  if cursor.peek = '\n' then cursor.skipWhile fun c => isSpaceOrTab c || isBreak c else cursor

theorem exists_passEmpty (hdark : IsDark rest) {cursor : Cursor} (hrest : cursor.rest = gap ++ rest) :
    ∃ n ≤ gap.length, cursor.passEmpty = cursor.skip n := by
  rw [Cursor.passEmpty]
  split
  · obtain ⟨n, hn, hblanks, -⟩ := exists_takeWhile_gap (p := fun c => isSpaceOrTab c || isBreak c)
      (fun c hc => by simp [not_isSpaceOrTab_of_isDark hc, not_isBreak_of_isDark hc]) hdark hrest
    exact ⟨n, hn, by rw [Cursor.skipWhile, hblanks]⟩
  · exact ⟨0, Nat.zero_le _, rfl⟩

/-- The blanks of a line are passed, and if it ends there, the scanner goes on with the next one. -/
theorem Layout.skipBlanks_succ {layout : Layout} {cursor : Cursor}
    (hskip : layout.cursor.skipWhile layout.isBlank = cursor) (hcomment : cursor.peek ≠ '#') (fuel : Nat) :
    Layout.skipBlanks (fuel + 1) layout =
      cursor.lineBreak?.elim { layout with cursor } fun found => Layout.skipBlanks fuel
        { layout with
          cursor := found.2.passEmpty
          allowsKey := layout.allowsKey || !layout.inFlow } := by
  have hskip' : layout.cursor.skipWhile (fun c => c = ' ' || (c = '\t' && layout.inFlow)) = cursor :=
    hskip
  simp only [Layout.skipBlanks, hskip', hcomment, decide_false, Bool.not_false, Bool.true_and,
    decide_eq_true_eq, if_false, Cursor.passEmpty]
  cases cursor.lineBreak? <;> rfl

/-- Where no line ends behind the blanks of a line, none are left but a tab outside of brackets. -/
theorem eq_nil_or_tab {layout : Layout} (hblank : ∀ c ∈ gap.head?, layout.isBlank c = false)
    (hspace : ∀ c ∈ gap.head?, isSpaceOrTab c) :
    gap = [] ∨ gap.head? = some '\t' ∧ layout.inFlow = false := by
  cases gap with
  | nil => exact .inl rfl
  | cons c gap =>
    have hnot := hblank c rfl
    have hc := hspace c rfl
    simp only [isSpaceOrTab, Bool.or_eq_true, decide_eq_true_eq] at hc
    rcases hc with rfl | rfl
    · simp [Layout.isBlank] at hnot
    · exact .inr ⟨rfl, by simpa [Layout.isBlank] using hnot⟩

/-- Blanks are passed. Outside of brackets the scanner may stop at a tab. -/
theorem exists_skipBlanks (hdark : IsDark rest) {fuel : Nat} {layout : Layout} {gap : List Char}
    (hgap : gap.all isSpace) (hrest : layout.cursor.rest = gap ++ rest) (hfuel : gap.length < fuel) :
    ∃ n allowsKey, Layout.skipBlanks fuel layout =
        { layout with cursor := layout.cursor.skip n, allowsKey } ∧
      (layout.inFlow → n = gap.length ∧ allowsKey = layout.allowsKey) ∧
      (n = gap.length ∨ n < gap.length ∧ (gap.drop n).head? = some '\t') := by
  induction fuel generalizing layout gap with
  | zero => omega
  | succ fuel ih =>
    obtain ⟨n, hn, hblanks, hblank⟩ :=
      exists_takeWhile_gap (fun c => layout.not_isBlank_of_isDark) hdark hrest
    have hgapN := all_isSpace_drop hgap n
    have hrestN := rest_skip_gap hn hrest
    rw [Layout.skipBlanks_succ (by rw [Cursor.skipWhile, hblanks]) (peek_gap_ne hgapN hdark hrestN)]
    rcases lineBreak?_gap hgapN hdark hrestN with ⟨hnone, hspace⟩ | ⟨m, hpos, hm, hsome⟩
    · rw [hnone]
      -- no line ends here, so the blanks end with the gap, or a tab that is no blank comes next
      refine ⟨n, layout.allowsKey, rfl, fun hflow => ⟨?_, rfl⟩, ?_⟩ <;>
        rcases eq_nil_or_tab hblank hspace with hnil | ⟨htab, hout⟩
      · exact Nat.le_antisymm hn (List.drop_eq_nil_iff.mp hnil)
      · simp [hflow] at hout
      · exact .inl (Nat.le_antisymm hn (List.drop_eq_nil_iff.mp hnil))
      · refine .inr ⟨Nat.lt_of_le_of_ne hn ?_, htab⟩
        rintro rfl
        simp at htab
    · -- a line ends, and the induction hypothesis covers what is left after it
      obtain ⟨k, hk, hpassed⟩ := exists_passEmpty hdark (rest_skip_gap hm hrestN)
      obtain ⟨l, allowsKey, hread, hflow, hend⟩ := @ih
        { layout with
          cursor := ((layout.cursor.skip n).skip m).skip k
          allowsKey := layout.allowsKey || !layout.inFlow }
        (((gap.drop n).drop m).drop k) (all_isSpace_drop (all_isSpace_drop hgapN m) k)
        (rest_skip_gap hk (rest_skip_gap hm hrestN)) (by simp only [List.length_drop] at *; omega)
      simp only [List.length_drop, List.drop_drop] at hm hk hflow hend
      refine ⟨n + m + k + l, allowsKey, ?_, fun hin => ?_, ?_⟩
      · rw [hsome, Option.elim_some, hpassed, hread, Cursor.skip_add _ l, Cursor.skip_add _ k,
          Cursor.skip_add n m]
      · obtain ⟨rfl, rfl⟩ := hflow hin
        exact ⟨by omega, by simp [hin]⟩
      · rcases hend with rfl | ⟨hlt, htab⟩
        · exact .inl (by omega)
        · exact .inr ⟨by omega, htab⟩

end blanks

/-! ### Steps of the scanner -/

namespace Layout

/-- A state of the scanner in which no block is open. -/
abbrev flat (cursor : Cursor) (tokens : List Token) (brackets : List Bracket) (allowsKey : Bool)
    (keys : List PossibleKey) : Layout :=
  { cursor, tokens := tokens.toArray, brackets, allowsKey, keys }

variable {cursor : Cursor} {tokens : List Token} {brackets : List Bracket} {allowsKey : Bool}
  {keys : List PossibleKey} {layout next : Layout} {out : Array Token} {fuel : Nat}

theorem dropKey_eq (h : layout.dropKey = .ok next) :
    next = { layout with keys := layout.keys.filter (·.depth ≠ layout.depth) } := by
  unfold dropKey at h
  split at h
  · split_ifs at h
    exact (Except.ok.inj h).symm
  · rename_i hnone
    obtain rfl := Except.ok.inj h
    rw [List.filter_eq_self.mpr]
    simpa using hnone

theorem dropStaleKeys_eq (h : layout.dropStaleKeys = .ok next) :
    ∃ keep, next = { layout with keys := layout.keys.filter keep } := by
  unfold dropStaleKeys at h
  dsimp only at h
  split_ifs at h
  exact ⟨_, (Except.ok.inj h).symm⟩

/-- A key is noted at the cursor, and the only one among the current brackets. -/
theorem noteKey_eq (h : layout.noteKey = .ok next) :
    ∃ keys, next = { layout with keys } ∧ (layout.allowsKey → ∃ required others,
      keys = ⟨layout.depth, layout.tokens.size, layout.cursor.place, required⟩ :: others ∧
      ∀ key ∈ others, key.depth ≠ layout.depth) := by
  unfold noteKey at h
  dsimp only at h
  by_cases hallows : layout.allowsKey
  · simp only [hallows, Bool.not_true, Bool.false_eq_true, if_false] at h
    obtain ⟨dropped, hdrop, hnote⟩ := exists_of_bind_eq_ok h
    obtain rfl := dropKey_eq hdrop
    obtain rfl := Except.ok.inj hnote
    exact ⟨_, rfl, fun _ => ⟨_, _, rfl, by simp⟩⟩
  · simp only [hallows, Bool.not_false, if_true] at h
    obtain rfl := Except.ok.inj h
    exact ⟨layout.keys, rfl, fun hyes => absurd hyes hallows⟩

theorem closeTo_flat (column : Int) :
    (flat cursor tokens brackets allowsKey keys).closeTo column =
      flat cursor tokens brackets allowsKey keys := by
  unfold closeTo
  split <;> rfl

theorem step_tab {rest : List Char} (hrest : cursor.rest = '\t' :: rest) :
    (flat cursor tokens [] allowsKey keys).step = .error (.unexpected '\t') := by
  have hpeek : cursor.peek = '\t' := by simp [Cursor.peek, hrest]
  have hmark : cursor.isAtMark "---" = false ∧ cursor.isAtMark "..." = false := by
    simp [Cursor.isAtMark, hrest]
  have hplain : (flat cursor tokens [] allowsKey keys).isPlain = false := by
    simp [isPlain, hpeek, isEdge, isSpaceOrTab, inFlow]
  unfold step
  simp only [hpeek]
  simp [hmark, hplain]
  rfl

/-- Blanks are passed before the next token, or before the end of the text. -/
theorem run_flat {gap rest : List Char} (hgap : gap.all isSpace) (hdark : IsDark rest)
    (hrest : cursor.rest = gap ++ rest)
    (h : run fuel (flat cursor tokens brackets allowsKey keys) = .ok out) :
    ∃ fuel' allowsKey' keep, (brackets ≠ [] → allowsKey' = allowsKey) ∧
      (if rest.isEmpty then do
        let last ←
          (flat (cursor.skip gap.length) tokens brackets allowsKey' (keys.filter keep)).dropKey
        return (last.pushEmpty .streamEnd).tokens
      else do
        run fuel' (← (flat (cursor.skip gap.length) tokens brackets allowsKey' (keys.filter keep)).step))
        = .ok out := by
  cases fuel with
  | zero => simp [run] at h
  | succ fuel =>
    have hstart : (flat cursor tokens brackets allowsKey keys).cursor.rest = gap ++ rest := hrest
    have hfuel : gap.length < cursor.rest.length + 1 := by
      simp only [hrest, List.length_append]
      omega
    obtain ⟨n, allowsKey', hread, hflow, hend⟩ := exists_skipBlanks hdark hgap hstart hfuel
    unfold run at h
    simp only [hread] at h
    obtain ⟨fresh, hstale, hrun⟩ := exists_of_bind_eq_ok h
    obtain ⟨keep, rfl⟩ := dropStaleKeys_eq hstale
    simp only [closeTo_flat] at hrun
    rcases hend with rfl | ⟨hlt, htab⟩
    · refine ⟨fuel, allowsKey', keep, fun hne => (hflow ?_).2, ?_⟩
      · cases brackets with
        | nil => exact absurd rfl hne
        | cons => rfl
      · rwa [Cursor.rest_skip, hrest, List.drop_left] at hrun
    · -- a tab outside of brackets starts nothing
      cases brackets with
      | cons => exact absurd (hflow rfl).1 (by omega)
      | nil =>
        obtain ⟨left, hleft⟩ := List.head?_eq_some_iff.mp htab
        have hmore : (cursor.skip n).rest = '\t' :: (left ++ rest) := by
          rw [rest_skip_gap (Nat.le_of_lt hlt) hrest, hleft, List.cons_append]
        rw [hmore] at hrun
        obtain ⟨next, hstep, -⟩ := exists_of_bind_eq_ok hrun
        rw [step_tab hmore] at hstep
        simp at hstep

/-- Blanks are passed, then one token is added. -/
theorem exists_step_of_run {gap rest : List Char} {c : Char} (hgap : gap.all isSpace) (hc : isDark c)
    (hrest : cursor.rest = gap ++ c :: rest)
    (h : run fuel (flat cursor tokens brackets allowsKey keys) = .ok out) :
    ∃ fuel' allowsKey' keep next, (brackets ≠ [] → allowsKey' = allowsKey) ∧
      (flat (cursor.skip gap.length) tokens brackets allowsKey' (keys.filter keep)).step = .ok next ∧
      run fuel' next = .ok out := by
  obtain ⟨fuel', allowsKey', keep, hallows, hrun⟩ := run_flat hgap (isDark_cons hc) hrest h
  obtain ⟨next, hstep, hnext⟩ := exists_of_bind_eq_ok hrun
  exact ⟨fuel', allowsKey', keep, next, hallows, hstep, hnext⟩

end Layout

/-- From a state in front of a place of the text, the scanner comes to some tokens in the end. -/
def Reaches (start : Cursor) (out : Array Token) (place : Nat) (tokens : List Token)
    (brackets : List Bracket) (allowsKey : Bool) : Prop :=
  ∃ fuel keys, Layout.run fuel (.flat (start.skip place) tokens brackets allowsKey keys) = .ok out

section reaches

variable {start : Cursor} {out : Array Token} {k : Nat} {tokens : List Token} {brackets : List Bracket}
  {allowsKey : Bool} {lead rest : List Char}

/-- A token that is added at a place of the text. -/
def tokenAt (start : Cursor) (kind : TokenKind) (k : Nat) (stop : Place) : Token :=
  ⟨kind, (start.skip k).place, stop⟩

/-- Blanks are passed, then one token is added. -/
theorem Reaches.exists_step (h : Reaches start out k tokens brackets allowsKey) {c : Char}
    (hlead : lead.all isSpace) (hc : isDark c) (hrest : start.rest.drop k = lead ++ c :: rest) :
    ∃ fuel allowsKey' keys next, (brackets ≠ [] → allowsKey' = allowsKey) ∧
      (start.skip (k + lead.length)).rest = c :: rest ∧
      (Layout.flat (start.skip (k + lead.length)) tokens brackets allowsKey' keys).step = .ok next ∧
      Layout.run fuel next = .ok out := by
  obtain ⟨fuel, keys, hrun⟩ := h
  obtain ⟨fuel', allowsKey', keep, next, hallows, hstep, hnext⟩ :=
    Layout.exists_step_of_run hlead hc (by rw [Cursor.rest_skip, hrest]) hrun
  rw [← Cursor.skip_add] at hstep
  refine ⟨fuel', allowsKey', _, next, hallows, ?_, hstep, hnext⟩
  rw [Cursor.rest_skip, ← List.drop_drop, hrest, List.drop_left]

theorem Layout.openBracket_eq {cursor : Cursor} {keys : List PossibleKey} {bracket : Bracket}
    {kind : TokenKind} {next : Layout}
    (h : (Layout.flat cursor tokens brackets allowsKey keys).openBracket bracket kind = .ok next) :
    ∃ keys, next = .flat cursor.next (tokens ++ [⟨kind, cursor.place, cursor.next.place⟩])
      (bracket :: brackets) true keys := by
  obtain ⟨noted, hnote, hopen⟩ := exists_of_bind_eq_ok h
  obtain ⟨keys, rfl, -⟩ := Layout.noteKey_eq hnote
  obtain rfl := Except.ok.inj hopen
  exact ⟨keys, by simp [Layout.flat, Layout.push]⟩

theorem Layout.closeBracket_eq {cursor : Cursor} {keys : List PossibleKey} {bracket : Bracket}
    {kind : TokenKind} {next : Layout}
    (h : (Layout.flat cursor tokens (bracket :: brackets) allowsKey keys).closeBracket kind = .ok next) :
    ∃ keys, next = .flat cursor.next (tokens ++ [⟨kind, cursor.place, cursor.next.place⟩]) brackets false
      keys := by
  obtain ⟨noted, hdrop, hclose⟩ := exists_of_bind_eq_ok h
  obtain rfl := Layout.dropKey_eq hdrop
  obtain rfl := Except.ok.inj hclose
  exact ⟨_, by simp [Layout.flat, Layout.push]; rfl⟩

theorem Cursor.peek_of_rest {cursor : Cursor} {c : Char} (h : cursor.rest = c :: rest) :
    cursor.peek = c := by
  rw [Cursor.peek, h]
  rfl

/-- An opening bracket. -/
theorem Reaches.openBracket {c : Char} {bracket : Bracket} {kind : TokenKind} (hc : isDark c)
    (hkind : ∀ layout : Layout, layout.cursor.peek = c → layout.step = layout.openBracket bracket kind)
    (h : Reaches start out k tokens brackets allowsKey) (hlead : lead.all isSpace)
    (hrest : start.rest.drop k = lead ++ c :: rest) :
    ∃ stop, Reaches start out (k + lead.length + 1)
      (tokens ++ [tokenAt start kind (k + lead.length) stop]) (bracket :: brackets) true := by
  obtain ⟨fuel, allowsKey', keys, next, -, hcursor, hstep, hnext⟩ := h.exists_step hlead hc hrest
  rw [hkind _ (Cursor.peek_of_rest hcursor)] at hstep
  obtain ⟨keys', rfl⟩ := Layout.openBracket_eq hstep
  exact ⟨_, fuel, keys', by rwa [Cursor.next_eq_skip, ← Cursor.skip_add] at hnext⟩

/-- A closing bracket. -/
theorem Reaches.closeBracket {c : Char} {bracket : Bracket} {kind : TokenKind} (hc : isDark c)
    (hkind : ∀ layout : Layout, layout.cursor.peek = c → layout.step = layout.closeBracket kind)
    (h : Reaches start out k tokens (bracket :: brackets) allowsKey) (hlead : lead.all isSpace)
    (hrest : start.rest.drop k = lead ++ c :: rest) :
    ∃ stop, Reaches start out (k + lead.length + 1)
      (tokens ++ [tokenAt start kind (k + lead.length) stop]) brackets false := by
  obtain ⟨fuel, allowsKey', keys, next, -, hcursor, hstep, hnext⟩ := h.exists_step hlead hc hrest
  rw [hkind _ (Cursor.peek_of_rest hcursor)] at hstep
  obtain ⟨keys', rfl⟩ := Layout.closeBracket_eq hstep
  exact ⟨_, fuel, keys', by rwa [Cursor.next_eq_skip, ← Cursor.skip_add] at hnext⟩

theorem Layout.comma_eq {cursor : Cursor} {keys : List PossibleKey} {next : Layout}
    (hpeek : cursor.peek = ',')
    (h : (Layout.flat cursor tokens brackets allowsKey keys).step = .ok next) :
    ∃ keys, next = .flat cursor.next (tokens ++ [⟨.flowEntry, cursor.place, cursor.next.place⟩]) brackets
      true keys := by
  rw [Layout.step, hpeek] at h
  obtain ⟨dropped, hdrop, hpush⟩ := exists_of_bind_eq_ok h
  obtain rfl := Layout.dropKey_eq hdrop
  obtain rfl := Except.ok.inj hpush
  exact ⟨_, by simp [Layout.flat, Layout.push]; rfl⟩

/-- A comma. -/
theorem Reaches.comma (h : Reaches start out k tokens brackets allowsKey) (hlead : lead.all isSpace)
    (hrest : start.rest.drop k = lead ++ ',' :: rest) :
    ∃ stop, Reaches start out (k + lead.length + 1)
      (tokens ++ [tokenAt start .flowEntry (k + lead.length) stop]) brackets true := by
  obtain ⟨fuel, allowsKey', keys, next, -, hcursor, hstep, hnext⟩ :=
    h.exists_step hlead (by decide) hrest
  obtain ⟨keys', rfl⟩ := Layout.comma_eq (Cursor.peek_of_rest hcursor) hstep
  exact ⟨_, fuel, keys', by rwa [Cursor.next_eq_skip, ← Cursor.skip_add] at hnext⟩

theorem Layout.step_quote {layout : Layout} (h : layout.cursor.peek = '"') :
    layout.step = layout.word quotedScalar (.scalar · false) := by
  rw [Layout.step, h]
  rfl

/-- A string in quotes. -/
theorem Layout.word_eq {cursor : Cursor} {name : List Glyph} (hname : ∀ g ∈ name, g.IsValid)
    {keys : List PossibleKey} {next : Layout}
    (hrest : cursor.rest = '"' :: (Glyph.written name ++ '"' :: rest))
    (h : (Layout.flat cursor tokens brackets allowsKey keys).step = .ok next) :
    ∃ text keys, nameOf? name = some text ∧
      next = .flat (cursor.skip ((Glyph.written name).length + 2))
        (tokens ++ [⟨.scalar text false, cursor.place,
          (cursor.skip ((Glyph.written name).length + 2)).place⟩]) brackets false keys ∧
      (allowsKey → ∃ required others,
        keys = ⟨brackets.length, tokens.length, cursor.place, required⟩ :: others ∧
        ∀ key ∈ others, key.depth ≠ brackets.length) := by
  rw [Layout.step_quote (Cursor.peek_of_rest hrest)] at h
  obtain ⟨noted, hnote, hread⟩ := exists_of_bind_eq_ok h
  obtain ⟨keys, rfl, hkeys⟩ := Layout.noteKey_eq hnote
  obtain ⟨⟨text, after⟩, hscalar, hpush⟩ := exists_of_bind_eq_ok hread
  obtain ⟨htext, rfl⟩ := quotedScalar_of_isAt hname hrest hscalar
  obtain rfl := Except.ok.inj hpush
  exact ⟨text, keys, htext, by simp [Layout.flat, Layout.push], by simpa [Layout.depth] using hkeys⟩

/-- A value that is a string. -/
theorem Reaches.string {name : List Glyph} (hname : ∀ g ∈ name, g.IsValid)
    (h : Reaches start out k tokens brackets allowsKey) (hlead : lead.all isSpace)
    (hrest : start.rest.drop k = lead ++ '"' :: (Glyph.written name ++ '"' :: rest)) :
    ∃ text stop, Reaches start out (k + lead.length + ((Glyph.written name).length + 2))
      (tokens ++ [tokenAt start (.scalar text false) (k + lead.length) stop]) brackets false := by
  obtain ⟨fuel, allowsKey', keys, next, -, hcursor, hstep, hnext⟩ :=
    h.exists_step hlead (by decide) hrest
  obtain ⟨text, keys', -, rfl, -⟩ := Layout.word_eq hname hcursor hstep
  exact ⟨text, _, fuel, keys', by rwa [← Cursor.skip_add] at hnext⟩

theorem Layout.step_colon {cursor : Cursor} {last : Token} {keys : List PossibleKey}
    (hlast : last.kind ≠ .value) (hrest : cursor.rest = ':' :: rest) :
    (Layout.flat cursor (tokens ++ [last]) (.curly :: brackets) allowsKey keys).step =
      (Layout.flat cursor (tokens ++ [last]) (.curly :: brackets) allowsKey keys).value := by
  have hmark : cursor.isAtMark "---" = false ∧ cursor.isAtMark "..." = false := by
    simp [Cursor.isAtMark, hrest]
  have hvalue : (Layout.flat cursor (tokens ++ [last]) (.curly :: brackets) allowsKey keys).isValue := by
    simp [Layout.isValue, hlast]
  unfold Layout.step
  simp only [Cursor.peek_of_rest hrest]
  simp [hmark, hvalue]

/-- A colon in brackets behind a key. -/
theorem Layout.value_of_key (layout : Layout) {key : PossibleKey} (hflow : layout.inFlow)
    (h : layout.keys.find? (·.depth = layout.depth) = some key) :
    layout.value = .ok (({ layout with
        keys := layout.keys.filter (·.depth ≠ layout.depth)
        allowsKey := false }.insertBefore key.token key.place [.key]).push .value layout.cursor.next) := by
  have hstill : Layout.inFlow { layout with
      keys := layout.keys.filter (·.depth ≠ layout.depth), allowsKey := false } = true := hflow
  rw [Layout.value, h]
  simp only [hstill, if_true]
  rfl

/-- A colon in brackets behind what is no key. -/
theorem Layout.value_of_none (layout : Layout) (hflow : layout.inFlow)
    (h : layout.keys.find? (·.depth = layout.depth) = none) :
    layout.value = (do
      let dropped ← { layout with allowsKey := false }.dropKey
      return dropped.push .value dropped.cursor.next) := by
  rw [Layout.value, h]
  simp only [hflow, Bool.not_true, Bool.false_and, Bool.false_eq_true, if_false, if_true]

/-- The colon after a name. The mark of the key is put in front of the name, unless the key has been
dropped. -/
theorem Layout.value_eq {cursor : Cursor} {last : Token} {key : PossibleKey} {others : List PossibleKey}
    {keep : PossibleKey → Bool} {next : Layout} (htoken : key.token = tokens.length)
    (hkey : key.depth = brackets.length + 1) (hothers : ∀ key ∈ others, key.depth ≠ brackets.length + 1)
    (h : (Layout.flat cursor (tokens ++ [last]) (.curly :: brackets) allowsKey
      ((key :: others).filter keep)).value = .ok next) :
    ∃ marks keys, (marks = [] ∨ marks = [⟨.key, key.place, key.place⟩]) ∧
      next = .flat cursor.next (tokens ++ (marks ++ [last, ⟨.value, cursor.place, cursor.next.place⟩]))
        (.curly :: brackets) false keys := by
  -- the key of the name is the only one of its depth, and it is there unless it has been dropped
  by_cases hkeep : keep key
  · have hfind : ((key :: others).filter keep).find? (·.depth = brackets.length + 1) = some key := by
      simp [hkeep, hkey]
    rw [Layout.value_of_key (.flat cursor (tokens ++ [last]) (.curly :: brackets) allowsKey
      ((key :: others).filter keep)) rfl hfind, htoken] at h
    obtain rfl := Except.ok.inj h
    exact ⟨_, _, .inr rfl, by simp [Layout.flat, Layout.push, Layout.insertBefore]; rfl⟩
  · have hfind : ((key :: others).filter keep).find? (·.depth = brackets.length + 1) = none := by
      simp only [List.find?_eq_none, List.mem_filter, decide_eq_true_eq]
      rintro other ⟨hmem, hkept⟩
      rcases List.mem_cons.mp hmem with rfl | hmem
      · exact absurd hkept hkeep
      · exact hothers other hmem
    rw [Layout.value_of_none (.flat cursor (tokens ++ [last]) (.curly :: brackets) allowsKey
      ((key :: others).filter keep)) rfl hfind] at h
    obtain ⟨dropped, hdrop, hpush⟩ := exists_of_bind_eq_ok h
    obtain rfl := Layout.dropKey_eq hdrop
    obtain rfl := Except.ok.inj hpush
    exact ⟨_, _, .inl rfl, by simp [Layout.flat, Layout.push]; rfl⟩

/-- The tokens of a name and its colon. The mark of the key is missing if the name is no key. -/
def EmitsName (start : Cursor) (name : List Glyph) (k : Nat) (own : List Token) : Prop :=
  ∃ text marks stop colon, nameOf? name = some text ∧
    (marks = [] ∨ ∃ place stop, marks = [⟨.key, place, stop⟩]) ∧ colon.kind = .value ∧
    own = marks ++ [tokenAt start (.scalar text false) k stop, colon]

theorem drop_literal (cs rest : List Char) :
    ('"' :: (cs ++ '"' :: rest)).drop (cs.length + 2) = rest := by
  rw [List.drop_succ_cons, ← List.drop_drop, List.drop_left]
  rfl

/-- A name with its colon. -/
theorem Reaches.name {name : List Glyph} {gap : List Char} (hname : ∀ g ∈ name, g.IsValid)
    (hgap : gap.all isSpace) (h : Reaches start out k tokens (.curly :: brackets) true)
    (hlead : lead.all isSpace)
    (hrest : start.rest.drop k =
      lead ++ '"' :: (Glyph.written name ++ '"' :: (gap ++ ':' :: rest))) :
    ∃ own, EmitsName start name (k + lead.length) own ∧
      Reaches start out (k + lead.length + ((Glyph.written name).length + 2) + gap.length + 1)
        (tokens ++ own) (.curly :: brackets) false := by
  obtain ⟨fuel, allowsKey', keys, next, hallows, hcursor, hstep, hrun⟩ :=
    h.exists_step hlead (by decide) hrest
  obtain rfl := hallows (by simp)
  obtain ⟨text, keys', htext, rfl, hkeys⟩ := Layout.word_eq hname hcursor hstep
  obtain ⟨required, others, rfl, hothers⟩ := hkeys rfl
  rw [← Cursor.skip_add] at hrun
  have hcolon : (start.skip (k + lead.length + ((Glyph.written name).length + 2))).rest =
      gap ++ ':' :: rest := by
    rw [Cursor.skip_add, Cursor.rest_skip, hcursor, drop_literal]
  -- the name is a word by itself, and the step at the colon decides whether it is a key
  obtain ⟨fuel', allowsKey', keep, next, -, hvalue, hnext⟩ :=
    Layout.exists_step_of_run hgap (by decide) hcolon hrun
  rw [Layout.step_colon (by simp) (by
    rw [Cursor.rest_skip, hcolon, List.drop_left])] at hvalue
  obtain ⟨marks, keys'', hmarks, rfl⟩ := Layout.value_eq rfl rfl hothers hvalue
  rw [Cursor.next_eq_skip, ← Cursor.skip_add, ← Cursor.skip_add] at hnext
  exact ⟨_, ⟨text, marks, _, ⟨.value, _, _⟩, htext, hmarks.imp_right fun h => ⟨_, _, h⟩, rfl, rfl⟩,
    fuel', keys'', hnext⟩

/-- No plain scalar goes on with a text. -/
def StopsPlain (inFlow : Bool) (rest : List Char) : Prop :=
  ∀ c ∈ rest.head?, isEdge c ∨ inFlow ∧ isFlowMark c

theorem stopsPlain_gap {inFlow : Bool} {gap : List Char} (hgap : gap.all isSpace)
    (h : StopsPlain inFlow rest) : StopsPlain inFlow (gap ++ rest) := by
  cases gap with
  | nil => exact h
  | cons c gap =>
    have hc : isSpace c := List.all_eq_true.mp hgap c List.mem_cons_self
    simp only [isSpace, Bool.or_eq_true, decide_eq_true_eq] at hc
    intro d hd
    obtain rfl : c = d := by simpa using hd
    rcases hc with ((rfl | rfl) | rfl) | rfl <;> exact .inl (by decide)

theorem plainChunk_of_stopsPlain {inFlow : Bool} (h : StopsPlain inFlow rest) :
    plainChunk inFlow rest = [] := by
  cases rest with
  | nil => rfl
  | cons c rest =>
    have hc : c ≠ ':' := by
      rintro rfl
      simpa [isEdge, isSpaceOrTab, isLineEnd, endMark, isFlowMark] using h ':' rfl
    have hstop := h c rfl
    simp [plainChunk, hc, hstop]

theorem not_isEdge_of_isBareChar {c : Char} (h : Json.isBareChar c) :
    isEdge c = false ∧ isFlowMark c = false := by
  constructor
  · by_contra hedge
    simp only [isEdge, isSpaceOrTab, isLineEnd, Bool.not_eq_false, Bool.or_eq_true,
      decide_eq_true_eq, List.contains_iff_mem, List.mem_cons, List.not_mem_nil, or_false] at hedge
    rcases hedge with ((rfl | rfl) | rfl | rfl | rfl) | rfl <;> simp [Json.isBareChar, endMark] at h
  · by_contra hmark
    simp only [isFlowMark, Bool.not_eq_false, List.contains_iff_mem, List.mem_cons, List.not_mem_nil,
      or_false] at hmark
    rcases hmark with rfl | rfl | rfl | rfl | rfl <;> simp [Json.isBareChar] at h

/-- A plain scalar goes on over the characters of a word or a number. -/
theorem plainChunk_append {inFlow : Bool} {chars : List Char} (h : chars.all Json.isBareChar) :
    plainChunk inFlow (chars ++ rest) = chars ++ plainChunk inFlow rest := by
  induction chars with
  | nil => rfl
  | cons c chars ih =>
    simp only [List.all_cons, Bool.and_eq_true] at h
    have hcolon : c ≠ ':' := by
      rintro rfl
      simp [Json.isBareChar] at h
    simp [plainChunk, hcolon, not_isEdge_of_isBareChar h.1, ih h.2]

/-- Line ends behind a plain scalar are blanks of the gap. -/
theorem exists_plainBreaks {gap : List Char} (hgap : gap.all isSpace) (hdark : IsDark rest) (fuel : Nat)
    {cursor : Cursor} (hrest : cursor.rest = gap ++ rest) :
    ∃ text n, n ≤ gap.length ∧ plainBreaks fuel cursor = (text, cursor.skip n) := by
  induction fuel generalizing cursor gap with
  | zero => exact ⟨some [], 0, Nat.zero_le _, rfl⟩
  | succ fuel ih =>
    by_cases hseparator : cursor.isAtSeparator
    · exact ⟨none, 0, Nat.zero_le _, by simp [plainBreaks, hseparator]; rfl⟩
    obtain ⟨n, hn, hspaces, -⟩ := exists_takeWhile_gap (fun c => ne_space_of_isDark) hdark hrest
    have hskip : cursor.skipWhile (· = ' ') = cursor.skip n := by rw [Cursor.skipWhile, hspaces]
    have hmore := rest_skip_gap hn hrest
    rcases lineBreak?_gap (all_isSpace_drop hgap n) hdark hmore with ⟨hnone, -⟩ | ⟨m, -, hm, hsome⟩
    · exact ⟨some [], n, hn, by simp [plainBreaks, hseparator, hskip, hnone]⟩
    · obtain ⟨text, l, hl, hread⟩ := ih (all_isSpace_drop (all_isSpace_drop hgap n) m)
        (rest_skip_gap hm hmore)
      simp only [List.length_drop] at hm hl
      refine ⟨text.map ('\n' :: ·), n + m + l, by omega, ?_⟩
      simp [plainBreaks, hseparator, hskip, hsome, hread, Cursor.skip_add]

theorem exists_plainSpaces {gap : List Char} (hgap : gap.all isSpace) (hdark : IsDark rest)
    {cursor : Cursor} (hrest : cursor.rest = gap ++ rest) :
    ∃ text endsLine n, n ≤ gap.length ∧ plainSpaces cursor = (text, endsLine, cursor.skip n) := by
  obtain ⟨n, hn, hspaces, -⟩ := exists_takeWhile_gap (fun c => ne_space_of_isDark) hdark hrest
  have hmore := rest_skip_gap hn hrest
  rcases lineBreak?_gap (all_isSpace_drop hgap n) hdark hmore with ⟨hnone, -⟩ | ⟨m, -, hm, hsome⟩
  · exact ⟨cursor.takeWhile (· = ' '), false, n, hn, by simp only [plainSpaces, hspaces, hnone]⟩
  · have hlast := rest_skip_gap hm hmore
    obtain ⟨text, l, hl, hread⟩ := exists_plainBreaks (all_isSpace_drop (all_isSpace_drop hgap n) m)
      hdark (((cursor.skip n).skip m).rest.length) hlast
    simp only [List.length_drop] at hm hl
    refine ⟨(text.map (foldBreaks '\n')).getD [], true, n + m + l, by omega, ?_⟩
    simp only [plainSpaces, hspaces, hsome, hread, Cursor.skip_add]

/-- A word or number is a plain scalar. Some of the blanks behind it may be passed too. -/
theorem exists_plainScalar (inFlow : Bool) (indent : Int) {chars gap : List Char}
    (hchars : chars.all Json.isBareChar) (hne : chars ≠ []) (hgap : gap.all isSpace)
    (hdark : IsDark rest) (hstop : StopsPlain inFlow rest) {cursor : Cursor}
    (hrest : cursor.rest = chars ++ (gap ++ rest)) :
    ∃ text n, n ≤ gap.length ∧
      plainScalar inFlow indent cursor = (text, cursor.skip (chars.length + n)) := by
  have hafter : (cursor.skip chars.length).rest = gap ++ rest := by
    rw [Cursor.rest_skip, hrest, List.drop_left]
  obtain ⟨spaces, endsLine, n, hn, hspaces⟩ := exists_plainSpaces hgap hdark hafter
  rw [← Cursor.skip_add] at hspaces
  -- nothing is read behind the blanks
  have hend : ∀ fuel spaces endsLine, ∃ text, plainText inFlow indent fuel spaces endsLine
      (cursor.skip (chars.length + n)) = (text, cursor.skip (chars.length + n)) := by
    intro fuel spaces endsLine
    have hmore : (cursor.skip (chars.length + n)).rest = gap.drop n ++ rest := by
      rw [Cursor.skip_add, rest_skip_gap hn hafter]
    have hchunk := plainChunk_of_stopsPlain (stopsPlain_gap (all_isSpace_drop hgap n) hstop)
    cases fuel with
    | zero => exact ⟨_, rfl⟩
    | succ fuel => exact ⟨⟨[], endsLine⟩, by
      simp only [plainText, hmore, hchunk, ite_self, List.isEmpty_nil, if_true]⟩
  obtain ⟨c, more, rfl⟩ := List.exists_cons_of_ne_nil hne
  have hpeek : cursor.peek ≠ '#' := by
    rw [Cursor.peek_of_rest hrest]
    rintro rfl
    simp [Json.isBareChar] at hchars
  have hchunk : plainChunk inFlow cursor.rest = c :: more := by
    rw [hrest, plainChunk_append hchars, plainChunk_of_stopsPlain (stopsPlain_gap hgap hstop),
      List.append_nil]
  obtain ⟨fuel, hfuel⟩ : ∃ fuel, cursor.rest.length = fuel + 1 := ⟨_, by rw [hrest]; rfl⟩
  rw [plainScalar, hfuel, plainText, if_neg hpeek, hchunk]
  simp only [List.isEmpty_cons, Bool.false_eq_true, if_false, hspaces]
  split
  · exact ⟨_, n, hn, rfl⟩
  · obtain ⟨text, htext⟩ := hend fuel spaces endsLine
    exact ⟨_, n, hn, by rw [htext]⟩

theorem not_isBreak_of_isBareChar {c : Char} (h : Json.isBareChar c) : isBreak c = false := by
  have hedge := (not_isEdge_of_isBareChar h).1
  have hc : c ≠ '\u2028' ∧ c ≠ '\u2029' := by
    constructor <;>
    · rintro rfl
      simp [Json.isBareChar] at h
  simp_all [isEdge, isBreak]

theorem not_isBareChar_of_mem_marks {c : Char} (h : c ∈ Layout.marks) (hminus : c ≠ '-') :
    Json.isBareChar c = false := by
  have hall : Layout.marks.all fun c => c = '-' || !Json.isBareChar c := by decide
  simpa [hminus] using List.all_eq_true.mp hall c h

/-- The front of a word or a number: it starts with no point, and behind a sign there is a digit. -/
theorem exists_front_of_isBare {chars : List Char} {value : Json} (h : Json.IsBare chars value)
    {cursor : Cursor} (hrest : cursor.rest = chars ++ rest) :
    ∃ c more, cursor.rest = c :: more ∧ Json.isBareChar c ∧ c ≠ '.' ∧
      (c = '-' → cursor.peekAt 1 ≠ '-' ∧ isEdge (cursor.peekAt 1) = false) := by
  obtain ⟨c, more, rfl, hc⟩ := h.start
  have hall := h.all
  simp only [List.all_cons, Bool.and_eq_true] at hall
  refine ⟨c, more ++ rest, hrest, hall.1, ?_, ?_⟩
  · rintro rfl
    simp at hc
  · rintro rfl
    obtain ⟨d, hd, hminus⟩ : ∃ d ∈ more.head?, d ≠ '-' := by simpa using hc
    obtain ⟨others, rfl⟩ := List.head?_eq_some_iff.mp hd
    have hpeek : cursor.peekAt 1 = d := by simp [Cursor.peekAt, hrest]
    rw [hpeek]
    exact ⟨hminus, (not_isEdge_of_isBareChar (List.all_eq_true.mp hall.2 d List.mem_cons_self)).1⟩

theorem Cursor.not_isAtMark {cursor : Cursor} {c : Char} {more : List Char} (hrest : cursor.rest = c :: more)
    (hdot : c ≠ '.') (hminus : c = '-' → cursor.peekAt 1 ≠ '-') :
    cursor.isAtMark "---" = false ∧ cursor.isAtMark "..." = false := by
  simp only [Cursor.isAtMark, hrest, Bool.and_eq_false_iff, decide_eq_false_iff_not]
  refine ⟨.inl fun htake => ?_, .inl fun htake => ?_⟩
  · obtain rfl : c = '-' := by simpa using congrArg List.head? htake
    cases more with
    | nil => simp at htake
    | cons d more =>
      have hd := congrArg (List.drop 1) htake
      obtain rfl : d = '-' := by simpa using congrArg List.head? hd
      exact hminus rfl (by simp [Cursor.peekAt, hrest])
  · exact hdot (by simpa using congrArg List.head? htake)

theorem Layout.isPlain_of_isBareChar {layout : Layout} {c : Char} (hpeek : layout.cursor.peek = c)
    (hc : Json.isBareChar c) (hdash : c = '-' → isEdge (layout.cursor.peekAt 1) = false) :
    layout.isPlain := by
  unfold Layout.isPlain
  simp only [hpeek]
  by_cases hminus : c = '-'
  · split
    · rfl
    · simp [hdash hminus]
  · have hmarks : c ∉ Layout.marks := fun hmem => by
      simp [not_isBareChar_of_mem_marks hmem hminus] at hc
    simp [not_isEdge_of_isBareChar hc, not_isBreak_of_isBareChar hc, hmarks]

/-- What starts a word or a number starts a plain scalar. -/
theorem Layout.step_bare {chars : List Char} {value : Json} (h : Json.IsBare chars value)
    {cursor : Cursor} {keys : List PossibleKey} (hrest : cursor.rest = chars ++ rest) :
    (Layout.flat cursor tokens brackets allowsKey keys).step =
      (Layout.flat cursor tokens brackets allowsKey keys).plain := by
  obtain ⟨c, more, hfront, hc, hdot, hsecond⟩ := exists_front_of_isBare h hrest
  have hpeek : cursor.peek = c := Cursor.peek_of_rest hfront
  have hdash := fun hminus => (hsecond hminus).2
  have hmark := Cursor.not_isAtMark hfront hdot fun hminus => (hsecond hminus).1
  have hplain : (Layout.flat cursor tokens brackets allowsKey keys).isPlain :=
    Layout.isPlain_of_isBareChar hpeek hc hdash
  have hne := Json.ne_of_isBareChar hc
  -- each character that has a branch of its own but the sign is in no word and no number
  unfold Layout.step
  simp only [hpeek]
  split
  all_goals first
    | exact absurd rfl (hne _ (by decide))
    | skip
  have hothers : c ≠ '%' ∧ c ≠ '?' ∧ c ≠ ':' ∧ c ≠ '|' ∧ c ≠ '>' :=
    ⟨hne _ (by decide), hne _ (by decide), hne _ (by decide), hne _ (by decide), hne _ (by decide)⟩
  by_cases hminus : c = '-'
  · simp [hmark, hplain, hothers, hdash hminus]
  · simp [hmark, hplain, hothers, hminus]

theorem isDark_of_startsValue {c : Char} (h : Json.startsValue c) : isDark c := by
  have hspace := Json.not_isSpace_of_startsValue h
  simp only [Json.startsValue, Bool.or_eq_true, decide_eq_true_eq] at h
  rcases h with ((h | rfl) | rfl) | rfl
  · have hcomment : c ≠ '#' := by
      rintro rfl
      simp [Json.isBareChar] at h
    simp [isDark, hspace, not_isBreak_of_isBareChar h, hcomment]
  all_goals decide

theorem Layout.plain_eq {chars gap : List Char} {value : Json} (hbare : Json.IsBare chars value)
    (hgap : gap.all isSpace) (hdark : IsDark rest) (hstop : StopsPlain (!brackets.isEmpty) rest)
    {cursor : Cursor} {keys : List PossibleKey} {next : Layout}
    (hrest : cursor.rest = chars ++ (gap ++ rest))
    (h : (Layout.flat cursor tokens brackets allowsKey keys).step = .ok next) :
    ∃ text n allowsKey keys, n ≤ gap.length ∧ next = .flat (cursor.skip (chars.length + n))
      (tokens ++ [⟨.scalar text true, cursor.place, (cursor.skip (chars.length + n)).place⟩]) brackets
      allowsKey keys := by
  rw [Layout.step_bare hbare hrest] at h
  obtain ⟨noted, hnote, hpush⟩ := exists_of_bind_eq_ok h
  obtain ⟨keys, rfl, -⟩ := Layout.noteKey_eq hnote
  have hne : chars ≠ [] := by
    obtain ⟨c, more, rfl, -⟩ := hbare.start
    simp
  -- a plain scalar takes some of the blanks behind it along
  obtain ⟨text, n, hn, hread⟩ := exists_plainScalar (!brackets.isEmpty) (-1 + 1) hbare.all hne hgap
    hdark hstop hrest
  dsimp only [Layout.inFlow] at hpush
  rw [hread] at hpush
  obtain rfl := Except.ok.inj hpush
  exact ⟨String.ofList text.text, n, text.endsLine, keys, hn, by simp [Layout.flat, Layout.push]⟩

/-- A word or a number. -/
theorem Reaches.bare {chars gap : List Char} {value : Json} (hbare : Json.IsBare chars value)
    (h : Reaches start out k tokens brackets allowsKey) (hlead : lead.all isSpace) (hgap : gap.all isSpace)
    (hdark : IsDark rest) (hstop : StopsPlain (!brackets.isEmpty) rest)
    (hrest : start.rest.drop k = lead ++ (chars ++ (gap ++ rest))) :
    ∃ text n stop allowsKey, n ≤ gap.length ∧
      Reaches start out (k + lead.length + (chars.length + n))
        (tokens ++ [tokenAt start (.scalar text true) (k + lead.length) stop]) brackets allowsKey := by
  have hfirst : ∃ c more, chars = c :: more ∧ isDark c := by
    obtain ⟨c, more, rfl, -⟩ := hbare.start
    have hc : Json.isBareChar c := List.all_eq_true.mp hbare.all c List.mem_cons_self
    exact ⟨c, more, rfl, isDark_of_startsValue (by simp [Json.startsValue, hc])⟩
  obtain ⟨c, more, hchars, hc⟩ := hfirst
  rw [hchars, List.cons_append] at hrest
  obtain ⟨fuel, allowsKey', keys, next, -, hcursor, hstep, hnext⟩ := h.exists_step hlead hc hrest
  rw [← List.cons_append, ← hchars] at hcursor
  obtain ⟨text, n, allowsKey, keys, hn, rfl⟩ := Layout.plain_eq hbare hgap hdark hstop hcursor hstep
  rw [← Cursor.skip_add] at hnext
  exact ⟨text, n, _, allowsKey, hn, fuel, keys, hnext⟩

/-- The end of a text. Blanks are passed, and a last token ends the text. -/
theorem Reaches.finish (h : Reaches start out k tokens [] allowsKey) (hlead : lead.all isSpace)
    (hrest : start.rest.drop k = lead) :
    ∃ last, last.kind = .streamEnd ∧ out = (tokens ++ [last]).toArray := by
  obtain ⟨fuel, keys, hrun⟩ := h
  obtain ⟨fuel', allowsKey', keep, -, hlast⟩ := Layout.run_flat hlead isDark_nil
    (by rw [Cursor.rest_skip, hrest, List.append_nil]) hrun
  obtain ⟨dropped, hdrop, hpush⟩ := exists_of_bind_eq_ok hlast
  obtain rfl := Layout.dropKey_eq hdrop
  obtain rfl := Except.ok.inj hpush
  exact ⟨_, rfl, by simp [Layout.flat, Layout.pushEmpty, Layout.push]; rfl⟩

end reaches

end ProposalCheck.Yaml
