import ProposalCheck.Proofs.Document.Numbering

/-!
# The way of the cursor

The cursor goes over the pieces of a block from left to right. On each line it is where the line starts, or where
something ends that has been found before. Whatever has been found lies behind it, so a word is found where it stands
behind all that has been found on its line, and only there.

## Main definitions

* `Cursor.IsBefore`: the order of places
* `Body.Spans`: a span from one place of a line to another
* `Body.Settled`: a cursor that is behind all that has been found, and not further
* `Body.IsFinished`: a node that is written, with all that is below it, before another

## Main results

* `Body.Pieces.isOnLines`: the line of a piece is the number of breaks before it
* `Body.Pieces.settles`: the cursor before each word is behind what has been found before it
* `Body.pieces_faithful`: words stand on their lines, one behind the other
-/

namespace ProposalCheck

open Markdown

/-- A place that is not behind another. -/
def Cursor.IsBefore (place other : Cursor) : Prop :=
  place.line < other.line ∨ place.line = other.line ∧ place.column ≤ other.column

theorem Cursor.IsBefore.refl (place : Cursor) : place.IsBefore place := .inr ⟨rfl, Nat.le_refl _⟩

theorem Cursor.IsBefore.trans {place other last : Cursor} (h : place.IsBefore other) (hlast : other.IsBefore last) :
    place.IsBefore last := by
  unfold Cursor.IsBefore at *
  omega

theorem Cursor.isBefore_nextLine (place : Cursor) : place.IsBefore place.nextLine := .inl (Nat.lt_succ_self _)

/-- A text that is not empty has bytes. -/
theorem Span.Covers.lt {span : Span} {cs part : List Char} (h : span.Covers cs part) (hpart : part ≠ []) :
    span.start < span.stop := by
  obtain ⟨front, back, -, rfl⟩ := h
  obtain ⟨c, part, rfl⟩ := List.exists_cons_of_ne_nil hpart
  have hpos := c.utf8Size_pos
  rw [byteLength]
  dsimp only
  omega

/-- A text is the slice at the span that holds it. -/
theorem Span.Covers.slice_eq {lines : Lines} {span : Span} {text : String}
    (h : span.Covers lines.source.toList text.toList) : lines.slice span.start span.stop = .ok text := by
  obtain ⟨front, back, hsource, rfl⟩ := h
  rw [Lines.slice_eq hsource, String.ofList_toList]

namespace Body

variable {lines : Lines} {body : Body}

/-! ### Places and spans -/

/-- A span from one place of a line to another. -/
def Spans (lines : Lines) (start stop : Cursor) (span : Span) : Prop :=
  ∃ row, lines.row start.line = .ok row ∧ stop.line = start.line ∧ stop.column ≤ row.text.toList.length ∧
    span = ⟨row.start + byteLength (row.text.toList.take start.column),
      row.start + byteLength (row.text.toList.take stop.column)⟩

theorem byteLength_take_mono (cs : List Char) {m n : Nat} (h : m ≤ n) :
    byteLength (cs.take m) ≤ byteLength (cs.take n) := by
  obtain ⟨rest, hrest⟩ := List.take_prefix_take_left h (l := cs)
  rw [← hrest, byteLength_append]
  exact Nat.le_add_right _ _

/-- A span of a line lies in the text of the line. -/
theorem Spans.bounds {start stop : Cursor} {span : Span} (h : Spans lines start stop span) :
    ∃ row, lines.row start.line = .ok row ∧ row.start ≤ span.start ∧ span.stop ≤ row.span.stop := by
  obtain ⟨row, hrow, -, -, rfl⟩ := h
  refine ⟨row, hrow, Nat.le_add_right _ _, Nat.add_le_add_left ?_ _⟩
  have hle := byteLength_take_mono row.text.toList (Nat.le_max_left stop.column row.text.toList.length)
  rw [List.take_of_length_le (Nat.le_max_right _ _)] at hle
  rwa [Row.text, String.toList_ofList] at hle ⊢

/-- Spans stand in the order of their places. -/
theorem Spans.stop_le {start stop next last : Cursor} {span later : Span} (h : Spans lines start stop span)
    (hlater : Spans lines next last later) (hbefore : stop.IsBefore next) : span.stop ≤ later.start := by
  rcases hbefore with hlt | ⟨hsame, hcolumn⟩
  · obtain ⟨row, hrow, -, hstop⟩ := h.bounds
    obtain ⟨nextRow, hnext, hstart, -⟩ := hlater.bounds
    obtain ⟨-, -, hline, -⟩ := h
    -- on an earlier line, the span ends before the next line starts
    obtain ⟨k, hk, hrow⟩ := Lines.exists_of_row hrow
    obtain ⟨j, hj, hnext⟩ := Lines.exists_of_row hnext
    have hbetween := lines.tiles.stop_lt (show k < j by omega) hrow hnext
    have hreturn := Row.byteLength_dropReturn_le row.chars
    rw [Row.span] at hstop
    dsimp only at hstop
    omega
  · -- on the same line, the span ends before fewer characters
    obtain ⟨row, hrow, hline, -, rfl⟩ := h
    obtain ⟨nextRow, hnext, -, -, rfl⟩ := hlater
    rw [← hline, hsame] at hrow
    obtain rfl := Except.ok.inj (hrow.symm.trans hnext)
    exact Nat.add_le_add_left (byteLength_take_mono _ hcolumn) _

/-- What is found stands between two places of its line. -/
theorem exists_spans_of_locate? {line column after : Nat} {needle : String} {span : Span}
    (h : locate? lines line column needle = some (span, after)) :
    ∃ found, column ≤ found ∧ found ≤ after ∧ Spans lines ⟨line, found⟩ ⟨line, after⟩ span := by
  rw [locate?] at h
  cases hrow : lines.row line with
  | error error =>
    rw [hrow] at h
    cases h
  | ok row =>
    rw [hrow] at h
    obtain ⟨found, hfound, heq⟩ := Option.map_eq_some_iff.mp h
    obtain ⟨rfl, rfl⟩ := Prod.mk.inj heq
    obtain ⟨hle, front, behind, htext, rfl⟩ := exists_of_findIn? hfound
    refine ⟨front.length, hle, Nat.le_add_right _ _, row, hrow, rfl, ?_, ?_⟩
    · rw [htext, List.length_append, List.length_append, String.length_toList]
      dsimp only
      omega
    · rw [htext, List.take_left, ← List.append_assoc,
        List.take_left' (by rw [List.length_append, String.length_toList]), byteLength_append, byteLength_toList,
        Nat.add_assoc]

/-- What stands behind the start of a span is found if it is looked for from the end of an earlier one. -/
theorem exists_locate? {place : Cursor} {row : Row} {needle : String} {front back : List Char}
    (hrow : lines.row place.line = .ok row) (htext : row.text.toList = front ++ (needle.toList ++ back))
    (hplace : place.column = 0 ∨
      ∃ start earlier, Spans lines start place earlier ∧ earlier.stop ≤ row.start + byteLength front) :
    ∃ span after, locate? lines place.line place.column needle = some (span, after) := by
  -- the end of an earlier span is no further than the text before the needle
  have hcolumn : place.column ≤ front.length := by
    rcases hplace with hzero | ⟨start, _, ⟨found, hfound, hline, hlength, rfl⟩, hstop⟩
    · omega
    · rw [← hline] at hfound
      obtain rfl := Except.ok.inj (hrow.symm.trans hfound)
      obtain ⟨gap, hfront, -⟩ := exists_gap_of_append_eq ((List.take_append_drop place.column _).trans htext)
        (Nat.le_of_add_le_add_left hstop)
      have hle := congrArg List.length hfront
      rw [List.length_append, List.length_take] at hle
      omega
  obtain ⟨found, hfound⟩ := exists_findIn? htext hcolumn
  rw [locate?, hrow]
  exact ⟨_, _, by rw [Option.map_eq_some_iff]; exact ⟨found, hfound, rfl⟩⟩

/-! ### What has been found -/

/-- A cursor that started from a place is behind the spans of some nodes, and not further than the start of its line or
the end of one of the spans. -/
structure Settled (lines : Lines) (origin : Cursor) (done : List Node) (place : Cursor) : Prop where
  reached : (place = origin ∨ place.column = 0) ∨
    ∃ node ∈ done, ∃ span start, node.span = some span ∧ Spans lines start place span
  behind : ∀ node ∈ done, ∀ span, node.span = some span → ∃ start stop, Spans lines start stop span ∧
    stop.IsBefore place

theorem settled_nil (origin : Cursor) : Settled lines origin [] origin := ⟨.inl (.inl rfl), List.forall_mem_nil _⟩

variable {done : List Node} {origin place next : Cursor} {node : Node}

theorem Settled.congr (h : Settled lines origin done place) {others : List Node} (hothers : ∀ node, node ∈ done ↔ node ∈ others) :
    Settled lines origin others place where
  reached := h.reached.imp_right fun ⟨node, hnode, hspan⟩ => ⟨node, (hothers node).mp hnode, hspan⟩
  behind node hnode := h.behind node ((hothers node).mpr hnode)

/-- The cursor stays where it is, or goes to the start of another line or to the end of a span. -/
theorem Settled.move (h : Settled lines origin done place) (hplace : place.IsBefore next)
    (hbehind : ∀ span, node.span = some span → ∃ start stop, Spans lines start stop span ∧ stop.IsBefore next)
    (hreached : next = place ∨ next.column = 0 ∨ ∃ span start, node.span = some span ∧ Spans lines start next span) :
    Settled lines origin (done ++ [node]) next where
  reached := by
    rcases hreached with rfl | hzero | hspan
    · exact h.reached.imp_right fun ⟨other, hother, hspan⟩ => ⟨other, List.mem_append_left _ hother, hspan⟩
    · exact .inl (.inr hzero)
    · exact .inr ⟨node, List.mem_append_right _ (List.mem_singleton_self _), hspan⟩
  behind := by
    refine List.forall_mem_append.mpr ⟨fun other hother span hspan => ?_, List.forall_mem_singleton.mpr hbehind⟩
    obtain ⟨start, stop, hspans, hstop⟩ := h.behind other hother span hspan
    exact ⟨start, stop, hspans, hstop.trans hplace⟩

theorem Settled.nextLine (h : Settled lines origin done place) (node : Node) (hspan : node.span = none) :
    Settled lines origin (done ++ [node]) place.nextLine :=
  h.move place.isBefore_nextLine (by simp [hspan]) (.inr (.inl rfl))

/-- A word moves the cursor to its end, or not at all. -/
theorem Settled.finds (h : Settled lines origin done place) (node : Node) {content : String}
    (hfinds : Finds lines content (some place) node.span (some next)) : Settled lines origin (done ++ [node]) next := by
  generalize hspan : node.span = span at hfinds
  cases hfinds with
  | missed _ => exact h.move (.refl _) (by simp [hspan]) (.inl rfl)
  | found _ hfound =>
    obtain ⟨start, hle, hstop, hspans⟩ := exists_spans_of_locate? hfound
    refine h.move (.inr ⟨rfl, Nat.le_trans hle hstop⟩) ?_ (.inr (.inr ⟨_, _, hspan, hspans⟩))
    intro other hother
    obtain rfl := Option.some.inj (hspan.symm.trans hother)
    exact ⟨_, _, hspans, .refl _⟩

/-- The destination of a link moves the cursor to its end if that is behind the text of the link. -/
theorem Settled.links (h : Settled lines origin done place) (node : Node) {kind : Kind} {cursor : Option Cursor}
    (hlinks : Links lines kind cursor (some place) node.span (some next)) : Settled lines origin (done ++ [node]) next := by
  generalize hspan : node.span = span at hlinks
  cases hlinks with
  | missed => exact h.move (.refl _) (by simp [hspan]) (.inl rfl)
  | @found _ _ _ _ column _ _ hfound =>
    obtain ⟨start, -, -, hspans⟩ := exists_spans_of_locate? hfound
    refine h.move (.inr ⟨rfl, Nat.le_max_left _ _⟩) ?_ ?_
    · intro other hother
      obtain rfl := Option.some.inj (hspan.symm.trans hother)
      exact ⟨_, _, hspans, .inr ⟨rfl, Nat.le_max_right _ _⟩⟩
    · -- a destination that ends within the text of the link leaves the cursor behind that text
      rcases Nat.le_total column place.column with hle | hle
      · exact .inl (by rw [Nat.max_eq_left hle])
      · rw [Nat.max_eq_right hle]
        exact .inr (.inr ⟨_, _, hspan, hspans⟩)

/-! ### Lines -/

theorem Finds.exists_after {content : String} {span : Option Span} {after : Option Cursor}
    (h : Finds lines content (some place) span after) : ∃ next, after = some next ∧ next.line = place.line := by
  cases h <;> exact ⟨_, rfl, rfl⟩

theorem Links.exists_after {kind : Kind} {cursor after : Option Cursor} {span : Option Span}
    (h : Links lines kind cursor (some place) span after) : ∃ next, after = some next ∧ next.line = place.line := by
  cases h <;> exact ⟨_, rfl, rfl⟩

/-- The lines of some nodes count up at breaks. -/
def IsOnLines : Nat → List Node → Prop
  | _, [] => True
  | line, node :: rest => (∃ last, node.lines = some (line, last)) ∧
      IsOnLines (if node.kind.isBreak then line + 1 else line) rest

/-- The number of breaks among some nodes. -/
def breaksAmong (nodes : List Node) : Nat := nodes.countP (·.kind.isBreak)

theorem breaksAmong_cons (node : Node) (rest : List Node) :
    breaksAmong (node :: rest) = breaksAmong rest + if node.kind.isBreak then 1 else 0 := List.countP_cons

theorem breaksAmong_append (nodes others : List Node) :
    breaksAmong (nodes ++ others) = breaksAmong nodes + breaksAmong others := List.countP_append

theorem isOnLines_append {line : Nat} {nodes others : List Node} :
    IsOnLines line (nodes ++ others) ↔ IsOnLines line nodes ∧ IsOnLines (line + breaksAmong nodes) others := by
  induction nodes generalizing line with
  | nil => simp [IsOnLines, breaksAmong]
  | cons node nodes ih =>
    rw [List.cons_append, IsOnLines, IsOnLines, ih, and_assoc, breaksAmong_cons]
    split_ifs
    · rw [Nat.add_right_comm, Nat.add_assoc]
    · rfl

/-- The line of a piece is the number of breaks before it. -/
theorem Pieces.isOnLines {parent index : Nat} {cursor after : Option Cursor} {trees : List Tree} {indices : List Nat}
    {nodes : List Node} (h : Pieces lines parent index cursor trees indices nodes after) (hcursor : cursor = some place) :
    ∃ last, after = some last ∧ last.line = place.line + breaksAmong nodes ∧ IsOnLines place.line nodes := by
  -- a break takes the cursor to the next line; a word leaves it on its line, and a part does but for the breaks
  -- in it
  induction h generalizing place with
  | nil => exact ⟨place, hcursor, rfl, trivial⟩
  | line hkind _ ih =>
    subst hcursor
    obtain ⟨last, rfl, hlast, hlines⟩ := ih rfl
    refine ⟨last, rfl, ?_, ⟨_, rfl⟩, ?_⟩
    · rw [breaksAmong_cons, pieceOf_kind, if_pos hkind, hlast, Cursor.nextLine]
      dsimp only
      omega
    · rw [pieceOf_kind, if_pos hkind]
      exact hlines
  | word hkind hfinds _ ih =>
    subst hcursor
    obtain ⟨next, rfl, hnext⟩ := hfinds.exists_after
    obtain ⟨last, rfl, hlast, hlines⟩ := ih rfl
    refine ⟨last, rfl, ?_, ⟨_, rfl⟩, ?_⟩
    · rw [breaksAmong_cons, pieceOf_kind, if_neg (by simp [Kind.isBreak_of_isWord hkind]), hlast, hnext, Nat.add_zero]
    · rw [pieceOf_kind, if_neg (by simp [Kind.isBreak_of_isWord hkind]), ← hnext]
      exact hlines
  | part hkind _ hlinks _ ihbelow ih =>
    subst hcursor
    obtain ⟨inner, rfl, hinner, hbelow⟩ := ihbelow rfl
    obtain ⟨next, rfl, hnext⟩ := hlinks.exists_after
    obtain ⟨last, rfl, hlast, hlines⟩ := ih rfl
    have hbreak := (Bool.or_eq_false_iff.mp hkind).1
    refine ⟨last, rfl, ?_, ⟨_, rfl⟩, ?_⟩
    · rw [breaksAmong_cons, pieceOf_kind, if_neg (by simp [hbreak]), breaksAmong_append, hlast, hnext, hinner]
      omega
    · rw [pieceOf_kind, if_neg (by simp [hbreak]), isOnLines_append, ← hinner, ← hnext]
      exact ⟨hbelow, hlines⟩

/-! ### Words -/

/-- A node that is written, with all that is below it, before another. -/
def IsFinished (body : Body) (node other : Node) : Prop :=
  node.index < other.index ∧ ¬ body.IsBelow node.index other.index

/-- A word is looked for from where the cursor settles behind what is finished before it: the nodes `done`, and some
of `nodes`. -/
def IsSought (body : Body) (lines : Lines) (origin : Cursor) (done nodes : List Node) (node : Node) : Prop :=
  ∃ before after finished, node.lines = some (before.line, after.line) ∧
    Finds lines node.content (some before) node.span (some after) ∧ Settled lines origin finished before ∧
    ∀ other, other ∈ finished ↔ other ∈ done ∨ other ∈ nodes ∧ body.IsFinished other node

theorem IsSought.congr {nodes done' nodes' : List Node} (h : body.IsSought lines origin done nodes node)
    (hfinished : ∀ other, (other ∈ done ∨ other ∈ nodes ∧ body.IsFinished other node) ↔
      (other ∈ done' ∨ other ∈ nodes' ∧ body.IsFinished other node)) : body.IsSought lines origin done' nodes' node := by
  obtain ⟨before, after, finished, hlines, hfinds, hsettled, hiff⟩ := h
  exact ⟨before, after, finished, hlines, hfinds, hsettled, fun other => (hiff other).trans (hfinished other)⟩

section transfer

variable {first : Node} {below others indices : List Node}

/-- Of a node and what is below and behind it, nothing is finished before the node, the node is not finished before what
is below it, and it is, with all that is below it, before what is behind it. -/
theorem isFinished_iff (hbody : body.IsTree) {parent : Option Nat} {indices : List Nat}
    (hforest : Forest (some first.index) (first.index + 1) first.children below)
    (hothers : Forest parent (first.index + 1 + below.length) indices others)
    (hwritten : body.WrittenAt first.index (first :: below)) :
    (∀ other ∈ first :: (below ++ others), ¬ body.IsFinished other first) ∧
    (∀ node ∈ below, ∀ other ∈ first :: (below ++ others), body.IsFinished other node → other ∈ below) ∧
    ∀ node ∈ others, ∀ other ∈ first :: below, body.IsFinished other node := by
  -- a node is below the first one if and only if its index is in the run of the first one
  have hrun := hbody.isBelow_iff hwritten hforest
  rw [List.length_cons] at hrun
  have hbelow : ∀ node ∈ below, first.index < node.index ∧ node.index < first.index + (below.length + 1) := by
    intro node hnode
    have := hforest.index_mem hnode
    omega
  have hbehind : ∀ node ∈ others, first.index + (below.length + 1) ≤ node.index := by
    intro node hnode
    have := (hothers.index_mem hnode).1
    omega
  refine ⟨?_, fun node hnode => ?_, fun node hnode => ?_⟩
  · rintro other hother ⟨hlt, -⟩
    rcases List.mem_cons.mp hother with rfl | hother
    · omega
    · rcases List.mem_append.mp hother with hother | hother
      · have := hbelow other hother
        omega
      · have := hbehind other hother
        omega
  · rintro other hother ⟨hlt, hnot⟩
    obtain ⟨hle, hend⟩ := hbelow node hnode
    rcases List.mem_cons.mp hother with rfl | hother
    · exact absurd ((hrun _).mpr ⟨Nat.le_of_lt hle, hend⟩) hnot
    · rcases List.mem_append.mp hother with hother | hother
      · exact hother
      · have := hbehind other hother
        omega
  · intro other hother
    have hend := hbehind node hnode
    have hfirst : body.IsBelow first.index other.index ∧ other.index < node.index := by
      rcases List.mem_cons.mp hother with rfl | hother
      · exact ⟨.refl, by omega⟩
      · have := hbelow other hother
        exact ⟨(hrun _).mpr ⟨by omega, this.2⟩, by omega⟩
    refine ⟨hfirst.2, fun hnode => ?_⟩
    have := ((hrun _).mp (hfirst.1.trans hnode)).2
    omega

/-- Words are sought among a node, what is below it and what is behind it if they are sought in each part. -/
theorem isSought_cons (hbody : body.IsTree) {parent : Option Nat} {indices : List Nat}
    (hforest : Forest (some first.index) (first.index + 1) first.children below)
    (hothers : Forest parent (first.index + 1 + below.length) indices others)
    (hwritten : body.WrittenAt first.index (first :: (below ++ others)))
    (hfirst : first.kind.isWord → ∃ before after, first.lines = some (before.line, after.line) ∧
      Finds lines first.content (some before) first.span (some after) ∧ Settled lines origin done before)
    (hbelow : ∀ node ∈ below, node.kind.isWord → body.IsSought lines origin done below node)
    (hrest : ∀ node ∈ others, node.kind.isWord → body.IsSought lines origin (done ++ first :: below) others node) :
    ∀ node ∈ first :: (below ++ others), node.kind.isWord → body.IsSought lines origin done (first :: (below ++ others)) node := by
  rw [← List.cons_append] at hwritten
  obtain ⟨hnone, hinside, hbehind⟩ := isFinished_iff hbody hforest hothers hwritten.left
  intro node hnode hword
  rcases List.mem_cons.mp hnode with rfl | hnode
  · -- nothing is finished between what comes before the first node and the node itself
    obtain ⟨before, after, hlines, hfinds, hsettled⟩ := hfirst hword
    refine ⟨before, after, done, hlines, hfinds, hsettled, fun other => ⟨.inl, ?_⟩⟩
    rintro (hdone | ⟨hother, hfinished⟩)
    · exact hdone
    · exact absurd hfinished (hnone other hother)
  · rcases List.mem_append.mp hnode with hnode | hnode
    · -- of these nodes, only those below the first one are finished before one of them
      refine (hbelow node hnode hword).congr fun other => or_congr_right (and_congr_left fun hfinished => ?_)
      exact ⟨fun hother => List.mem_cons_of_mem _ (List.mem_append_left _ hother),
        fun hother => hinside node hnode other hother hfinished⟩
    · -- the first node and all below it are finished before those behind them
      refine (hrest node hnode hword).congr fun other => ?_
      rw [List.mem_append, or_assoc]
      refine or_congr_right ⟨?_, ?_⟩
      · rintro (hother | ⟨hother, hfinished⟩)
        · exact ⟨List.cons_append ▸ List.mem_append_left _ hother, hbehind node hnode other hother⟩
        · exact ⟨List.mem_cons_of_mem _ (List.mem_append_right _ hother), hfinished⟩
      · rintro ⟨hother, hfinished⟩
        rw [← List.cons_append, List.mem_append] at hother
        exact hother.imp_right fun hother => ⟨hother, hfinished⟩

end transfer

/-- The cursor settles before every word, and behind all pieces. -/
theorem Pieces.settles (hbody : body.IsTree) {parent index : Nat} {cursor after : Option Cursor} {trees : List Tree}
    {indices : List Nat} {nodes : List Node} (h : Pieces lines parent index cursor trees indices nodes after)
    (hwritten : body.WrittenAt index nodes) (hcursor : cursor = some place) (hdone : Settled lines origin done place) :
    (∃ last, after = some last ∧ Settled lines origin (done ++ nodes) last) ∧
      ∀ node ∈ nodes, node.kind.isWord → body.IsSought lines origin done nodes node := by
  induction h generalizing place done with
  | nil => exact ⟨⟨place, hcursor, by rwa [List.append_nil]⟩, by simp⟩
  | @line parent index _ _ element _ _ _ _ hkind hrest ih =>
    subst hcursor
    have hline := hdone.nextLine (pieceOf parent index (some place) (some place.nextLine) element [] none) rfl
    obtain ⟨⟨last, rfl, hlast⟩, hwords⟩ := ih hwritten.tail rfl hline
    refine ⟨⟨last, rfl, by rwa [List.append_assoc] at hlast⟩, ?_⟩
    refine isSought_cons hbody .nil hrest.forest hwritten (fun hword => ?_) (List.forall_mem_nil _) hwords
    rw [pieceOf_kind] at hword
    rw [Kind.isBreak_of_isWord hword] at hkind
    cases hkind
  | @word parent index _ _ _ element _ _ span _ _ hkind hfinds hrest ih =>
    subst hcursor
    obtain ⟨next, rfl, -⟩ := hfinds.exists_after
    have hword := hdone.finds (pieceOf parent index (some place) (some next) element [] span) hfinds
    obtain ⟨⟨last, rfl, hlast⟩, hwords⟩ := ih hwritten.tail rfl hword
    refine ⟨⟨last, rfl, by rwa [List.append_assoc] at hlast⟩, ?_⟩
    exact isSought_cons hbody .nil hrest.forest hwritten (fun _ => ⟨_, _, rfl, hfinds, hdone⟩) (List.forall_mem_nil _)
      hwords
  | @part parent index _ _ _ _ element _ _ span inside _ below _ hkind hbelow hlinks hrest ihbelow ih =>
    subst hcursor
    obtain ⟨⟨inner, rfl, hinner⟩, hinside⟩ := ihbelow hwritten.tail.left rfl hdone
    obtain ⟨next, rfl, -⟩ := hlinks.exists_after
    -- the node is written before what is below it, but its destination is looked for after that
    have hpart : Settled lines origin
        (done ++ pieceOf parent index (some place) (some next) element inside span :: below) next :=
      (hinner.links _ hlinks).congr fun other => by
        rw [List.append_assoc, List.mem_append, List.mem_append, List.mem_append, List.mem_singleton, List.mem_cons,
          or_comm (a := other ∈ below)]
    obtain ⟨⟨last, rfl, hlast⟩, hwords⟩ := ih hwritten.tail.right rfl hpart
    refine ⟨⟨last, rfl, by rwa [List.append_assoc] at hlast⟩, ?_⟩
    refine isSought_cons hbody hbelow.forest hrest.forest hwritten (fun hword => ?_) hinside hwords
    rw [pieceOf_kind] at hword
    rw [Kind.isPlain, hword, Bool.or_true] at hkind
    cases hkind

/-! ### Blocks of text -/

/-- The pieces below a node are written behind it, and the cursor goes over them from a place. -/
def HoldsPieces (body : Body) (lines : Lines) (block : Node) (start : Option Cursor) (pieces : List Node) : Prop :=
  body.WrittenAt block.index (block :: pieces) ∧
    ∃ trees after, Pieces lines block.index (block.index + 1) start trees block.children pieces after

/-- The cursor starts on the first line of a node. -/
def StartsAt (block : Node) (start : Option Cursor) : Prop :=
  ∀ first last, block.lines = some (first, last) → ∃ place, start = some place ∧ place.line = first

theorem Pieces.exists_holdsPieces {parent index : Nat} {cursor after : Option Cursor} {trees : List Tree}
    {indices : List Nat} {nodes : List Node} (h : Pieces lines parent index cursor trees indices nodes after)
    (hwritten : body.WrittenAt index nodes) (hnode : node ∈ nodes) (hkind : node.kind.isPlain = false) :
    ∃ start pieces, body.HoldsPieces lines node start pieces ∧ StartsAt node start := by
  -- of the pieces, only parts hold others
  induction h with
  | nil => cases hnode
  | line hbreak _ ih =>
    rcases List.mem_cons.mp hnode with rfl | hnode
    · rw [pieceOf_kind, Kind.isPlain, hbreak] at hkind
      cases hkind
    · exact ih hwritten.tail hnode
  | word hword _ _ ih =>
    rcases List.mem_cons.mp hnode with rfl | hnode
    · rw [pieceOf_kind, Kind.isPlain, hword, Bool.or_true] at hkind
      cases hkind
    · exact ih hwritten.tail hnode
  | @part _ _ cursor inner reached _ _ _ _ _ _ _ _ _ _ hbelow _ _ ihbelow ih =>
    rcases List.mem_cons.mp hnode with rfl | hnode
    · rw [← List.cons_append] at hwritten
      refine ⟨_, _, ⟨hwritten.left, _, _, hbelow⟩, fun first last hlines => ?_⟩
      obtain ⟨place, rfl, hplace⟩ := Option.bind_eq_some_iff.mp hlines
      obtain ⟨_, -, heq⟩ := Option.map_eq_some_iff.mp hplace
      exact ⟨place, rfl, (Prod.mk.inj heq).1⟩
    · rcases List.mem_append.mp hnode with hnode | hnode
      · exact ihbelow hwritten.tail.left hnode
      · exact ih hwritten.tail.right hnode

theorem startsAt_cursorOf (block : Node) : StartsAt block (cursorOf block.lines) := by
  intro first last hlines
  rw [hlines]
  exact ⟨_, rfl, rfl⟩

/-- Every block of text holds pieces. -/
theorem Placed.exists_holdsPieces {offset index : Nat} {parent : Option Nat} {inherited : Option (Nat × Nat)}
    {trees : List Tree} {indices : List Nat} {nodes : List Node}
    (h : Placed lines offset parent index inherited trees indices nodes) (hwritten : body.WrittenAt index nodes)
    (hnode : node ∈ nodes) (hkind : node.kind = .inline) :
    ∃ start pieces, body.HoldsPieces lines node start pieces ∧ StartsAt node start := by
  induction h with
  | nil => cases hnode
  | text _ hpieces _ _ ih =>
    rcases List.mem_cons.mp hnode with rfl | hnode
    · rw [← List.cons_append] at hwritten
      exact ⟨_, _, ⟨hwritten.left, _, _, hpieces⟩, startsAt_cursorOf _⟩
    · rcases List.mem_append.mp hnode with hnode | hnode
      · -- below a block of text there are only pieces
        exact hpieces.exists_holdsPieces hwritten.tail.left hnode (by rw [hkind]; rfl)
      · exact ih hwritten.tail.right hnode
  | block hother _ _ _ ihbelow ih =>
    rcases List.mem_cons.mp hnode with rfl | hnode
    · exact absurd hkind hother
    · rcases List.mem_append.mp hnode with hnode | hnode
      · exact ihbelow hwritten.tail.left hnode
      · exact ih hwritten.tail.right hnode

/-! ### What the spans hold -/

/-- The pieces of a block of text stand where they say. Each is on its line, the text of a word stands at its span, on
that line, and words stand one behind the other. -/
structure IsFaithful (lines : Lines) (first : Nat) (pieces : List Node) : Prop where
  line : ∀ before node after, pieces = before ++ node :: after →
    ∃ last, node.lines = some (first + breaksAmong before, last)
  stands : ∀ node ∈ pieces, node.kind.isWord → ∀ span, node.span = some span → ∃ line last row,
    node.lines = some (line, last) ∧ lines.row (line : Nat) = .ok row ∧ row.start ≤ span.start ∧
      span.start < span.stop ∧ span.stop ≤ row.span.stop ∧ lines.slice span.start span.stop = .ok node.content
  ordered : pieces.Pairwise fun node later => node.kind.isWord → later.kind.isWord →
    ∀ span next, node.span = some span → later.span = some next → span.stop ≤ next.start

theorem Pieces.children_eq_nil {parent index : Nat} {cursor after : Option Cursor} {trees : List Tree}
    {indices : List Nat} {nodes : List Node} (h : Pieces lines parent index cursor trees indices nodes after)
    (hnode : node ∈ nodes) (hword : node.kind.isWord) : node.children = [] := by
  induction h with
  | nil => cases hnode
  | line _ _ ih => exact (List.mem_cons.mp hnode).elim (fun heq => heq ▸ rfl) ih
  | word _ _ _ ih => exact (List.mem_cons.mp hnode).elim (fun heq => heq ▸ rfl) ih
  | part hkind _ _ _ ihbelow ih =>
    rcases List.mem_cons.mp hnode with rfl | hnode
    · rw [pieceOf_kind] at hword
      rw [Kind.isPlain, hword, Bool.or_true] at hkind
      cases hkind
    · exact (List.mem_append.mp hnode).elim ihbelow ih

theorem IsTree.eq_of_isBelow (h : body.IsTree) (hnode : node ∈ body.nodes) (hchildren : node.children = []) {other : Nat}
    (hbelow : body.IsBelow node.index other) : other = node.index := by
  rcases hbelow.cases_head with heq | ⟨child, hchild, -⟩
  · exact heq.symm
  · have hmem := (h.mem_children_iff hnode).mpr hchild
    rw [hchildren] at hmem
    cases hmem

theorem WrittenAt.mem {index : Nat} {nodes : List Node} (h : body.WrittenAt index nodes) (hnode : node ∈ nodes) :
    node ∈ body.nodes :=
  Array.mem_toList_iff.mp (List.mem_of_mem_drop (List.IsPrefix.mem hnode h))

/-- A word that is found stands on the line of the cursor, not before it. -/
theorem Finds.exists_spans {content : String} {before after : Cursor} {span : Span}
    (h : Finds lines content (some before) (some span) (some after)) : content ≠ "" ∧ ∃ start,
      before.IsBefore start ∧ start.line = before.line ∧ Spans lines start after span := by
  cases h with
  | found hempty hfound =>
    obtain ⟨start, hle, -, hspans⟩ := exists_spans_of_locate? hfound
    exact ⟨hempty, ⟨_, start⟩, .inr ⟨rfl, hle⟩, rfl, hspans⟩

theorem HoldsPieces.isFaithful (hbody : body.IsTree) {block : Node} {start : Option Cursor} {pieces : List Node}
    (h : body.HoldsPieces lines block start pieces) (hstart : start = some place) :
    IsFaithful lines place.line pieces := by
  obtain ⟨hwritten, trees, after, hpieces⟩ := h
  subst hstart
  obtain ⟨-, -, -, hlines⟩ := hpieces.isOnLines rfl
  obtain ⟨-, hsought⟩ := hpieces.settles hbody hwritten.tail rfl (settled_nil place)
  refine ⟨?_, ?_, ?_⟩
  · rintro before node behind rfl
    exact (isOnLines_append.mp hlines).2.1
  · intro node hnode hword span hspan
    obtain ⟨before, after, -, hat, hfinds, -⟩ := hsought node hnode hword
    rw [hspan] at hfinds
    obtain ⟨hempty, start, -, hline, hspans⟩ := hfinds.exists_spans
    obtain ⟨row, hrow, hle, hstop⟩ := hspans.bounds
    have hcontent : node.content.toList ≠ [] := by rwa [Ne, String.toList_eq_nil_iff]
    exact ⟨before.line, after.line, row, hat, hline ▸ hrow, hle, hfinds.covers.lt hcontent, hstop,
      hfinds.covers.slice_eq⟩
  · have hindex : pieces.Pairwise fun node later => node.index < later.index := by
      rw [← List.pairwise_map, hpieces.forest.map_index]
      exact List.pairwise_lt_range'
    refine hindex.imp_of_mem fun {node later} hnode hlater hlt hword hnext span next hspan hother => ?_
    obtain ⟨before, after, finished, -, hfinds, hsettled, hfinished⟩ := hsought later hlater hnext
    rw [hother] at hfinds
    obtain ⟨-, start, hbefore, -, hspans⟩ := hfinds.exists_spans
    -- a word has nothing below it, so it is finished before any piece behind it
    have hdone : node ∈ finished := by
      refine (hfinished node).mpr (.inr ⟨hnode, hlt, fun hbelow => ?_⟩)
      have hsame := hbody.eq_of_isBelow (hwritten.tail.mem hnode) (hpieces.children_eq_nil hnode hword) hbelow
      omega
    obtain ⟨first, stop, hearlier, hstop⟩ := hsettled.behind node hdone span hspan
    exact hearlier.stop_le hspans (hstop.trans hbefore)

/-- The words of every block of text whose first line is known stand on their lines, one behind the other, and the span
of every link and image holds its destination. -/
theorem pieces_faithful {firstLine : Nat} {tree : Tree} (h : ofTree lines firstLine tree = .ok body) :
    (∀ block ∈ body.nodes, block.kind = .inline → ∀ first last, block.lines = some (first, last) →
      ∃ pieces, body.descendants block.index = block :: pieces ∧ IsFaithful lines first pieces) ∧
    ∀ node ∈ body.nodes, ∀ destination span, node.destination? = some destination → node.span = some span →
      lines.slice span.start span.stop = .ok destination := by
  have htree := isTree_of_ofTree h
  refine ⟨fun block hblock hkind first last hlines => ?_, fun node hnode destination span hdestination hspan => ?_⟩
  · obtain ⟨start, pieces, hholds, hstart⟩ := (placed_of_ofTree h).exists_holdsPieces List.prefix_rfl
      (Array.mem_toList_iff.mpr hblock) hkind
    obtain ⟨place, hplace, rfl⟩ := hstart first last hlines
    refine ⟨pieces, ?_, hholds.isFaithful htree hplace⟩
    obtain ⟨hwritten, trees, after, hpieces⟩ := hholds
    refine (Visits.below hwritten.head (hpieces.forest.visits hwritten.tail)).descendants_eq ?_
    have := hwritten.le_size (List.cons_ne_nil _ _)
    omega
  · obtain ⟨-, _, _, row, -, hrow, hholds⟩ := isPinned_of_ofTree h hnode destination span hdestination hspan
    exact (hholds.covers hrow).slice_eq

/-- Two lines of a paragraph with a link and some code in them. -/
theorem pieces_faithful_link :
    ∃ body block link, ofTree (Lines.ofString "a [b](c)\n`d`") 1 (Tree.ofMarkdown "a [b](c)\n`d`") = .ok body ∧
      body.nodes[2]? = some block ∧ block.kind = .inline ∧ block.lines = some (1, 2) ∧ body.nodes[4]? = some link ∧
      (∃ pieces, body.descendants block.index = block :: pieces ∧
        IsFaithful (Lines.ofString "a [b](c)\n`d`") 1 pieces) ∧
      link.span = some ⟨6, 7⟩ ∧ (Lines.ofString "a [b](c)\n`d`").slice 6 7 = .ok "c" := by
  have hblock : (ofTree (Lines.ofString "a [b](c)\n`d`") 1 (Tree.ofMarkdown "a [b](c)\n`d`")).map
      (·.nodes[2]?.map fun block => (block.kind, block.lines)) = .ok (some (.inline, some (1, 2))) := by
    decide +kernel
  have hlink : (ofTree (Lines.ofString "a [b](c)\n`d`") 1 (Tree.ofMarkdown "a [b](c)\n`d`")).map
      (·.nodes[4]?.map fun link => (link.destination?, link.span)) = .ok (some (some "c", some ⟨6, 7⟩)) := by
    decide +kernel
  obtain ⟨body, hbody, hblock⟩ := exists_of_map_eq_ok hblock
  rw [hbody] at hlink
  replace hlink := Except.ok.inj hlink
  obtain ⟨block, hat, hblock⟩ := Option.map_eq_some_iff.mp hblock
  obtain ⟨link, hlinkAt, hlink⟩ := Option.map_eq_some_iff.mp hlink
  obtain ⟨hkind, hlines⟩ := Prod.mk.inj hblock
  obtain ⟨hdestination, hspan⟩ := Prod.mk.inj hlink
  -- what is known of all nodes is taken for the two whose places have been computed
  obtain ⟨hfaithful, hholds⟩ := pieces_faithful hbody
  exact ⟨body, block, link, hbody, hat, hkind, hlines, hlinkAt,
    hfaithful block (Array.mem_of_getElem? hat) hkind 1 2 hlines, hspan,
    hholds link (Array.mem_of_getElem? hlinkAt) "c" _ hdestination hspan⟩

end Body

end ProposalCheck
