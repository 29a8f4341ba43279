import Mathlib.Data.List.Forall2
import Mathlib.Data.List.Induction
import ProposalCheck.Proofs.Lint.Delivery

/-!
# The severities that a run delivers

What a rule finds may leave severities open. Those are settled with the default severity for the document, which the
last change tells that concerns the document, and with the level of the rule, which may lower them to warnings. Nothing
else counts: the settings of one document do not depend on the documents before it.

## Main definitions

* `SeverityModifier.Concerns`: the documents that a change concerns
* `SeverityModifier.defaultFor`: the default severity for a document
* `Level.settle`: the severity of an annotation of a rule at some level
* `Snippet.IsSettled`: a finding with its rule's name and all severities settled
* `Linter.pairs`: each document of a run with each rule that looks at it

## Main results

* `SeverityModifier.foldl_apply`: the settings after several changes
* `Snippet.isSettled_resolve`: settling one finding
* `Linter.run_settles`: a run delivers the findings of its pairs, each settled by rule, document and level alone
-/

namespace ProposalCheck

variable {ρ μ σ ε : Type}

/-! ### The default severity for a document -/

namespace SeverityModifier

variable {modifier : SeverityModifier} {modifiers : List SeverityModifier} {preamble : Preamble}

/-- The first header with the name of the change has its value, apart from blanks around it. -/
def Concerns (modifier : SeverityModifier) (preamble : Preamble) : Prop :=
  ∃ before field after, preamble.fields = before ++ field :: after ∧
    (∀ earlier ∈ before, earlier.name ≠ modifier.name) ∧ field.name = modifier.name ∧
    trim field.value = modifier.value

theorem isFor_iff : modifier.isFor preamble ↔ modifier.Concerns preamble := by
  rw [isFor, Option.any_eq_true]
  constructor
  · rintro ⟨field, hfind, htrimmed⟩
    obtain ⟨hname, before, after, hfields, hbefore⟩ := List.find?_eq_some_iff_append.mp hfind
    exact ⟨before, field, after, hfields, fun earlier hearlier => by simpa using hbefore earlier hearlier,
      of_decide_eq_true hname, of_decide_eq_true htrimmed⟩
  · rintro ⟨before, field, after, hfields, hbefore, hname, htrimmed⟩
    refine ⟨field, List.find?_eq_some_iff_append.mpr ⟨decide_eq_true hname, before, after, hfields, ?_⟩,
      decide_eq_true htrimmed⟩
    exact fun earlier hearlier => by simpa using hbefore earlier hearlier

instance : Decidable (modifier.Concerns preamble) := decidable_of_iff _ isFor_iff

/-- The severity that the last change tells which concerns a document, and `error` if none does. -/
def defaultFor (modifiers : List SeverityModifier) (preamble : Preamble) : Severity :=
  (modifiers.filter (·.Concerns preamble)).getLast?.elim .error (·.severity)

/-- One more change decides if it concerns the document, and is passed over if it does not. -/
theorem defaultFor_concat (modifiers : List SeverityModifier) (modifier : SeverityModifier) (preamble : Preamble) :
    defaultFor (modifiers ++ [modifier]) preamble =
      if modifier.Concerns preamble then modifier.severity else defaultFor modifiers preamble := by
  rw [defaultFor, List.filter_append, List.filter_singleton]
  split_ifs with hconcerns <;> simp [hconcerns, defaultFor]

/-- The settings after several changes, which started with `error` as the default. -/
theorem foldl_apply (modifiers : List SeverityModifier) (preamble : Preamble) (foldThreshold : Int) :
    modifiers.foldl (fun settings modifier => modifier.apply preamble settings) ⟨.error, foldThreshold⟩ =
      ⟨defaultFor modifiers preamble, foldThreshold⟩ := by
  induction modifiers using List.reverseRecOn with
  | nil => rfl
  | append_singleton modifiers modifier ih =>
    rw [List.foldl_concat, ih, apply, defaultFor_concat]
    simp only [isFor_iff]
    split_ifs <;> rfl

end SeverityModifier

/-! ### Settling one finding -/

/-- The severity of an annotation of a rule at some level: its own, or the default. A rule that is to warn has none
above a warning. -/
def Level.settle (level : Level) (default : Severity) (own : Option Severity) : Severity :=
  let chosen := own.getD default
  if level = .warn ∧ Severity.warning.weight < chosen.weight then .warning else chosen

theorem Level.resolve_ceiling (level : Level) (default : Severity) (own : Option Severity) :
    Severity.resolve own default level.ceiling = level.settle default own := by
  cases level <;> simp [settle, Severity.resolve, ceiling, Severity.cap]

namespace Snippet

/-- A finding as it is delivered: with an id of its own or else the name of its rule, and with a severity for the title,
each note and each mark. Everything else is as the rule has it. -/
structure IsSettled (settle : Option Severity → Severity) (slug : String) (found settled : Snippet) : Prop where
  id_of_own : ∀ id, found.title.id = some id → id ≠ "" → settled.title.id = some id
  id_of_none : (∀ id, found.title.id = some id → id = "") → settled.title.id = some slug
  label : settled.title.label = found.title.label
  severity : settled.title.severity = some (settle found.title.severity)
  footer : settled.footer = found.footer.map fun note => { note with severity := some (settle note.severity) }
  excerpts : settled.excerpts = found.excerpts.map fun excerpt => { excerpt with
    marks := excerpt.marks.map fun mark => { mark with severity := some (settle mark.severity) } }

theorem isSettled_resolve (snippet : Snippet) (slug : String) (default : Severity) (level : Level) :
    IsSettled (level.settle default) slug snippet (snippet.resolve slug default level.ceiling) where
  id_of_own id hid hne := by simp [resolve, hid, hne]
  id_of_none hnone := by
    cases hid : snippet.title.id with
    | none => simp [resolve, hid]
    | some id => simp [resolve, hid, hnone id hid]
  label := rfl
  severity := congrArg some (level.resolve_ceiling default _)
  footer := by simp only [resolve, Note.resolve, level.resolve_ceiling]
  excerpts := by simp only [resolve, Excerpt.resolve, Mark.resolve, level.resolve_ceiling]

end Snippet

/-! ### What a run looks at -/

namespace Visit

/-- Visits deliver what comes of the first of them, up to one that fails. -/
theorem exists_delivered {α : Type} (visit : α → Visit ε) (pairs : List (Except (RunError ε) α)) :
    let visits := pairs.map (·.bind visit)
    ∃ seen : List α, seen.map .ok <+: pairs ∧
      List.Forall₂ (fun pair found => visit pair = .ok found) seen (delivered visits) ∧
      (visits = (delivered visits).map .ok → pairs = seen.map .ok) := by
  intro visits
  induction pairs with
  | nil => exact ⟨[], List.prefix_rfl, .nil, fun _ => rfl⟩
  | cons pair rest ih =>
    rcases pair with error | pair
    · exact ⟨[], List.nil_prefix, .nil, fun hall => nomatch hall⟩
    · -- a visit that fails is the last one that is seen, and it delivers nothing
      cases hvisit : visit pair with
      | error error =>
        have hvisits : visits = .error error :: rest.map (·.bind visit) := congrArg (· :: _) hvisit
        rw [hvisits]
        exact ⟨[], List.nil_prefix, .nil, fun hall => nomatch hall⟩
      | ok found =>
        have hvisits : visits = .ok found :: rest.map (·.bind visit) := congrArg (· :: _) hvisit
        obtain ⟨seen, hfront, hfound, hall⟩ := ih
        rw [hvisits]
        refine ⟨pair :: seen, (List.prefix_cons_inj _).mpr hfront, .cons hvisit hfound, fun heq => ?_⟩
        rw [hall (List.cons.inj heq).2, List.map_cons]

end Visit

namespace Linter

/-- Each document of a run with each rule that looks at it, in order. A document that cannot be read leaves its error. -/
def pairs [Modifier μ] (linter : Linter ρ μ) : List (Except (RunError ε) (Document × String × ρ)) :=
  linter.queue.flatMap fun queued => match (readQueued queued).answer linter.answers with
    | .error error => [.error error]
    | .ok document => (linter.rules.filter fun entry => linter.level entry.1 ≠ .allow).map fun entry =>
        .ok (document, entry)

theorem visits_eq_map [Modifier μ] (check : Checker ρ) (linter : Linter ρ μ) :
    (linter.visits check : List (Visit ε)) =
      linter.pairs.map (·.bind fun pair => linter.visit check pair.1 pair.2.1 pair.2.2) := by
  rw [visits, pairs, List.map_flatMap]
  refine List.flatMap_congr fun queued _ => ?_
  rw [visitsTo]
  cases (readQueued queued).answer linter.answers with
  | error error => rfl
  | ok document => simp [Except.bind, Function.comp_def]

/-- What is delivered of a pair of a document and a rule: what the rule finds with the default severity for that document,
settled under the level of the rule. -/
def Settles (check : Checker ρ) (linter : Linter ρ) (pair : Document × String × ρ) (delivered : List Snippet) : Prop :=
  let (document, slug, rule) := pair
  let default := SeverityModifier.defaultFor linter.modifiers document.preamble
  ∃ found, (check rule ⟨document, ⟨default, linter.foldThreshold⟩⟩).run.answer linter.answers = .ok found ∧
    List.Forall₂ (Snippet.IsSettled ((linter.level slug).settle default) slug) found delivered

theorem settledSettings_eq (linter : Linter ρ) (document : Document) : linter.settledSettings document =
    ⟨SeverityModifier.defaultFor linter.modifiers document.preamble, linter.foldThreshold⟩ :=
  SeverityModifier.foldl_apply _ _ _

/-- A visit that does not fail delivers what belongs to its pair. -/
theorem settles_of_visit {check : Checker ρ} {linter : Linter ρ} {pair : Document × String × ρ}
    {delivered : String × List Snippet}
    (h : (linter.visit check pair.1 pair.2.1 pair.2.2 : Visit ε) = .ok delivered) :
    linter.Settles check pair delivered.2 := by
  obtain ⟨document, slug, rule⟩ := pair
  cases hreports : linter.reports check document rule with
  | error error =>
    rw [visit_of_error hreports] at h
    cases h
  | ok found =>
    rw [visit_of_ok hreports] at h
    obtain rfl := Except.ok.inj h
    rw [reports, settledSettings_eq] at hreports
    refine ⟨found, hreports, ?_⟩
    rw [settle, settledSettings_eq, List.forall₂_map_right_iff, List.forall₂_same]
    exact fun snippet _ => snippet.isSettled_resolve slug _ _

/-- A run delivers, in order, the findings of its pairs of a document and a rule, or the first of them if it ends early.
Each is settled by the rule, the document and the level of the rule. -/
theorem run_settles (check : Checker ρ) (reporter : Reporter σ ε) {linter : Linter ρ} (hopen : linter.isOpen)
    (state : σ) :
    ∃ (outcome : Outcome ρ σ ε) (seen : List (Document × String × ρ)) (findings : List (List Snippet))
      (delivered : List Snippet),
      linter.run check reporter state = .ok outcome ∧ outcome.state = reporter.receive state delivered ∧
      seen.map .ok <+: (linter.pairs : List (Except (RunError ε) (Document × String × ρ))) ∧
      List.Forall₂ (linter.Settles check) seen findings ∧ delivered <+: findings.flatten ∧
      (outcome.error = none →
        (linter.pairs : List (Except (RunError ε) (Document × String × ρ))) = seen.map .ok ∧
          delivered = findings.flatten) := by
  obtain ⟨outcome, hrun, -, hfed⟩ := run_feeds check reporter hopen state
  obtain ⟨hstate, herror⟩ := Prod.mk.inj hfed
  obtain ⟨delivered, hfront, hreceive, hall⟩ := reporter.feed_spec (linter.visits check) state
  rw [← herror] at hall
  -- a visit is that of a pair, so what the visits deliver is what comes of the first pairs
  rw [visits_eq_map, List.flatMap_def] at hfront hall
  obtain ⟨seen, hseen, hfound, hpairs⟩ := Visit.exists_delivered
    (fun pair => (linter.visit check pair.1 pair.2.1 pair.2.2 : Visit ε)) linter.pairs
  refine ⟨outcome, seen, (Visit.delivered _).map (·.2), delivered, hrun, hstate.trans hreceive, hseen, ?_, hfront,
    fun hnone => ⟨hpairs (hall hnone).1, (hall hnone).2⟩⟩
  exact List.forall₂_map_right_iff.mpr (hfound.imp fun pair found => settles_of_visit)

/-- Two documents, of which the first is judged by the last change that concerns it and the second by none. The rule
sets no severities of its own. -/
theorem run_settles_stagnant :
    let linter : Linter Rule := {
      rules := [("required", .required ⟨["eip"]⟩)]
      modifiers := [⟨"status", "Stagnant", .help⟩, ⟨"status", "Stagnant", .info⟩, ⟨"status", "Withdrawn", .help⟩]
      source := fun _ => .refused "not found"
      levels := [("required", .warn)]
      queue := [.text "---\nstatus:  Stagnant\n---\n" none, .text "---\nstatus: Draft\n---\n" none] }
    let reporter : Reporter (List Note) Empty := ⟨fun kept snippet => (kept ++ [snippet.title], none)⟩
    ∃ outcome seen findings, linter.run Rule.check reporter [] = .ok outcome ∧
      outcome.state = [⟨"preamble is missing header(s): `eip`", some .info, some "required"⟩,
        ⟨"preamble is missing header(s): `eip`", some .warning, some "required"⟩] ∧
      List.Forall₂ (linter.Settles Rule.check) seen findings ∧
      outcome.state = reporter.receive [] findings.flatten := by
  intro linter reporter
  have hrun : (linter.run Rule.check reporter []).map (fun outcome => (outcome.state, outcome.error.isNone)) =
      .ok ([⟨"preamble is missing header(s): `eip`", some .info, some "required"⟩,
        ⟨"preamble is missing header(s): `eip`", some .warning, some "required"⟩], true) := by decide +kernel
  -- no report fails, so what is delivered are all the findings
  obtain ⟨outcome, seen, findings, delivered, houtcome, hstate, -, hsettles, -, hall⟩ :=
    run_settles Rule.check reporter (show linter.isOpen by rfl) []
  rw [houtcome] at hrun
  obtain ⟨htitles, hnone⟩ := Prod.mk.inj (Except.ok.inj hrun)
  obtain ⟨-, rfl⟩ := hall (Option.isNone_iff_eq_none.mp hnone)
  exact ⟨outcome, seen, findings, houtcome, htitles, hsettles, hstate⟩

end Linter

end ProposalCheck
