import ProposalCheck.Lint.Modifier
import ProposalCheck.Rule.Basic

/-!
# Headers that rules look up

A rule about the value of a header asks for the first field with some name. Besides these fields it sees their
lines and the origin of the document, and nothing else of it. So it does the same in two documents that agree on
them: it asks for the same other documents and finds the same.

## Main definitions

* `Rule.headers`: the headers that a rule looks up
* `Context.Agrees`: two documents that agree on some headers

## Main results

* `Context.Agrees.marksFinding`, `Context.Agrees.valueFinding`: findings about a field are the same
* `Rule.check_congr`: rules about the preamble do the same where the documents agree on their headers
* `SeverityModifier.modify_congr`: changes of the default severity are the same
-/

namespace ProposalCheck

/-- The headers that a rule looks up. Rules that look at all fields alike look up none. -/
def Rule.headers : Rule → List String
  | .author rule => [rule.name]
  | .date rule => [rule.name]
  | .fileName rule => [rule.name]
  | .length rule => [rule.name]
  | .list rule => [rule.name]
  | .oneOf rule => [rule.name]
  | .valueReference rule => [rule.name]
  | .valuePattern rule => [rule.name]
  | .requireReferenced rule => [rule.name, rule.requires]
  | .requiredIf rule => [rule.trigger, rule.dependent]
  | .requiresStatus rule => [rule.status, rule.requires]
  | .uint rule => [rule.name]
  | .uintList rule => [rule.name]
  | .address rule => [rule.name]
  | .linkStatus rule => [rule.status]
  | _ => []

/-- Two documents agree on some headers: whoever looks one of them up finds the same field, and the same text on
its line. They have the same origin. -/
structure Context.Agrees (context other : Context) (names : List String) : Prop where
  origin : context.document.origin = other.document.origin
  find : ∀ name ∈ names, context.preamble.find? name = other.preamble.find? name
  line : ∀ name ∈ names, ∀ field, context.preamble.find? name = some field →
    context.lines.line field.line = other.lines.line field.line

namespace Context.Agrees

variable {context other : Context} {names : List String} {name : String} {field : Field}

theorem head (h : context.Agrees other (name :: names)) :
    context.preamble.find? name = other.preamble.find? name := h.find name List.mem_cons_self

theorem head_line (h : context.Agrees other (name :: names)) (hfield : context.preamble.find? name = some field) :
    context.lines.line field.line = other.lines.line field.line := h.line name List.mem_cons_self field hfield

theorem tail (h : context.Agrees other (name :: names)) : context.Agrees other names where
  origin := h.origin
  find other hother := h.find other (List.mem_cons_of_mem _ hother)
  line other hother := h.line other (List.mem_cons_of_mem _ hother)

theorem resolve (h : context.Agrees other names) : context.resolve = other.resolve := by
  funext path
  rw [Context.resolve, Context.resolve, h.origin]

/-! ### Findings about a field -/

theorem fieldExcerpt (h : context.Agrees other names)
    (hline : context.lines.line field.line = other.lines.line field.line) (marks : List Mark) :
    context.fieldExcerpt field marks = other.fieldExcerpt field marks := by
  rw [Context.fieldExcerpt, Context.fieldExcerpt, lineExcerpt, lineExcerpt, hline, h.origin]

theorem valueFinding (h : context.Agrees other names)
    (hline : context.lines.line field.line = other.lines.line field.line) (title label : String)
    (footer : List Note) : ProposalCheck.valueFinding context field title label footer =
      ProposalCheck.valueFinding other field title label footer := by
  rw [ProposalCheck.valueFinding, ProposalCheck.valueFinding, h.fieldExcerpt hline]

theorem marksFinding (h : context.Agrees other names)
    (hline : context.lines.line field.line = other.lines.line field.line) (title : String) (marks : List Mark)
    (footer : List Note) : ProposalCheck.marksFinding context field title marks footer =
      ProposalCheck.marksFinding other field title marks footer := by
  rw [ProposalCheck.marksFinding, ProposalCheck.marksFinding, h.fieldExcerpt hline]

/-- A rule about the first field with a name does the same for the same field. -/
theorem ofField {α : Type} {none : α} {f g : Field → α} (h : context.Agrees other (name :: names))
    (hsame : ∀ field, context.lines.line field.line = other.lines.line field.line → f field = g field) :
    (match context.preamble.find? name with
      | .none => none
      | some field => f field) =
    (match other.preamble.find? name with
      | .none => none
      | some field => g field) := by
  rw [← h.head]
  cases hfind : context.preamble.find? name with
  | none => rfl
  | some field => exact hsame field (h.head_line hfind)

end Context.Agrees

/-! ### Rules -/

variable {context other : Context}

theorem DateRule.check_congr (rule : DateRule) (h : context.Agrees other [rule.name]) :
    rule.check context = rule.check other :=
  h.ofField fun field hline => by rw [h.valueFinding hline]

theorem LengthRule.check_congr (rule : LengthRule) (h : context.Agrees other [rule.name]) :
    rule.check context = rule.check other :=
  h.ofField fun field hline => by simp only [h.valueFinding hline]

theorem OneOfRule.check_congr (rule : OneOfRule) (h : context.Agrees other [rule.name]) :
    rule.check context = rule.check other :=
  h.ofField fun field hline => by simp only [h.valueFinding hline]

theorem UintRule.check_congr (rule : UintRule) (h : context.Agrees other [rule.name]) :
    rule.check context = rule.check other :=
  h.ofField fun field hline => by rw [h.valueFinding hline]

theorem UintListRule.check_congr (rule : UintListRule) (h : context.Agrees other [rule.name]) :
    rule.check context = rule.check other :=
  h.ofField fun field hline => by rw [h.marksFinding hline]

theorem ListRule.check_congr (rule : ListRule) (h : context.Agrees other [rule.name]) :
    rule.check context = rule.check other :=
  h.ofField fun field hline => by simp only [h.marksFinding hline]

theorem AuthorRule.check_congr (rule : AuthorRule) (h : context.Agrees other [rule.name]) :
    rule.check context = rule.check other :=
  h.ofField fun field hline => by simp only [h.marksFinding hline, h.valueFinding hline]

theorem ValuePatternRule.check_congr (rule : ValuePatternRule) (h : context.Agrees other [rule.name]) :
    rule.check context = rule.check other :=
  h.ofField fun field hline => by simp only [h.marksFinding hline]

theorem AddressRule.check_congr (rule : AddressRule) (h : context.Agrees other [rule.name]) :
    rule.check context = rule.check other :=
  h.ofField fun field hline => by simp only [h.valueFinding hline]

theorem FileNameRule.check_congr (rule : FileNameRule) (h : context.Agrees other [rule.name]) :
    rule.check context = rule.check other := by
  rw [check, check, ← h.head, ← h.origin]
  cases context.document.origin with
  | none => rfl
  | some origin =>
    cases hfind : context.preamble.find? rule.name with
    | none => rfl
    | some field => simp only [h.valueFinding (h.head_line hfind)]

theorem RequireReferencedRule.check_congr (rule : RequireReferencedRule)
    (h : context.Agrees other [rule.name, rule.requires]) : rule.check context = rule.check other :=
  h.ofField fun field hline => by simp only [h.marksFinding hline, h.tail.head]

theorem RequiredIfRule.check_congr (rule : RequiredIfRule)
    (h : context.Agrees other [rule.trigger, rule.dependent]) : rule.check context = rule.check other := by
  rw [check, check, ← h.head, ← h.tail.head]
  cases htrigger : (context.preamble.find? rule.trigger).filter (·.trimmed = rule.value) with
  | none =>
    cases hdependent : context.preamble.find? rule.dependent with
    | none => rfl
    | some field =>
      dsimp only
      rw [nameExcerpt, nameExcerpt, h.fieldExcerpt (h.tail.head_line hdependent)]
  | some field =>
    cases context.preamble.find? rule.dependent with
    | none => exact h.valueFinding (h.head_line (Option.filter_eq_some_iff.mp htrigger).1) _ _ _
    | some _ => rfl

theorem ValueReferenceRule.check_congr (rule : ValueReferenceRule) (h : context.Agrees other [rule.name]) :
    rule.check context = rule.check other := by
  have hpath : rule.path context = rule.path other := by
    funext number
    rw [path, path, h.resolve]
  refine h.ofField fun field hline => ?_
  simp only [mark?, hpath, h.marksFinding hline]

theorem RequiresStatusRule.check_congr (rule : RequiresStatusRule)
    (h : context.Agrees other [rule.status, rule.requires]) : rule.check context = rule.check other := by
  rw [check, check, ← h.head, ← h.tail.head]
  cases (context.preamble.find? rule.status).filter fun field => (flowOf rule.flow).contains field.trimmed with
  | none => rfl
  | some own =>
    cases hfield : context.preamble.find? rule.requires with
    | none => rfl
    | some field =>
      have hfinding : rule.itemFinding context field = rule.itemFinding other field := by
        funext current item target
        simp only [itemFinding, h.fieldExcerpt (h.tail.head_line hfield)]
      simp only [h.resolve, hfinding]

/-- A rule about the preamble that looks up headers does the same in two documents that agree on them. -/
theorem Rule.check_congr {rule : Rule} (hheaders : rule.headers ≠ []) (hkind : rule.kind ≠ "markdown-link-status")
    (h : context.Agrees other rule.headers) : rule.check context = rule.check other := by
  cases rule with
  | author rule => exact congrArg ofFinding (rule.check_congr h)
  | date rule => exact congrArg ofFinding (rule.check_congr h)
  | fileName rule => exact congrArg ofFinding (rule.check_congr h)
  | length rule => exact congrArg ofFinding (rule.check_congr h)
  | list rule => exact congrArg ofFinding (rule.check_congr h)
  | oneOf rule => exact congrArg ofFinding (rule.check_congr h)
  | valueReference rule => exact rule.check_congr h
  | valuePattern rule => exact congrArg ofFinding (rule.check_congr h)
  | requireReferenced rule => exact congrArg ofFinding (rule.check_congr h)
  | requiredIf rule => exact congrArg ofFinding (rule.check_congr h)
  | requiresStatus rule => exact rule.check_congr h
  | uint rule => exact congrArg ofFinding (rule.check_congr h)
  | uintList rule => exact congrArg ofFinding (rule.check_congr h)
  | address rule => exact congrArg ofFinding (rule.check_congr h)
  | linkStatus rule => exact absurd rfl hkind
  | _ => exact absurd rfl hheaders

/-- A change of the default severity is the same in two documents where a lookup finds the same. -/
theorem SeverityModifier.modify_congr {modifier : SeverityModifier}
    (h : context.preamble.find? modifier.name = other.preamble.find? modifier.name) (settings : LintSettings) :
    Modifier.modify modifier context settings = Modifier.modify modifier other settings := by
  change modifier.apply _ settings = modifier.apply _ settings
  rw [apply, apply, isFor, isFor, h]

end ProposalCheck
