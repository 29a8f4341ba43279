import ProposalCheck.Proofs.Rule.Body
import ProposalCheck.Proofs.Rule.Destination
import ProposalCheck.Proofs.Rule.Header
import ProposalCheck.Proofs.Rule.Status
import ProposalCheck.Rule.Basic

/-!
# Rules give valid findings

A rule that asks for other proposals goes on whatever it gets, as long as every text can be read or is refused for
its structure. What it marks is part of its own document. So no rule looks for a place that there is not, and none
marks bytes that its excerpt does not have.

## Main results

* `Check.gives_all`: checks side by side
* `Rule.check_valid`: rules give valid findings
-/

namespace ProposalCheck

variable {context : Context}

/-! ### Rules that ask for other proposals -/

section Asking

variable {answers : String → FetchAnswer}

/-- What a check asks for first, it asks for. -/
theorem Check.mem_asked_bind {α β : Type} {check : Check α} {path : String} (h : path ∈ check.asked answers)
    (f : α → Check β) : path ∈ (check >>= f).asked answers := by
  rw [asked_bind]
  exact List.mem_append_left _ h

theorem Check.mem_asked_all {α : Type} {check : Check α} {checks : List (Check α)} {path : String}
    (hcheck : check ∈ checks) (h : path ∈ check.asked answers) : path ∈ (all checks).asked answers := by
  rw [asked_all]
  exact List.mem_flatMap.mpr ⟨check, hcheck, h⟩

/-- Checks side by side give what each of them gives. -/
theorem Check.gives_all {α : Type} {p : α → Prop} {checks : List (Check α)}
    (h : ∀ check ∈ checks, Gives p (check.found answers)) : Gives (∀ result ∈ ·, p result) ((all checks).found answers) := by
  rw [found_all]
  exact Gives.mapM h

/-- What can be read has a status or has none. -/
theorem TargetStatus.gives_fetch {path : String} (h : IsReadable path (answers path)) (name : String) :
    Gives (fun _ => True) ((fetch path name).found answers) := by
  rw [RequiresStatusRule.found_fetch]
  rcases ofAnswer_cases name h with ⟨_, -, htarget⟩ | ⟨-, _, htarget⟩
  · exact ⟨_, htarget, trivial⟩
  · exact ⟨_, htarget, trivial⟩

theorem ValueReferenceRule.gives_found (rule : ValueReferenceRule) (h : context.IsPlaced) :
    GivesValid ((rule.check context).found answers) := by
  rw [check]
  cases hfind : context.preamble.find? rule.name with
  | none => exact .nil
  | some field =>
    have hfield := List.mem_of_find?_eq_some hfind
    dsimp only
    rw [Check.found_bind]
    -- every proposal is there or is not
    refine Gives.bind (p := fun _ => True) ((Check.gives_all (p := fun _ => True) fun check hcheck => ?_).mono
      fun _ _ => trivial) fun reasons _ => ?_
    · obtain ⟨number, -, rfl⟩ := List.mem_map.mp hcheck
      rw [Check.found_bind, Check.found_fetch]
      cases answers (rule.path context number) with
      | ok text => exact .ok trivial
      | error reason => exact .ok trivial
    · refine h.marksFinding hfield _ (fun mark hmark => ?_) _
      obtain ⟨mention, -, hmark⟩ := List.mem_filterMap.mp hmark
      rw [mark?.eq_def] at hmark
      dsimp only at hmark
      split at hmark
      · obtain rfl := Option.some.inj hmark
        exact (h.shows hfield).bytesOf_isWithin _
      · split_ifs at hmark
        obtain rfl := Option.some.inj hmark
        exact (h.shows hfield).bytesOf_isWithin _

theorem RequiresStatusRule.gives_itemFinding (rule : RequiresStatusRule) (h : context.IsPlaced) {field : Field}
    (hfield : field ∈ context.preamble.fields) {item : String × Span} (hitem : item ∈ field.items ",")
    (current : String) (target : TargetStatus) : GivesValid (rule.itemFinding context field current item target) := by
  have hmark : ∀ label, Gives Excerpt.IsValid (context.fieldExcerpt field [{ range := item.2, label }]) := fun label =>
    h.fieldExcerpt hfield (List.forall_mem_singleton.mpr ((h.shows hfield).item_isWithin hitem))
  cases target with
  | unreadable reason => exact .about (hmark _) _ _
  | status status =>
    rw [itemFinding]
    split_ifs
    · exact .nil
    · exact .about (hmark _) _ _

theorem RequiresStatusRule.gives_found (rule : RequiresStatusRule) (h : context.IsPlaced)
    (hreadable : ∀ path ∈ (rule.check context).asked answers, IsReadable path (answers path)) :
    GivesValid ((rule.check context).found answers) := by
  rw [check] at hreadable ⊢
  dsimp only at hreadable ⊢
  split
  · rename_i own field hown hfind
    rw [hown, hfind] at hreadable
    dsimp only at hreadable
    rw [Check.found_bind]
    -- first every listed proposal is asked for, then each item is judged
    refine (Check.gives_all (p := fun _ => True) fun check hcheck => ?_).bind fun targets _ => ?_
    · obtain ⟨item, -, rfl⟩ := List.mem_map.mp hcheck
      refine TargetStatus.gives_fetch (hreadable _ (Check.mem_asked_bind (Check.mem_asked_all hcheck ?_) _)) _
      rw [asked_fetch]
      exact List.mem_singleton_self _
    · simp only [Check.mapM_liftM]
      rw [Check.found_bind]
      refine GivesValid.flatten fun pair hpair => ?_
      have hitem := (List.mem_filter.mp (List.of_mem_zip hpair).1).1
      exact rule.gives_itemFinding h (List.mem_of_find?_eq_some hfind) hitem _ _
  · exact .nil

theorem LinkStatusRule.gives_linkFinding (h : context.IsPlaced) {node : Node} (hnode : node ∈ context.body.nodes)
    (title label : String) (footer : List Note) : GivesValid (linkFinding context node title label footer) := by
  rw [linkFinding]
  split
  · exact .ok (List.forall_mem_singleton.mpr (Snippet.isValid_of_nil rfl))
  · rename_i hlines
    exact .about (h.holdsNodes.nodeExcerpt hnode hlines _) _ _

theorem LinkStatusRule.gives_findingAmong (rule : LinkStatusRule) (h : context.IsPlaced) (current : String)
    (targets : List (String × TargetStatus)) {link : ProposalLink} (hlink : link.node ∈ context.body.nodes) :
    GivesValid (rule.findingAmong context current targets link) := by
  rw [findingAmong]
  split
  · rename_i target _
    cases target with
    | unreadable reason => exact gives_linkFinding h hlink _ _ _
    | status status =>
      rw [targetFinding]
      split_ifs
      · exact .nil
      · exact gives_linkFinding h hlink _ _ _
  · exact .nil

theorem LinkStatusRule.gives_found (rule : LinkStatusRule) (h : context.IsPlaced)
    (hreadable : ∀ path ∈ (rule.check context).asked answers, IsReadable path (answers path)) :
    GivesValid ((rule.check context).found answers) := by
  rw [check] at hreadable ⊢
  dsimp only at hreadable ⊢
  split
  · exact .nil
  · rename_i own hown
    rw [hown] at hreadable
    dsimp only at hreadable
    rw [Check.found_bind]
    -- first every path is asked for, then each link is judged
    refine (Check.gives_all (p := fun _ => True) fun check hcheck => ?_).bind fun targets _ => ?_
    · obtain ⟨path, -, rfl⟩ := List.mem_map.mp hcheck
      rw [Check.found_bind]
      refine (TargetStatus.gives_fetch (hreadable _ (Check.mem_asked_bind (Check.mem_asked_all hcheck
        (Check.mem_asked_bind ?_ _)) _)) _).bind fun _ _ => .ok trivial
      rw [RequiresStatusRule.asked_fetch]
      exact List.mem_singleton_self _
    · simp only [Check.mapM_liftM]
      rw [Check.found_bind]
      exact GivesValid.flatten fun link hlink =>
        rule.gives_findingAmong h own.trimmed targets (isTarget_of_mem_proposalLinks hlink).1

end Asking

/-! ### All rules -/

namespace Rule

/-- In a document whose nodes have their lines in it, a rule of any kind but two gives its findings, whatever there
is at the paths that it asks for, if that is no document without a place for its body. All ranges that it marks lie
within their excerpts and begin and end between characters. -/
theorem check_valid (rule : Rule) (hschema : rule.kind ≠ "markdown-json-schema") (haddress : rule.kind ≠ "preamble-url")
    (h : context.IsPlaced) (answers : String → FetchAnswer)
    (hreadable : ∀ path ∈ (rule.check context).asked answers, IsReadable path (answers path)) :
    ∃ snippets, (rule.check context).found answers = .ok snippets ∧
      ∀ snippet ∈ snippets, ∀ excerpt ∈ snippet.excerpts, ∀ mark ∈ excerpt.marks,
        mark.range.IsWithin excerpt.source := by
  -- each rule gives what it finds; the two that may fail are excluded
  cases rule with
  | author rule => exact rule.gives_check h
  | date rule => exact rule.gives_check h
  | fileName rule => exact rule.gives_check h
  | length rule => exact rule.gives_check h
  | list rule => exact rule.gives_check h
  | noDuplicates rule => exact rule.gives_check h
  | oneOf rule => exact rule.gives_check h
  | order rule => exact rule.gives_check h
  | valueReference rule => exact rule.gives_found h
  | valuePattern rule => exact rule.gives_check h
  | requireReferenced rule => exact rule.gives_check h
  | required rule => exact rule.gives_check context
  | requiredIf rule => exact rule.gives_check h
  | requiresStatus rule => exact rule.gives_found h hreadable
  | trim rule => exact rule.gives_check h
  | uint rule => exact rule.gives_check h
  | uintList rule => exact rule.gives_check h
  | address rule => exact absurd rfl haddress
  | headingSpace rule => exact rule.gives_check h
  | comment rule => exact rule.gives_check h
  | embeddedJson rule => exact absurd rfl hschema
  | linkFirst rule => exact rule.gives_check h
  | linkStatus rule => exact rule.gives_found h hreadable
  | linkText rule => exact rule.gives_check h
  | bodyPattern rule => exact rule.gives_check context
  | relativeLink rule => exact rule.gives_check h
  | sectionOrder rule => exact rule.gives_check h
  | sectionRequired rule => exact rule.gives_check context

/-- Two of three listed proposals are reported, one with an earlier status and one that is missing, in a document
whose body is not empty. -/
theorem check_valid_missing :
    let rule : Rule := .requiresStatus ⟨"requires", "status", [["Draft"], ["Final"]], "eip-", ".md"⟩
    let answers : String → FetchAnswer := fun path =>
      if path = "eip-1.md" then .ok "---\nstatus: Draft\n---\n"
      else if path = "eip-2.md" then .ok "---\nstatus: Final\n---\n"
      else .error "is missing"
    ∃ document snippets,
      Document.ofString "---\nstatus: Final\nrequires: 1, é,2\n---\né [x](e)\n" none = .ok document ∧
      (rule.check ⟨document, {}⟩).found answers = .ok snippets ∧ snippets.length = 2 ∧
      ∀ snippet ∈ snippets, ∀ excerpt ∈ snippet.excerpts, ∀ mark ∈ excerpt.marks,
        mark.range.IsWithin excerpt.source := by
  intro rule answers
  obtain ⟨document, hdocument, -, hfacts⟩ := Document.exists_of_map_ofString
    (f := fun document => (Context.holdsLines document, (rule.check ⟨document, {}⟩).asked answers,
      ((rule.check ⟨document, {}⟩).found answers).toOption.map List.length))
    (show (Document.ofString "---\nstatus: Final\nrequires: 1, é,2\n---\né [x](e)\n" none).map _ =
      .ok (true, ["eip-1.md", "eip-é.md", "eip-2.md"], some 2) by decide +kernel)
  obtain ⟨hlines, hasked, hlength⟩ : _ ∧ _ ∧ _ := by simpa only [Prod.mk.injEq] using hfacts
  have hplaced : Context.IsPlaced ⟨document, {}⟩ := Context.isPlaced_of_holdsLines hdocument hlines
  have hreadable : ∀ path ∈ (rule.check ⟨document, {}⟩).asked answers, IsReadable path (answers path) := by
    rw [hasked]
    decide +kernel
  obtain ⟨snippets, hfound, hvalid⟩ := rule.check_valid (by decide) (by decide) hplaced answers hreadable
  rw [hfound] at hlength
  exact ⟨document, snippets, hdocument, hfound, Option.some.inj hlength, hvalid⟩

end Rule

end ProposalCheck
