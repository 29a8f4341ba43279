import ProposalCheck.Lint.Context

/-!
# Checks and the documents they ask for

A check gives a finding once it is known what each path holds. It asks for paths in an order of its own:
computations side by side ask for theirs one after the other, and each of them finds what it would find
alone.

## Main definitions

* `Check.found`, `Check.asked`: what a check finds and the paths it asks for
* `IsReadable`: a text that is a document or is refused for its structure

## Main results

* `Check.found_all`, `Check.asked_all`: computations side by side
-/

namespace ProposalCheck

variable {α β : Type} {answers : String → FetchAnswer}

namespace Query

theorem andThen_done (query : Query α) : query.andThen .done = query := by
  induction query with
  | done value => rfl
  | ask path next ih => exact congrArg (Query.ask path) (funext ih)

theorem andThen_assoc {γ : Type} (query : Query α) (f : α → Query β) (g : β → Query γ) :
    (query.andThen f).andThen g = query.andThen fun value => (f value).andThen g := by
  induction query with
  | done value => rfl
  | ask path next ih => exact congrArg (Query.ask path) (funext ih)

instance : LawfulMonad Query :=
  LawfulMonad.mk' _ andThen_done (fun _ _ => rfl) andThen_assoc

@[simp] theorem answer_andThen (answers : String → FetchAnswer) (query : Query α) (f : α → Query β) :
    (query.andThen f).answer answers = (f (query.answer answers)).answer answers := answer_bind answers query f

@[simp] theorem requests_bind (answers : String → FetchAnswer) (query : Query α) (f : α → Query β) :
    (query >>= f).requests answers = query.requests answers ++ (f (query.answer answers)).requests answers := by
  induction query with
  | done value => rfl
  | ask path next ih => exact congrArg (path :: ·) (ih (answers path))

@[simp] theorem requests_pure (answers : String → FetchAnswer) (value : α) :
    (pure value : Query α).requests answers = [] := rfl

theorem answer_all (answers : String → FetchAnswer) (queries : List (Query α)) :
    (all queries).answer answers = queries.map (·.answer answers) := by
  induction queries with
  | nil => rfl
  | cons query queries ih =>
    rw [all, answer_andThen, answer_andThen, ih]
    rfl

theorem requests_all (answers : String → FetchAnswer) (queries : List (Query α)) :
    (all queries).requests answers = queries.flatMap (·.requests answers) := by
  induction queries with
  | nil => rfl
  | cons query queries ih =>
    refine (requests_bind answers query _).trans ?_
    rw [List.flatMap_cons]
    refine congrArg (query.requests answers ++ ·) ((requests_bind answers (all queries) _).trans ?_)
    rw [ih]
    exact List.append_nil _

end Query

namespace Check

/-- What a check finds, given what each path holds. -/
def found (answers : String → FetchAnswer) (check : Check α) : Finding α := check.run.answer answers

/-- The paths that a check asks for, in order. -/
def asked (answers : String → FetchAnswer) (check : Check α) : List String := check.run.requests answers

@[simp] theorem found_pure (answers : String → FetchAnswer) (value : α) :
    found answers (pure value : Check α) = .ok value := rfl

@[simp] theorem asked_pure (answers : String → FetchAnswer) (value : α) :
    asked answers (pure value : Check α) = [] := rfl

@[simp] theorem found_liftM (answers : String → FetchAnswer) (finding : Finding α) :
    found answers (liftM finding : Check α) = finding := rfl

@[simp] theorem asked_liftM (answers : String → FetchAnswer) (finding : Finding α) :
    asked answers (liftM finding : Check α) = [] := rfl

@[simp] theorem found_fetch (answers : String → FetchAnswer) (path : String) :
    found answers (Check.fetch path) = .ok (answers path) := rfl

@[simp] theorem asked_fetch (answers : String → FetchAnswer) (path : String) :
    asked answers (Check.fetch path) = [path] := rfl

@[simp] theorem found_bind (answers : String → FetchAnswer) (check : Check α) (f : α → Check β) :
    found answers (check >>= f) = (found answers check).bind fun value => found answers (f value) := by
  rw [found, ExceptT.run_bind, Query.answer_bind, found]
  cases check.run.answer answers <;> rfl

theorem asked_bind (answers : String → FetchAnswer) (check : Check α) (f : α → Check β) :
    asked answers (check >>= f) = asked answers check ++ match found answers check with
      | .ok value => asked answers (f value)
      | .error _ => [] := by
  rw [asked, ExceptT.run_bind, Query.requests_bind, found]
  cases check.run.answer answers <;> rfl

/-- Findings that need no other document, one after the other. -/
theorem mapM_liftM (items : List α) (f : α → Finding β) :
    (items.mapM fun item => (f item : Check β)) = (liftM (items.mapM f) : Check (List β)) := by
  induction items with
  | nil => rfl
  | cons item items ih =>
    rw [List.mapM_cons, List.mapM_cons, ih]
    cases f item with
    | error error => rfl
    | ok value => cases items.mapM f <;> rfl

/-- Side by side, each check finds what it would find alone. -/
theorem found_all (answers : String → FetchAnswer) (checks : List (Check α)) :
    found answers (Check.all checks) = checks.mapM (found answers) := by
  change (Query.all (checks.map ExceptT.run) >>= _).answer answers = _
  rw [Query.answer_bind, Query.answer_all, List.map_map]
  exact List.mapM_map

/-- Side by side, checks ask one after the other. -/
theorem asked_all (answers : String → FetchAnswer) (checks : List (Check α)) :
    asked answers (Check.all checks) = checks.flatMap (asked answers) := by
  change (Query.all (checks.map ExceptT.run) >>= _).requests answers = _
  rw [Query.requests_bind, Query.requests_all, List.flatMap_map]
  exact List.append_nil _

end Check

/-- The text at a path, if there is one, is a document or is refused for its structure. -/
def IsReadable (path : String) (answer : FetchAnswer) : Prop :=
  ∀ text, answer = .ok text → ∀ error, Document.ofString text (some path) ≠ .error (.position error)

/-- Whether there is such a text can be found out by reading it. -/
def isReadable (path : String) : FetchAnswer → Bool
  | .error _ => true
  | .ok text => match Document.ofString text (some path) with
    | .error (.position _) => false
    | _ => true

theorem isReadable_iff {path : String} {answer : FetchAnswer} : isReadable path answer ↔ IsReadable path answer := by
  rw [isReadable.eq_def, IsReadable]
  cases answer with
  | error reason => simp
  | ok text => rcases hread : Document.ofString text (some path) with (problem | error) | document <;> simp [hread]

instance (path : String) (answer : FetchAnswer) : Decidable (IsReadable path answer) :=
  decidable_of_iff _ isReadable_iff

end ProposalCheck
