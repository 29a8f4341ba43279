/-!
# Computations that ask for documents

A rule may need the text of other documents. It names a path and goes on with what it gets: the text,
or the reason why there is none. Where the texts come from is left to whoever runs it.

## Main definitions

* `Query`: a computation that asks for documents
* `Query.answer`, `Query.requests`: its result and the paths it asks for, given what each path holds
* `Query.answer_bind`: the result of one computation after another
* `Query.all`: computations side by side, all of which are run
-/

namespace ProposalCheck

/-- The text of a document, or the reason why it cannot be had. -/
abbrev FetchAnswer := Except String String

/-- A computation that asks for documents. -/
inductive Query (α : Type) where
  | done (value : α)
  | ask (path : String) (next : FetchAnswer → Query α)

namespace Query

variable {α β : Type}

/-- Goes on with the result of a computation. -/
def andThen : Query α → (α → Query β) → Query β
  | .done value, f => f value
  | .ask path next, f => .ask path fun answer => (next answer).andThen f

instance : Monad Query where
  pure := .done
  bind := andThen

/-- Asks for one document. -/
def fetch (path : String) : Query FetchAnswer := .ask path .done

/-- The result, given what each path holds. -/
def answer (source : String → FetchAnswer) : Query α → α
  | .done value => value
  | .ask path next => (next (source path)).answer source

@[simp] theorem answer_pure (source : String → FetchAnswer) (value : α) :
    (pure value : Query α).answer source = value := rfl

@[simp] theorem answer_bind (source : String → FetchAnswer) (query : Query α) (f : α → Query β) :
    (query >>= f).answer source = (f (query.answer source)).answer source := by
  induction query with
  | done value => rfl
  | ask path next ih => exact ih (source path)

@[simp] theorem answer_fetch (source : String → FetchAnswer) (path : String) :
    (fetch path).answer source = source path := rfl

/-- The paths asked for, in order. -/
def requests (source : String → FetchAnswer) : Query α → List String
  | .done _ => []
  | .ask path next => path :: (next (source path)).requests source

/-- Runs computations one after the other and collects their results. -/
def all : List (Query α) → Query (List α)
  | [] => .done []
  | query :: rest => query.andThen fun value => (all rest).andThen fun values => .done (value :: values)

end Query

end ProposalCheck
