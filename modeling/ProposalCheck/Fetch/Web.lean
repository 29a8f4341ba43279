import ProposalCheck.Fetch.Source
import ProposalCheck.Text.Quoted
import ProposalCheck.Text.Utf8
import ProposalCheck.Web.Address

/-!
# Documents on the web

A document on the web stands below a base address. The address of a document is read as a whole; one
without scheme or host leads nowhere, but is sent on its way as a bare path.

## Main definitions

* `Reply`: what comes back from a server
* `WebFetch.request`: the address that is asked for a path
* `WebFetch.response`: what a reply says about the path
-/

namespace ProposalCheck

/-- What comes back for a request. -/
inductive Reply where
  | status (code : Int) (body : List UInt8)
  /-- No connection, with the text of the problem. -/
  | noConnection (text : String)
  deriving DecidableEq, Repr

/-- Why a reply cannot be used at all. -/
inductive WebProblem where
  | notAddress (problem : AddressProblem)
  /-- The reply cannot be related to an address without a scheme. -/
  | unknownKind (address : String)
  deriving DecidableEq, Repr

namespace WebProblem

/-- The wording of a problem. -/
def message : WebProblem → String
  | .notAddress _ => "invalid address"
  | .unknownKind address => "unknown url type: " ++ quoted address

end WebProblem

namespace WebFetch

/-- The text of the address of a path below a base. -/
def addressText (base path : String) : String :=
  String.ofList (base.toList.reverse.dropWhile (· = '/')).reverse ++ "/"
    ++ String.ofList (path.toList.dropWhile (· = '/'))

/-- An address without scheme or host, as a bare path with its query. -/
def bare (address : WebAddress) : WebAddress :=
  { path := '/' :: address.path.dropWhile (· = '/'), query := address.query }

/-- The address that is asked for a path below a base. -/
def request (base path : String) : Except AddressProblem WebAddress := do
  let address ← WebAddress.ofText (addressText base path)
  return if address.isAbsolute then address else bare address

/-- What a reply says about the path. -/
def response : Reply → Response
  | .noConnection text => .refused (if text = "" then "ConnectError" else text)
  | .status code body =>
    if code = 404 then .refused "not found"
    else if 400 ≤ code ∧ code ≤ 599 then .refused s!"HTTP {code}"
    else match decodeUtf8 body with
      | .ok text => .text text
      | .error _ => .refused "response is not valid UTF-8"

/-- What a server that replies to the requests for addresses says about a path. -/
def fetch (base : String) (reply : String → Reply) (path : String) : Except WebProblem Response :=
  match request base path with
  | .error problem => .error (.notAddress problem)
  | .ok address => match reply address.text with
    | .noConnection text => .ok (response (.noConnection text))
    | answer =>
      if address.isAbsolute then .ok (response answer) else .error (.unknownKind address.text)

end WebFetch

end ProposalCheck
