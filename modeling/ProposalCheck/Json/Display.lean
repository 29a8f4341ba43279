import ProposalCheck.Text.Quoted
import ProposalCheck.Text.Blank
import ProposalCheck.Decimal.Shortest

/-!
# JSON values in messages

Messages show values with texts in quotes, the words `None`, `True` and `False`, items between
brackets and members between braces.

## Main definitions

* `Json.display`: a value as shown in a message
-/

namespace ProposalCheck.Json

mutual

/-- A value as shown in a message. -/
def display : Json → String
  | .null => "None"
  | .bool true => "True"
  | .bool false => "False"
  | .int n => toString n
  | .float x => floatText messageNotation x
  | .str s => quoted s
  | .arr items => "[" ++ joinWith ", " (displayItems items) ++ "]"
  | .obj members => "\x7b" ++ joinWith ", " (displayMembers members) ++ "\x7d"

/-- Values as shown in a message. -/
def displayItems : List Json → List String
  | [] => []
  | item :: rest => display item :: displayItems rest

/-- Members as shown in a message. -/
def displayMembers : List (String × Json) → List String
  | [] => []
  | (name, value) :: rest => (quoted name ++ ": " ++ display value) :: displayMembers rest

end

end ProposalCheck.Json
