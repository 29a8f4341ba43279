import ProposalCheck.Text.LowerCase
import ProposalCheck.Text.Percent
import ProposalCheck.Text.Word
import ProposalCheck.Web.HostLabel
import ProposalCheck.Web.IpAddress

/-!
# Web addresses

An address has a scheme, a host with user and port, a path, a query and a fragment, most of which may be
missing. Reading an address brings it into a normal form: scheme and host in small letters, the host in
ASCII, without the port that the scheme implies, without `.` and `..` in the path, and with every
character that may not stand where it stands in percent coding.

## Main definitions

* `WebAddress`: an address in normal form
* `AddressProblem`: why a text is no address
* `WebAddress.ofText`, `WebAddress.text`: reading and writing an address
* `WebAddress.hostText`: the host in letters of its script
-/

namespace ProposalCheck

/-- Why a text is no address. -/
inductive AddressProblem where
  | tooLong
  /-- It holds a control character. -/
  | control
  /-- Its host is neither a name nor a number. -/
  | host
  | port
  /-- Its path would be read as something else. -/
  | path
  deriving DecidableEq, Repr

/-- An address in normal form. -/
structure WebAddress where
  scheme : List Char := []
  user : List Char := []
  host : List Char := []
  port : Option Int := none
  path : List Char := []
  query : Option (List Char) := none
  fragment : Option (List Char) := none
  deriving DecidableEq, Repr

namespace WebAddress

/-- The longest text of an address. -/
def maximumLength : Nat := 65536

/-- Splits at the first of some characters, which stays in the second part. -/
def splitBefore (stops : List Char) (text : List Char) : List Char × List Char :=
  text.span (!stops.contains ·)

/-- May a character stand in a scheme after the first? -/
def isSchemeChar (c : Char) : Bool := c.isAlphanum || ['+', '.', '-'].contains c

/-- Splits off the scheme and its colon; the scheme may be empty. -/
def splitScheme (text : List Char) : List Char × List Char :=
  match text with
  | ':' :: rest => ([], rest)
  | first :: _ =>
    if !first.isAlpha then ([], text)
    else match text.span isSchemeChar with
      | (scheme, ':' :: rest) => (scheme, rest)
      | _ => ([], text)
  | [] => ([], [])

/-- Splits off the authority, which two slashes announce. -/
def splitAuthority : List Char → List Char × List Char
  | '/' :: '/' :: rest => splitBefore ['/', '?', '#'] rest
  | text => ([], text)

/-- Splits at the last occurrence of a character, which is dropped. -/
def splitAfterLast (c : Char) (text : List Char) : List Char × List Char :=
  if text.contains c then
    let tail := (text.reverse.takeWhile (· ≠ c)).reverse
    (text.take (text.length - tail.length - 1), tail)
  else ([], text)

/-- Splits the host, perhaps in brackets, from the port. -/
def splitHost (text : List Char) : List Char × List Char :=
  let (host, rest) :=
    if text.head? = some '[' ∧ text.contains ']' then
      let (inner, after) := splitAfterLast ']' text
      (inner ++ [']'], after)
    else splitBefore [':', '@'] text
  (host, match rest with
    | ':' :: port => port
    | port => port)

/-- Is a text one more group of digits than `separators`, with one character of any kind between two
groups? -/
def isGrouped (separators : Nat) : List Char → Bool
  | [] => false
  | c :: rest =>
    c.isDigit && ((separators = 0 && rest.all Char.isDigit) || isGrouped separators rest
      || (separators ≠ 0 && match rest with
        | _ :: digits => isGrouped (separators - 1) digits
        | [] => false))

/-- Does a host look like a numeric address? -/
def looksNumeric (host : List Char) : Bool := isGrouped 3 host

/-- Characters that may stand anywhere in an address. -/
def isUnreserved (c : Char) : Bool := c.isAlphanum || ['-', '.', '_', '~'].contains c

/-- The visible characters of ASCII but for some. -/
def isVisibleBut (others : String) (c : Char) : Bool :=
  ' ' < c && c ≤ '~' && !others.toList.contains c

/-- May a character stand in a path? -/
def isPathChar : Char → Bool := isVisibleBut "\"#<>?\x60\x7b\x7d"

/-- May a character stand in a query? -/
def isQueryChar : Char → Bool := isVisibleBut "\"#<>"

/-- May a character stand in a fragment? -/
def isFragmentChar : Char → Bool := isVisibleBut "\"<>\x60"

/-- May a character stand in the user? -/
def isUserChar : Char → Bool := isVisibleBut "\"#<>?\x60\x7b\x7d/;=@[\\]^|"

/-- May a character stand in the name of a host? -/
def isNameChar (c : Char) : Bool :=
  isUnreserved c || "!$&'()*+,;=\"\x60\x7b\x7d%|\\".toList.contains c

/-- The normal form of a host. -/
def normalHost (host : List Char) : Except AddressProblem (List Char) :=
  if host.isEmpty then .ok []
  else if looksNumeric host then if isIpv4 host then .ok host else .error .host
  else if host.head? = some '[' ∧ host.getLast? = some ']' then
    let address := (host.drop 1).dropLast
    if isIpv6 address then .ok address else .error .host
  else if host.all (·.toNat < 128) then .ok (percentEncode isNameChar (host.map Char.toLower))
  else match hostToAscii (lowerCase host) with
    | .ok form => .ok form
    | .error _ => .error .host

/-- The port that a scheme implies. -/
def impliedPort? (scheme : List Char) : Option Int :=
  [("ftp", 21), ("http", 80), ("https", 443), ("ws", 80), ("wss", 443)].lookup (String.ofList scheme)

/-- The number that a port denotes: a sign, digits of any script and single underscores between
them. -/
def portNumber? (port : List Char) : Option Int :=
  let trimmed := trimChars port
  let (negative, digits) := match trimmed with
    | '-' :: rest => (true, rest)
    | '+' :: rest => (false, rest)
    | rest => (false, rest)
  if (splitWhere (· = '_') digits).any (·.isEmpty) then none
  else (decimalNat? (digits.filter (· ≠ '_'))).map fun value => if negative then -value else value

/-- The port, unless there is none or the scheme implies it. -/
def normalPort (scheme port : List Char) : Except AddressProblem (Option Int) :=
  if port.isEmpty then .ok none
  else match portNumber? port with
    | none => .error .port
    | some number => .ok (if impliedPort? scheme = some number then none else some number)

/-- Drops the parts of a path that name the place reached so far or the one above it. -/
def resolveParts (done : List (List Char)) : List (List Char) → List (List Char)
  | [] => done.reverse
  | ['.'] :: rest => resolveParts done rest
  | ['.', '.'] :: rest => resolveParts (if done = [] ∨ done = [[]] then done else done.tail) rest
  | part :: rest => resolveParts (part :: done) rest

/-- A path without the parts `.` and `..`. -/
def normalPath (path : List Char) : List Char :=
  ['/'].intercalate (resolveParts [] (splitWhere (· = '/') path))

/-- Can the path stand after what precedes it? -/
def isPathClear (hasScheme hasAuthority : Bool) (path : List Char) : Bool :=
  if hasAuthority then path.isEmpty || path.head? = some '/'
  else hasScheme || !(path.take 2 = ['/', '/'] || path.head? = some ':')

/-- What follows a mark, if the text starts with the mark. -/
def afterMark? (mark : Char) (text : List Char) : Option (List Char) :=
  match text with
  | c :: rest => if c = mark then some rest else none
  | [] => none

/-- Reads an address. -/
def ofText (text : String) : Except AddressProblem WebAddress := do
  let chars := text.toList
  if chars.length > maximumLength then throw .tooLong
  if chars.any fun c => c < ' ' || c = '\x7f' then throw .control
  let (scheme, rest) := splitScheme chars
  let (authority, rest) := splitAuthority rest
  let (path, rest) := splitBefore ['?', '#'] rest
  let (query, rest) := match afterMark? '?' rest with
    | some rest =>
      let (query, rest) := splitBefore ['#'] rest
      (some query, rest)
    | none => (none, rest)
  let (user, location) := splitAfterLast '@' authority
  let (host, port) := splitHost location
  let host ← normalHost host
  let port ← normalPort scheme port
  let hasAuthority := !user.isEmpty || !host.isEmpty || port.isSome
  if !isPathClear (!scheme.isEmpty) hasAuthority path then throw .path
  let path := if scheme.isEmpty && !hasAuthority then path else normalPath path
  return {
    scheme := scheme.map Char.toLower
    user := percentEncode isUserChar user
    host
    port
    path := percentEncode isPathChar path
    query := query.map (percentEncode isQueryChar)
    fragment := (afterMark? '#' rest).map (percentEncode isFragmentChar) }

/-- The text of an address. -/
def text (address : WebAddress) : String :=
  let before := fun (mark : String) (part : Option (List Char)) => match part with
    | some part => mark ++ String.ofList part
    | none => ""
  let scheme := String.ofList address.scheme
  let user := if address.user.isEmpty then "" else String.ofList address.user ++ "@"
  let host := String.ofList address.host
  let host := if address.host.contains ':' then "[" ++ host ++ "]" else host
  let port := match address.port with
    | some port => ":" ++ toString port
    | none => ""
  let authority := user ++ host ++ port
  (if scheme = "" then "" else scheme ++ ":") ++ (if authority = "" then "" else "//" ++ authority)
    ++ String.ofList address.path ++ before "?" address.query ++ before "#" address.fragment

/-- The host in letters of its script. -/
def hostText (address : WebAddress) : Except LabelProblem (List Char) :=
  if (dropStart? asciiMark address.host).isSome then hostToText address.host else .ok address.host

/-- Is an address complete, with scheme and host? -/
def isAbsolute (address : WebAddress) : Bool := !address.scheme.isEmpty && !address.host.isEmpty

end WebAddress

end ProposalCheck
