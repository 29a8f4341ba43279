import ProposalCheck.Text.CodeTable
import ProposalCheck.Text.Percent
import ProposalCheck.Text.Utf8

/-!
# References between addresses

A reference is an address or what is to be changed in another address to get there. Nothing is checked:
every text is a reference.

## Main definitions

* `Reference`: the parts of a reference
* `Reference.ofText`, `Reference.text`: reading and writing a reference
* `Reference.join`: the address that a reference leads to from a base
* `Reference.splitFragment`: an address without its fragment, and the fragment
* `percentDecode`: the text behind percent coding
-/

namespace ProposalCheck

/-- The parts of a reference; those that are missing are empty. -/
structure Reference where
  scheme : List Char := []
  authority : List Char := []
  path : List Char := []
  query : List Char := []
  fragment : List Char := []
  deriving DecidableEq, Repr

namespace Reference

/-- Schemes with addresses to which others can be relative. -/
def relativeSchemes : List String :=
  ["", "ftp", "http", "gopher", "nntp", "imap", "wais", "file", "https", "shttp", "mms", "prospero",
    "rtsp", "rtspu", "sftp", "svn", "svn+ssh", "ws", "wss"]

/-- Schemes with addresses that name an authority. -/
def authoritySchemes : List String :=
  relativeSchemes ++ ["telnet", "snews", "rsync", "nfs", "git", "git+ssh"]

/-- May a character stand in a scheme? -/
def isSchemeChar (c : Char) : Bool := c.isAlphanum || ['+', '-', '.'].contains c

/-- Splits off the scheme and its colon. -/
def splitScheme (text : List Char) : List Char × List Char :=
  match text.span (· ≠ ':') with
  | (scheme@(first :: _), _ :: rest) =>
    if first.isAlpha && scheme.all isSchemeChar then (scheme.map Char.toLower, rest) else ([], text)
  | _ => ([], text)

/-- Splits at the first occurrence of a character, which is dropped. -/
def splitAtFirst (c : Char) (text : List Char) : List Char × List Char :=
  let (before, after) := text.span (· ≠ c)
  (before, after.drop 1)

/-- Drops what no reference holds: control characters and spaces in front, and line ends and tabs
anywhere. -/
def cleaned (text : List Char) : List Char :=
  (text.dropWhile (· ≤ ' ')).filter fun c => c ≠ '\n' && c ≠ '\r' && c ≠ '\t'

/-- Reads a reference. -/
def ofText (text : String) : Reference :=
  let (scheme, rest) := splitScheme (cleaned text.toList)
  let (authority, rest) := match rest with
    | '/' :: '/' :: rest => rest.span fun c => !(['/', '?', '#'].contains c)
    | rest => ([], rest)
  let (rest, fragment) := splitAtFirst '#' rest
  let (path, query) := splitAtFirst '?' rest
  { scheme, authority, path, query, fragment }

/-- The text of a reference. -/
def text (reference : Reference) : String :=
  let scheme := String.ofList reference.scheme
  let path := reference.path
  let isRooted := path.head? = some '/'
  let hasMark := reference.authority ≠ [] ∨ path.take 2 = ['/', '/'] ∨
    (scheme ≠ "" ∧ authoritySchemes.contains scheme)
  let path := if hasMark ∧ path ≠ [] ∧ !isRooted then '/' :: path else path
  let mark := fun (c : Char) (part : List Char) => if part = [] then [] else c :: part
  (if scheme = "" then "" else scheme ++ ":")
    ++ (if hasMark then "//" ++ String.ofList reference.authority else "")
    ++ String.ofList (path ++ mark '?' reference.query ++ mark '#' reference.fragment)

/-- A text with the usual spelling of its scheme and without marks that nothing follows. -/
def normalText (text : String) : String := (ofText text).text

/-- Takes back the name before every `..` and drops every `.`. -/
def resolveNames (kept : List (List Char)) : List (List Char) → List (List Char)
  | [] => kept.reverse
  | name :: rest =>
    if name = ['.', '.'] then resolveNames kept.tail rest
    else if name = ['.'] then resolveNames kept rest
    else resolveNames (name :: kept) rest

/-- Drops empty names but for the first and the last one. -/
def dropInnerEmpty : List (List Char) → List (List Char)
  | [] => []
  | [name] => [name]
  | first :: rest => first :: (rest.dropLast.filter (· ≠ [])) ++ rest.getLast?.toList

/-- The path that `path` leads to from `base`. -/
def joinPaths (base path : List Char) : List Char :=
  let names := splitWhere (· = '/') path
  let baseNames := splitWhere (· = '/') base
  let baseNames := if baseNames.getLast? = some [] then baseNames else baseNames.dropLast
  let names := if path.head? = some '/' then names else dropInnerEmpty (baseNames ++ names)
  let isFolder := names.getLast? = some ['.'] ∨ names.getLast? = some ['.', '.']
  let joined := ['/'].intercalate (resolveNames [] names ++ if isFolder then [[]] else [])
  if joined = [] then ['/'] else joined

/-- The address that a reference leads to from a base. -/
def join (base reference : String) : String :=
  if base = "" then reference
  else if reference = "" then base
  else
    let start := ofText base
    let target := ofText reference
    let scheme := if target.scheme = [] then start.scheme else target.scheme
    -- a reference with another scheme, or with one that knows no relative references, stands for itself
    if scheme ≠ start.scheme ∨ !relativeSchemes.contains (String.ofList scheme) then reference
    else
      let target := { target with scheme }
      if authoritySchemes.contains (String.ofList scheme) ∧ target.authority ≠ [] then target.text
      else
        let target := { target with authority := start.authority }
        if target.path = [] then
          let query := if target.query = [] then start.query else target.query
          { target with path := start.path, query }.text
        else { target with path := joinPaths start.path target.path }.text

/-- An address without its fragment, and the fragment. -/
def splitFragment (text : String) : String × String :=
  if text.toList.contains '#' then
    let reference := ofText text
    ({ reference with fragment := [] }.text, String.ofList reference.fragment)
  else (text, "")

/-- A text without number signs at its end. -/
def dropMark (text : String) : String :=
  String.ofList (text.toList.reverse.dropWhile (· = '#')).reverse

end Reference

/-- The bytes behind percent coding. -/
def percentDecodeBytes : List Char → List UInt8
  | '%' :: a :: b :: rest => match hexDigit? a, hexDigit? b with
    | some high, some low => UInt8.ofNat (16 * high + low) :: percentDecodeBytes rest
    | _, _ => '%'.toUInt8 :: percentDecodeBytes (a :: b :: rest)
  | c :: rest => (String.singleton c).toUTF8.toList ++ percentDecodeBytes rest
  | [] => []
termination_by text => text.length

/-- The text behind percent coding, unless the bytes are none of any text. -/
def percentDecode (text : String) : String :=
  match decodeUtf8 (percentDecodeBytes text.toList) with
  | .ok decoded => decoded
  | .error _ => text

end ProposalCheck
