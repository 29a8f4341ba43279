import ProposalCheck.Pattern.Basic
import ProposalCheck.Text.LowerCase
import ProposalCheck.Text.Percent
import ProposalCheck.Text.Punycode
import ProposalCheck.Text.Utf8

/-!
# Link destinations

A destination is taken apart into protocol, user, host, port and the rest, so that a host outside of
ASCII can be written in its ASCII form. All other characters that a destination cannot hold are
written as `%` and the two hexadecimal digits of each byte.

## Main definitions

* `Destination.ofText`: the parts of a written destination
* `Destination.normalize`: the form of a destination that a link carries
* `Destination.display`: the readable form, for a destination that serves as link text
* `Destination.isSafe`: whether a destination may be linked to
-/

namespace ProposalCheck

/-- The parts of a destination. The rest holds path, query and fragment. -/
structure Destination where
  protocol : List Char := []
  slashes : Bool := false
  user : List Char := []
  host : List Char := []
  port : List Char := []
  rest : List Char := []
  deriving DecidableEq, Repr

namespace Destination

/-- The characters of a protocol. -/
def protocolChars : CharSet :=
  ⟨[.range 'a'.toNat 'z'.toNat, .range '0'.toNat '9'.toNat, .single '.', .single '+', .single '-'],
    false, .ignore⟩

/-- Splits a text after its protocol and colon. Without a protocol the first part is empty. -/
def splitProtocol (text : List Char) : List Char × List Char :=
  let name := text.takeWhile protocolChars.contains
  match text.drop name.length with
  | ':' :: rest => if name.isEmpty then ([], text) else (name ++ [':'], rest)
  | _ => ([], text)

/-- Protocols that are followed by slashes whenever there is a host. -/
def slashedProtocols : List String := ["http:", "https:", "ftp:", "gopher:", "file:"]

/-- Protocols whose host may be written outside of ASCII. -/
def recodedProtocols : List String := ["http:", "https:", "mailto:"]

/-- Does a character end a host? -/
def endsHost (c : Char) : Bool :=
  ['%', '/', '?', ';', '#', '\'', '{', '}', '|', '\\', '^', '\x60', '<', '>', '"', ' ', '\r', '\n',
    '\t'].contains c

/-- Splits at the last occurrence of a character, which is dropped. -/
def splitAtLast? (c : Char) (text : List Char) : Option (List Char × List Char) :=
  if text.contains c then
    let tail := (text.reverse.takeWhile (· ≠ c)).reverse
    some (text.take (text.length - tail.length - 1), tail)
  else none

/-- Takes the user off the front, which ends at the last `@` before the path. -/
def splitUser (text : List Char) : List Char × List Char :=
  let front := text.takeWhile fun c => !(c = '/' || c = '?' || c = '#')
  match splitAtLast? '@' front with
  | some (user, after) => (user, after ++ text.drop front.length)
  | none => ([], text)

/-- Splits host and port. A colon without digits after it is no port and is dropped. -/
def splitPort (text : List Char) : List Char × List Char :=
  match splitAtLast? ':' text with
  | some (host, port) => if port.all Char.isDigit then (host, port) else (text, [])
  | none => (text, [])

/-- May a character stand in a part of a host? -/
def isHostChar (c : Char) : Bool := c.isAlphanum || c = '+' || c = '_' || c = '-'

/-- Is a part of a host well formed? Characters outside of ASCII are, too. -/
def isHostPart (part : List Char) : Bool :=
  part.length ≤ 63 && part.all fun c => isHostChar c || c.toNat > 127

/-- Parts joined by dots. -/
def joinDots : List (List Char) → List Char
  | [] => []
  | [part] => part
  | part :: parts => part ++ '.' :: joinDots parts

/-- Cuts a host where a part is not well formed: the host and what belongs to the rest. -/
def cutHost (done : List (List Char)) : List (List Char) → List Char × List Char
  | [] => (joinDots done.reverse, [])
  | part :: parts =>
    if isHostPart part then cutHost (part :: done) parts
    else
      let good := (part.take 63).takeWhile isHostChar
      (joinDots (good :: done).reverse, joinDots (part.drop good.length :: parts))

/-- Reads a host, which a bracketed address may be, and hands what is no host to the rest. -/
def withHost (destination : Destination) (host rest : List Char) : Destination :=
  let (host, port) := splitPort host
  if host.head? = some '[' && host.getLast? = some ']' then
    let host := if host.length > 255 then [] else host
    { destination with host := (host.drop 1).dropLast, port, rest }
  else
    let (host, more) := cutHost [] (splitWhere (· = '.') host)
    { destination with host := if host.length > 255 then [] else host, port, rest := more ++ rest }

/-- The parts of a written destination. A destination that starts with two slashes has a host. -/
def ofText (text : List Char) : Destination :=
  let (protocol, rest) := splitProtocol (trimChars text)
  let name := String.ofList protocol
  if name = "javascript:" then { protocol, rest }
  else
    let slashes := (dropStart? ['/', '/'] rest).isSome
    let rest := if slashes then rest.drop 2 else rest
    let destination : Destination := { protocol, slashes, rest }
    if slashes || (!protocol.isEmpty && !slashedProtocols.contains name) then
      let (user, rest) := splitUser rest
      let host := rest.takeWhile (!endsHost ·)
      let host := if host.getLast? = some ':' then host.dropLast else host
      { destination with user }.withHost host (rest.drop host.length)
    else destination

/-- A destination written out. -/
def toChars (destination : Destination) : List Char :=
  destination.protocol
    ++ (if destination.slashes then ['/', '/'] else [])
    ++ (if destination.user.isEmpty then [] else destination.user ++ ['@'])
    ++ (if destination.host.contains ':' then '[' :: destination.host ++ [']'] else destination.host)
    ++ (if destination.port.isEmpty then [] else ':' :: destination.port)
    ++ destination.rest

/-- May the host be written outside of ASCII? -/
def isRecoded (destination : Destination) : Bool :=
  destination.protocol.isEmpty || recodedProtocols.contains (String.ofList destination.protocol)

/-- The parts of a host between dots of any kind. -/
def hostLabels (host : List Char) : List (List Char) :=
  splitWhere (fun c => c = '.' || c = '\u3002' || c = '\uff0e' || c = '\uff61') host

/-- A host in ASCII. -/
def asciiHost (host : List Char) : List Char :=
  joinDots <| (hostLabels host).map fun label =>
    if label.any (·.toNat > 126) then "xn--".toList ++ Punycode.encode label else label

/-- A host with the labels that stand for other texts written out, if all of them can be. -/
def readableHost? (host : List Char) : Option (List Char) := do
  let labels ← (hostLabels host).mapM fun label =>
    match dropStart? "xn--".toList label with
    | some form => Punycode.decode? (lowerCase form)
    | none => some label
  return joinDots labels

/-- Is a character of ASCII kept in a destination? -/
def isKept (c : Char) : Bool := c.isAlphanum || ";/?:@&=+$,-_.!~*'()#".toList.contains c

/-- The form of a destination that a link carries. -/
def normalize (text : String) : String :=
  let destination := ofText text.toList
  let destination :=
    if !destination.host.isEmpty && destination.isRecoded then
      { destination with host := asciiHost destination.host }
    else destination
  String.ofList (percentEncode isKept destination.toChars)

/-- The bytes that `%` and two digits stand for at the front of a text. -/
def percentRun : List Char → List Nat
  | '%' :: a :: b :: rest =>
    match hexDigit? a, hexDigit? b with
    | some x, some y => (16 * x + y) :: percentRun rest
    | _, _ => []
  | _ => []

/-- How many of the bytes after the first belong to it, by its high bits. -/
def continuationCount (b : Nat) : Nat :=
  if b / 32 = 6 then 1 else if b / 16 = 14 then 2 else if b / 8 = 30 then 3 else 0

/-- The characters that bytes stand for. What is no UTF-8 becomes U+FFFD for each byte; characters
with a meaning in destinations stay written in bytes. -/
def decodeBytes : Nat → List Nat → List Char
  | 0, _ | _, [] => []
  | fuel + 1, b :: rest =>
    if b < 128 then
      let c := Char.ofNat b
      (if ";/?:@&=+$,#%".toList.contains c then percentByte b else [c]) ++ decodeBytes fuel rest
    else
      let count := continuationCount b
      let more := rest.take count
      if count > 0 && more.length = count && more.all (· / 64 = 2) then
        (match decodeUtf8 ((b :: more).map UInt8.ofNat) with
          | .ok text => text.toList
          | .error _ => List.replicate (count + 1) '\uFFFD') ++ decodeBytes fuel (rest.drop count)
      else '\uFFFD' :: decodeBytes fuel rest

/-- Writes out what stands in bytes. The first argument counts the characters still to be skipped. -/
def percentDecode : Nat → List Char → List Char
  | _, [] => []
  | skip + 1, _ :: rest => percentDecode skip rest
  | 0, c :: rest =>
    match percentRun (c :: rest) with
    | [] => c :: percentDecode 0 rest
    | bytes => decodeBytes bytes.length bytes ++ percentDecode (3 * bytes.length - 1) rest

/-- The readable form of a destination. -/
def display (text : String) : String :=
  let destination := ofText text.toList
  let host :=
    if destination.isRecoded then (readableHost? destination.host).getD destination.host
    else destination.host
  String.ofList (percentDecode 0 { destination with host }.toChars)

/-- Destinations that run a program or hold data are not linked to, pictures apart. -/
def isSafe (destination : String) : Bool :=
  let lower := lowerCase (trimChars destination.toList)
  let startsWith := fun (start : String) => (dropStart? start.toList lower).isSome
  let pictures := ["gif", "png", "jpeg", "webp"].map fun (kind : String) =>
    "data:image/" ++ kind ++ ";"
  !(["vbscript:", "javascript:", "file:", "data:"].any startsWith) || pictures.any startsWith

end Destination

end ProposalCheck
