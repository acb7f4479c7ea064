import BuildManifest.Text.Infix
import BuildManifest.Text.Utf8
import BuildManifest.Url.Domain
import BuildManifest.Url.Percent

/-!
# Hosts

The host of a URL in its canonical form: a domain in lower case and ASCII, or an address.

## What is here

* `ipv4?`, `ipv6?` — addresses.
* `specialHost?`, `otherHost?` — the host of a URL of a special scheme and of the others.
-/

set_option autoImplicit false

namespace BuildManifest.Url

/-! ## Addresses -/

/-- A number of an address: decimal, octal after `0`, or to base sixteen after `0x`. -/
def addressNumber? (text : List Char) : Option Nat :=
  match text with
  | [] => none
  | '0' :: 'x' :: rest => if rest.isEmpty then some 0 else Text.readDigits 16 rest
  | '0' :: 'X' :: rest => if rest.isEmpty then some 0 else Text.readDigits 16 rest
  | '0' :: first :: rest => Text.readDigits 8 (first :: rest)
  | _ => Text.readDigits 10 text

/-- The parts of a domain, without the empty one after a last point. -/
def domainParts (domain : List Char) : List (List Char) :=
  let parts := Text.splitAt '.' domain
  if parts.length > 1 && parts.getLast? == some [] then parts.dropLast else parts

/-- A domain whose last part is a number is an address. -/
def endsInNumber (domain : List Char) : Bool :=
  match (domainParts domain).getLast? with
  | some last => Text.isDigits last || (addressNumber? last).isSome
  | none => false

/-- The value of the numbers of an address; the last one fills the rest of its four bytes. -/
def addressValue? : List Nat → Nat → Option Nat
  | [], _ => none
  | [last], size => if last < Nat.pow 256 size then some last else none
  | number :: rest, size =>
    if number < 256 ∧ 0 < size then
      (addressValue? rest (size - 1)).map (number * Nat.pow 256 (size - 1) + ·)
    else none

/-- The four bytes of an address in decimal. -/
def ipv4Text (value : Nat) : String :=
  String.intercalate "." ([3, 2, 1, 0].map fun place => toString (value / Nat.pow 256 place % 256))

/-- An address of four bytes. -/
def ipv4? (domain : List Char) : Option String :=
  ((domainParts domain).mapM addressNumber?).bind fun numbers =>
    if numbers.length ≤ 4 then (addressValue? numbers 4).map ipv4Text else none

/-- A decimal byte without leading zeros. -/
def plainByte? (text : List Char) : Option Nat :=
  if Text.isDigits text && (text.length = 1 || text.head? != some '0') then
    (Text.readDigits 10 text).filter (· < 256)
  else none

/-- The two pieces that four plain bytes stand for. -/
def bytePieces? (text : List Char) : Option (List Nat) :=
  match (Text.splitAt '.' text).mapM plainByte? with
  | some [a, b, c, d] => some [256 * a + b, 256 * c + d]
  | _ => none

/-- The pieces between colons; the last one may be four plain bytes. -/
def pieces? (bytesAllowed : Bool) : List (List Char) → Option (List Nat)
  | [] => some []
  | [last] =>
    if bytesAllowed && last.contains '.' then bytePieces? last
    else if last.length ≤ 4 then (Text.readDigits 16 last).map ([·]) else none
  | piece :: rest => do
    let value ← if piece.length ≤ 4 then Text.readDigits 16 piece else none
    let others ← pieces? bytesAllowed rest
    return value :: others

/-- The pieces of one side of `::`, which may be empty. -/
def sidePieces? (bytesAllowed : Bool) (side : List Char) : Option (List Nat) :=
  if side.isEmpty then some [] else pieces? bytesAllowed (Text.splitAt ':' side)

/-- The text before and after the first `::`. -/
def cutAtGap : List Char → Option (List Char × List Char)
  | [] => none
  | ':' :: ':' :: rest => some ([], rest)
  | c :: rest => (cutAtGap rest).map fun cut => (c :: cut.1, cut.2)

/-- The eight pieces of an address. -/
def ipv6Pieces? (text : List Char) : Option (List Nat) :=
  match cutAtGap text with
  | some (left, right) => do
    let before ← sidePieces? right.isEmpty left
    let after ← sidePieces? true right
    if (left.contains '.') || before.length + after.length > 7 then none
    else
      return before ++ List.replicate (8 - before.length - after.length) 0 ++ after
  | none => (pieces? true (Text.splitAt ':' text)).filter (·.length = 8)

/-- The number of zeros a list starts with. -/
def leadingZeros : List Nat → Nat
  | 0 :: rest => leadingZeros rest + 1
  | _ => 0

/-- The first of the longest runs of zeros: where it starts and how long it is. -/
def longestZeros : List Nat → Nat × Nat
  | [] => (0, 0)
  | piece :: rest =>
    let here := leadingZeros (piece :: rest)
    let (start, size) := longestZeros rest
    if size ≤ here then (0, here) else (start + 1, size)

/-- Pieces to base sixteen between colons. -/
def piecesText (pieces : List Nat) : String :=
  String.intercalate ":" (pieces.map fun piece => String.ofList (Nat.toDigits 16 piece))

/-- The text of an address: the longest run of at least two zeros is left out. -/
def ipv6Text (pieces : List Nat) : String :=
  let (start, size) := longestZeros pieces
  let inside :=
    if 2 ≤ size then
      piecesText (pieces.take start) ++ "::" ++ piecesText (pieces.drop (start + size))
    else piecesText pieces
  "[" ++ inside ++ "]"

/-- An address of eight pieces. -/
def ipv6? (text : List Char) : Option String := (ipv6Pieces? text).map ipv6Text

/-- An address in brackets. -/
def bracketed? (host : List Char) : Option String :=
  if host.getLast? == some ']' then ipv6? (host.drop 1).dropLast else none

/-! ## Hosts -/

/-- What no host may contain. -/
def forbiddenInHosts : List Char := "\x00\t\n\x0d #/:<>?@[\\]^|".toList

/-- The host of a URL of a special scheme. -/
def specialHost? (host : List Char) : Option String :=
  if host.head? == some '[' then bracketed? host
  else
    let decoded := Text.decodeUtf8 (percentDecode host)
    (decoded.bind fun text => asciiDomain? text.toList).bind fun domain =>
      if domain.isEmpty then none
      else if endsInNumber domain then ipv4? domain
      else some (String.ofList domain)

/-- The host of any other URL. -/
def otherHost? (host : List Char) : Option String :=
  if host.head? == some '[' then bracketed? host
  else if host.any forbiddenInHosts.contains then none
  else some (percentEncode controlSet host)

end BuildManifest.Url
