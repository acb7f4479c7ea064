import BuildManifest.Text.Composed
import BuildManifest.Text.Infix
import BuildManifest.Url.Domain.Label
import BuildManifest.Url.Domain.Mapping
import BuildManifest.Url.Punycode

/-!
# Domains

The name of a host in its canonical form: characters replaced by those that domains use, composed,
and every label in ASCII.

## What is here

* `decodedLabel?`, `encodedLabel?` — a label with all its characters, and in ASCII.
* `asciiDomain?` — a domain in ASCII.
-/

set_option autoImplicit false

namespace BuildManifest.Url

/-- A character that is not ASCII. -/
def isForeign (c : Char) : Bool := 0x80 ≤ c.toNat

/-- The start of a label that is encoded. -/
def encodedMark : List Char := "xn--".toList

/-- The greatest length of a label that is decoded. -/
def longestEncoded : Nat := 2000

/-- The greatest length of a label that is encoded. -/
def longestDecoded : Nat := 1000

/-- Whether a text is what its characters become in a domain. -/
def isCanonical (text : List Char) : Bool :=
  (text.all fun c => domainChar? c == some [c]) && Text.composed text == text

/-- A label with all its characters.  One that is encoded must be the form of a canonical label
that needs encoding. -/
def decodedLabel? (label : List Char) : Option (List Char) :=
  if encodedMark.isPrefixOf label then
    let body := label.drop encodedMark.length
    if body.any isForeign ∨ longestEncoded < body.length then none
    else
      (Punycode.decode body).filter fun decoded =>
        decoded.any isForeign && isCanonical decoded && !encodedMark.isPrefixOf decoded
  else some label

/-- A label in ASCII. -/
def encodedLabel? (label : List Char) : Option (List Char) :=
  if !label.any isForeign then some label
  else if longestDecoded < label.length then none
  else some (encodedMark ++ Punycode.encode label)

/-- What no domain may contain. -/
def isForbiddenInDomains (c : Char) : Bool :=
  c.toNat ≤ 0x20 || c.toNat = 0x7F || "%#/:<>?@[\\]^|".toList.contains c

/-- Put a separator between the parts of a text. -/
def joinWith (separator : Char) : List (List Char) → List Char
  | [] => []
  | [part] => part
  | part :: rest => part ++ separator :: joinWith separator rest

/-- A domain in ASCII. -/
def asciiDomain? (domain : List Char) : Option (List Char) := do
  let replaced ← domain.mapM domainChar?
  let labels ← (Text.splitAt '.' (Text.composed replaced.flatten)).mapM decodedLabel?
  let bothDirections := labels.any fun label => label.any isLeftward
  if labels.all (isLabel bothDirections) then
    let ascii ← (labels.mapM encodedLabel?).map (joinWith '.')
    if ascii.any isForbiddenInDomains then none else some ascii
  else none

end BuildManifest.Url
