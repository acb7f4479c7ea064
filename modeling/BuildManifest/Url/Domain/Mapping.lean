import BuildManifest.Text.Unassigned
import BuildManifest.Url.Domain.Mapping.Alphabet
import BuildManifest.Url.Domain.Mapping.Arabic
import BuildManifest.Url.Domain.Mapping.Ideograph
import BuildManifest.Url.Domain.Mapping.Letter
import BuildManifest.Url.Domain.Mapping.Phrase

/-!
# Characters in domains

What becomes of a character in the canonical form of a domain: it is kept, left out, replaced, or
not allowed at all.

## What is here

* `ignoredRanges`, `refusedRanges` — characters that are left out, and that are not allowed.
* `domainChar?` — what becomes of a character.
-/

set_option autoImplicit false

namespace BuildManifest.Url.Domain

/-- The ranges of the characters that are left out. -/
def ignoredRanges : Text.Ranges :=
  [(0xAD, 0xAD), (0x34F, 0x34F), (0x115F, 0x1160), (0x17B4, 0x17B5), (0x180B, 0x180F),
    (0x200B, 0x200B), (0x2060, 0x2064), (0x206A, 0x206F), (0x3164, 0x3164), (0xFE00, 0xFE0F),
    (0xFEFF, 0xFEFF), (0xFFA0, 0xFFA0), (0x1BCA0, 0x1BCA3), (0x1D173, 0x1D17A), (0xE0100, 0xE01EF)]

/-- The ranges of the characters that are not allowed, apart from code points without one. -/
def refusedRanges : Text.Ranges :=
  [(0x80, 0x9F), (0x600, 0x605), (0x61C, 0x61C), (0x6DD, 0x6DD), (0x70F, 0x70F), (0x890, 0x891),
    (0x8E2, 0x8E2), (0x1680, 0x1680), (0x200E, 0x200F), (0x2024, 0x2026), (0x2028, 0x202E),
    (0x2066, 0x2069), (0x2488, 0x249B), (0x2FF0, 0x2FFF), (0x31EF, 0x31EF), (0x33C2, 0x33C2),
    (0x33C7, 0x33C7), (0x33D8, 0x33D8), (0xE000, 0xF8FF), (0xFE12, 0xFE12), (0xFE19, 0xFE19),
    (0xFE30, 0xFE30), (0xFE52, 0xFE52), (0xFFF9, 0xFFFD), (0x110BD, 0x110BD), (0x110CD, 0x110CD),
    (0x13430, 0x1343F), (0x1F100, 0x1F100), (0xE0001, 0xE0001), (0xE0020, 0xE007F),
    (0xF0000, 0xFFFFD), (0x100000, 0x10FFFD)]

/-- What a code point of an alphabet becomes. -/
def alphabetic? (code : Nat) : Option Nat :=
  (alphabets.find? fun (first, last, step, _) =>
    first ≤ code && code ≤ last && (code - first) % step == 0).map fun (first, _, _, target) =>
      target + (code - first)

/-- What a code point becomes that is replaced by one. -/
def letter? (code : Nat) : Option Nat :=
  (alphabetic? code).or <| (letters.lookup code).or <|
    (radicals.lookup code).or <| (compatibilityIdeographs.lookup code).or <|
      (supplementaryIdeographs.lookup code).or <| arabicLetters.lookup code

/-- What a code point becomes that is replaced. -/
def replacement? (code : Nat) : Option (List Nat) :=
  ((letter? code).map ([·])).or <| (phrases.lookup code).or <| arabicLigatures.lookup code

end Domain

open Domain in
/-- What becomes of a character in a domain; nothing when it is not allowed. -/
def domainChar? (c : Char) : Option (List Char) :=
  if c.toNat < 0x80 then some [c.toLower]
  else if ignoredRanges.has c then some []
  else if refusedRanges.has c ∨ Text.isUnassigned c then none
  else
    match replacement? c.toNat with
    | some codes => some (codes.map Char.ofNat)
    | none => some [c]

end BuildManifest.Url
