/-!
# UTF-8

Bytes as texts.

## What is here

* `decodeUtf8` — the text that bytes are the UTF-8 form of.
* `showBytes` — what messages show for bytes that need not be the form of any text: whatever is no
  form of a character is shown as one replacement character, and is as long as possible.
-/

set_option autoImplicit false

namespace BuildManifest.Text

/-- The text that bytes are the UTF-8 form of. -/
def decodeUtf8 (bytes : List UInt8) : Option String := String.fromUTF8? ⟨bytes.toArray⟩

/-- The least and the greatest byte of a place. -/
abbrev ByteRange := UInt8 × UInt8

/-- The bytes that continue a character. -/
def continuation : ByteRange := (0x80, 0xBF)

/-- The ranges of the bytes after the first byte of a character, if it may be one.  The second byte
excludes the long forms of small numbers, the surrogates and the numbers that are too large. -/
def followers (first : UInt8) : Option (List ByteRange) :=
  if first < 0x80 then some []
  else if first < 0xC2 then none
  else if first < 0xE0 then some [continuation]
  else if first = 0xE0 then some [(0xA0, 0xBF), continuation]
  else if first = 0xED then some [(0x80, 0x9F), continuation]
  else if first < 0xF0 then some [continuation, continuation]
  else if first = 0xF0 then some [(0x90, 0xBF), continuation, continuation]
  else if first < 0xF4 then some [continuation, continuation, continuation]
  else if first = 0xF4 then some [(0x80, 0x8F), continuation, continuation]
  else none

/-- The number of bytes that lie in their ranges before one that does not. -/
def countFitting : List ByteRange → List UInt8 → Nat
  | range :: ranges, byte :: bytes =>
    if range.1 ≤ byte ∧ byte ≤ range.2 then countFitting ranges bytes + 1 else 0
  | _, _ => 0

/-- What is shown for bytes that are no text. -/
def replacement : String := "\uFFFD"

/-- The pieces of bytes, each a character or its replacement. -/
def shownPieces : List UInt8 → List String
  | [] => []
  | first :: rest =>
    let fitting := ((followers first).map (countFitting · rest)).getD 0
    (decodeUtf8 (first :: rest.take fitting)).getD replacement :: shownPieces (rest.drop fitting)
termination_by bytes => bytes.length
decreasing_by simp only [List.length_drop, List.length_cons]; omega

/-- Bytes as messages show them. -/
def showBytes (bytes : List UInt8) : String := String.join (shownPieces bytes)

end BuildManifest.Text
