import BuildManifest.Yaml.Token.Basic
import BuildManifest.Text.Numeral

/-!
# Tags, anchors and directives

The tokens that start with `!`, `&`, `*` and `%`.

## What is here

* `scanAnchor` — the name after `&` or `*`.
* `scanTagHandle`, `scanTagText`, `scanTag` — a tag, short or verbatim, with its escapes undone.
  What is left are octets, which end in front of the first that is zero.
* `scanDirective` — `%YAML` and `%TAG`, to the end of their line.
-/

set_option autoImplicit false

namespace BuildManifest.Yaml

open BuildManifest.Text (digitValue)

/-- The name after `&` or `*`; blanks, the end or an indicator must follow it. -/
def scanAnchor (c : Cursor) (construct : Construct) : Except SyntaxError (String × Cursor) :=
  let body := c.skip 1
  let name := body.span isWord
  let after := body.skip name.length
  if name.isEmpty ∨ !(endsWord after.peek ∨ after.seesAny "?:,]\x7d%@\x60".toList.contains) then
    .error (after.error .badAnchor (some (construct, c.mark)))
  else .ok (String.ofList name, after)

/-! ## Tags -/

/-- Where a tag is read: as a tag, or as a part of a `%TAG` directive. -/
structure TagPlace where
  /-- In a directive. -/
  inDirective : Bool
  /-- Where the tag or directive begins. -/
  start : Mark

/-- The construct that errors of a tag name. -/
def TagPlace.within (place : TagPlace) : Option (Construct × Mark) :=
  some (if place.inDirective then .tagDirective else .tag, place.start)

/-- `!`, `!!` or `!word!`; outside a directive also `!word`, which is the start of the tag. -/
def scanTagHandle (c : Cursor) (place : TagPlace) : Except SyntaxError (String × Cursor) :=
  if !c.sees '!' then .error (c.error .missingTagBang place.within)
  else
    let word := (c.skip 1).span isWord
    let after := c.skip (1 + word.length)
    if after.sees '!' then .ok (String.ofList ('!' :: word ++ ['!']), after.skip 1)
    else if place.inDirective ∧ !word.isEmpty then
      .error (after.error .missingTagBang place.within)
    else .ok (String.ofList ('!' :: word), after)

/-- How many octets a leading octet announces, itself included. -/
def octetCount (octet : Nat) : Nat :=
  if octet < 0x80 then 1
  else if octet / 0x20 = 0b110 then 2
  else if octet / 0x10 = 0b1110 then 3
  else if octet / 0x08 = 0b11110 then 4
  else 0

/-- One `%` and its two hexadecimal digits. -/
def scanOctet (c : Cursor) (place : TagPlace) : Except SyntaxError Nat :=
  let digit (n : Nat) : Option Nat := ((c.ahead? n).bind digitValue).filter (· < 16)
  match c.sees '%', digit 1, digit 2 with
  | true, some high, some low => .ok (16 * high + low)
  | _, _, _ => .error (c.error .badTagEscape place.within)

/-- The further octets of one escaped character. -/
def scanTrailing (place : TagPlace) :
    Nat → List UInt8 → Cursor → Except SyntaxError (List UInt8 × Cursor)
  | 0, octets, c => .ok (octets, c)
  | more + 1, octets, c => do
    let octet ← scanOctet c place
    if octet / 0x40 ≠ 0b10 then throw (c.error .badTrailingOctet place.within)
    scanTrailing place more (octets ++ [octet.toUInt8]) (c.skip 3)

/-- The octets of an escaped character, as many as the first announces. -/
def scanEscape (c : Cursor) (place : TagPlace) : Except SyntaxError (List UInt8 × Cursor) := do
  let octet ← scanOctet c place
  let count := octetCount octet
  if count = 0 then throw (c.error .badLeadingOctet place.within)
  scanTrailing place (count - 1) [octet.toUInt8] (c.skip 3)

/-- A character of tags; the flow indicators are allowed in a verbatim tag and in a directive. -/
def isTagChar (verbatim : Bool) (c : Char) : Bool :=
  isWord c || ";/?:@&=+$.%!~*'()".toList.contains c || (verbatim && ",[]".toList.contains c)

/-- The octets of a character that is not escaped. -/
def charOctets (c : Char) : List UInt8 := String.utf8EncodeChar c

/-- The octets of each character of a tag, escaped or not. -/
def scanTagChars (place : TagPlace) (verbatim : Bool) :
    Nat → List (List UInt8) → Cursor → Except SyntaxError (List (List UInt8) × Cursor)
  | 0, done, c => .ok (done.reverse, c)
  | fuel + 1, done, c =>
    match c.peek with
    | some char =>
      if !isTagChar verbatim char then .ok (done.reverse, c)
      else if char = '%' then do
        let (octets, after) ← scanEscape c place
        scanTagChars place verbatim fuel (octets :: done) after
      else scanTagChars place verbatim fuel (charOctets char :: done) (c.skip 1)
    | none => .ok (done.reverse, c)

/-- The octets of a tag after what was already read of it, of which the first character is dropped.
A zero octet and what follows it do not count. -/
def scanTagText (c : Cursor) (place : TagPlace) (verbatim : Bool) (head : List Char) :
    Except SyntaxError (List UInt8 × Cursor) := do
  let (octets, after) ← scanTagChars place verbatim (c.rest.length + 1) [] c
  if head.isEmpty ∧ octets.isEmpty then throw (after.error .missingTagText place.within)
  return ((((head.drop 1).map charOctets ++ octets).flatten).takeWhile (· ≠ 0), after)

/-- A tag: `!<verbatim>`, `!suffix`, `!handle!suffix` or `!` alone. -/
def scanTag (flow : Bool) (c : Cursor) : Except SyntaxError (TokenKind × Cursor) := do
  let place : TagPlace := ⟨false, c.mark⟩
  let (kind, after) ←
    if c.ahead? 1 = some '<' then do
      let (text, after) ← scanTagText (c.skip 2) place true []
      if !after.sees '>' then throw (after.error .missingTagClose place.within)
      pure (TokenKind.tag "" text, after.skip 1)
    else do
      let (handle, after) ← scanTagHandle c place
      if 1 < handle.length ∧ handle.toList.getLast? = some '!' then do
        let (suffix, after) ← scanTagText after place false []
        pure (TokenKind.tag handle suffix, after)
      else do
        let (suffix, after) ← scanTagText after place false handle.toList
        pure (if suffix.isEmpty then TokenKind.tag "" (charOctets '!')
          else TokenKind.tag "!" suffix, after)
  if endsWord after.peek ∨ (flow ∧ after.sees ',') then return (kind, after)
  throw (after.error .missingWhitespaceOrBreak place.within)

/-! ## Directives -/

/-- A number of a version, at most nine digits long. -/
def scanVersionNumber (c : Cursor) (start : Mark) : Except SyntaxError (Nat × Cursor) :=
  let digits := c.span Char.isDigit
  let within := some (Construct.versionDirective, start)
  if 9 < digits.length then .error ((c.skip 9).error .longVersion within)
  else
    match Text.readDigits 10 digits with
    | some value => .ok (value, c.skip digits.length)
    | none => .error (c.error .missingVersion within)

/-- The two numbers after `%YAML`. -/
def scanVersion (c : Cursor) (start : Mark) : Except SyntaxError (TokenKind × Cursor) := do
  let (major, c) ← scanVersionNumber (c.skipWhile isSpace) start
  if !c.sees '.' then
    throw (c.error .missingVersionDot (some (Construct.versionDirective, start)))
  let (minor, c) ← scanVersionNumber (c.skip 1) start
  return (.version major minor, c)

/-- The handle and its expansion after `%TAG`. -/
def scanTagDirective (c : Cursor) (start : Mark) : Except SyntaxError (TokenKind × Cursor) := do
  let place : TagPlace := ⟨true, start⟩
  let (handle, c) ← scanTagHandle (c.skipWhile isSpace) place
  if !c.seesAny isSpace then throw (c.error .missingWhitespace place.within)
  let (expansion, c) ← scanTagText (c.skipWhile isSpace) place true []
  if !endsWord c.peek then throw (c.error .missingWhitespaceOrBreak place.within)
  return (.tagDirective handle expansion, c)

/-- A directive and the rest of its line. -/
def scanDirective (c : Cursor) : Except SyntaxError (TokenKind × Cursor) := do
  let within := some (Construct.directive, c.mark)
  let name := (c.skip 1).span isWord
  let after := c.skip (1 + name.length)
  if name.isEmpty then throw (after.error .missingDirectiveName within)
  if !endsWord after.peek then throw (after.error .badDirectiveName within)
  let (kind, after) ←
    if name = "YAML".toList then scanVersion after c.mark
    else if name = "TAG".toList then scanTagDirective after c.mark
    else throw (after.error .unknownDirective within)
  let rest := (after.skipWhile isSpace).skipComment
  if rest.peek.any fun char => !isBreak char then
    throw (rest.error .missingCommentOrBreak within)
  return (kind, rest.skipBreak)

end BuildManifest.Yaml
