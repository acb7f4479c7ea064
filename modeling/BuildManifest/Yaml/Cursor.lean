import BuildManifest.Yaml.Fault

/-!
# Reading a YAML text from front to back

A cursor is what is left of the text and where that begins.  The end of the text is the absence of
a next character.

## What is here

* `isSpace`, `isBreak`, `isWord` and their forms for "or the end" — YAML's character classes.
* `Cursor` — moving over characters and over line breaks.
* `Gap` — the blanks and line breaks between two pieces of a scalar, and what they fold to.
-/

set_option autoImplicit false

namespace BuildManifest.Yaml

/-- A character that may not occur in a text at all. -/
def isForbidden (c : Char) : Bool :=
  let n := c.toNat
  !(n == 0x09 || n == 0x0A || n == 0x0D || (0x20 ≤ n && n ≤ 0x7E) || n == 0x85 ||
    (0xA0 ≤ n && n ≤ 0xD7FF) || (0xE000 ≤ n && n ≤ 0xFFFD) || 0x10000 ≤ n)

/-- A space or a tab. -/
def isSpace (c : Char) : Bool := c == ' ' || c == '\t'

/-- A line break: carriage return, line feed, next line, line separator, paragraph separator. -/
def isBreak (c : Char) : Bool :=
  c == '\n' || c == '\r' || c == '\x85' || c == '\u2028' || c == '\u2029'

/-- A character of names: an ASCII letter or digit, `_` or `-`. -/
def isWord (c : Char) : Bool := c.isAlphanum || c == '_' || c == '-'

/-- A space, a tab, a line break, or the end. -/
def endsWord : Option Char → Bool
  | some c => isSpace c || isBreak c
  | none => true

/-- The rest of a text, and the place where it begins. -/
structure Cursor where
  /-- What is left. -/
  rest : List Char
  /-- Where it begins. -/
  mark : Mark
  deriving Repr

namespace Cursor

/-- The next character. -/
def peek (c : Cursor) : Option Char := c.rest.head?

/-- The character after `n` more. -/
def ahead? (c : Cursor) (n : Nat) : Option Char := c.rest[n]?

/-- Whether the next character is this one. -/
def sees (c : Cursor) (char : Char) : Bool := c.peek == some char

/-- Whether a character of this class comes next. -/
def seesAny (c : Cursor) (p : Char → Bool) : Bool := c.peek.any p

/-- How many octets characters take in UTF-8. -/
def octetLength (text : List Char) : Nat := text.foldl (fun total c => total + c.utf8Size) 0

/-- Move over `n` characters, none of them a line break. -/
def skip (c : Cursor) (n : Nat) : Cursor :=
  let moved := c.rest.take n
  ⟨c.rest.drop n, ⟨c.mark.index + octetLength moved, c.mark.line, c.mark.column + moved.length⟩⟩

/-- The characters of a class that come next. -/
def span (c : Cursor) (p : Char → Bool) : List Char := c.rest.takeWhile p

/-- Move over the characters of a class. -/
def skipWhile (c : Cursor) (p : Char → Bool) : Cursor := c.skip (c.span p).length

/-- Move to the next line break or the end. -/
def skipLine (c : Cursor) : Cursor := c.skipWhile fun char => !isBreak char

/-- Move over a comment, if one comes next. -/
def skipComment (c : Cursor) : Cursor := if c.sees '#' then c.skipLine else c

/-- Move over one line break; a carriage return and a line feed are one.  Every break reads as a
line feed except the two separators, which are kept. -/
def takeBreak (c : Cursor) : String × Cursor :=
  let next (rest : List Char) (moved : Nat) : Cursor :=
    ⟨rest, ⟨c.mark.index + moved, c.mark.line + 1, 0⟩⟩
  match c.rest with
  | '\r' :: '\n' :: rest => ("\n", next rest 2)
  | char :: rest =>
    if char = '\u2028' ∨ char = '\u2029' then (String.singleton char, next rest char.utf8Size)
    else if isBreak char then ("\n", next rest char.utf8Size)
    else ("", c)
  | [] => ("", c)

/-- Move over one line break, if one comes next. -/
def skipBreak (c : Cursor) : Cursor := c.takeBreak.2

/-- Whether a document mark, `---` or `...`, stands at the start of a line here. -/
def seesDocumentMark (c : Cursor) : Bool :=
  c.mark.column == 0 && (c.rest.take 3 == ['-', '-', '-'] || c.rest.take 3 == ['.', '.', '.']) &&
    endsWord (c.ahead? 3)

/-- The error that a fault was noticed here. -/
def error (c : Cursor) (fault : Fault) (within : Option (Construct × Mark)) : SyntaxError :=
  ⟨fault, c.mark, within⟩

end Cursor

/-! ## Folding -/

/-- What stands between two pieces of a scalar. -/
structure Gap where
  /-- Spaces and tabs before any line break. -/
  blanks : String := ""
  /-- The first line break. -/
  leading : String := ""
  /-- The line breaks after the first. -/
  trailing : String := ""
  /-- Whether the line was broken. -/
  broken : Bool := false
  deriving Repr

namespace Gap

/-- The first line break folds to a space unless more follow; breaks other than a line feed are
kept. -/
def folded (gap : Gap) : String :=
  if gap.broken then
    if gap.leading == "\n" then
      if gap.trailing.isEmpty then " " else gap.trailing
    else gap.leading ++ gap.trailing
  else gap.blanks

/-- Extend a gap over the blanks and line breaks that come next.  Where `indent` is given, a tab
left of that column on a new line is an error. -/
def scan (indent : Option (Nat × Mark)) : Nat → Gap → Cursor → Except SyntaxError (Gap × Cursor)
  | 0, gap, c => .ok (gap, c)
  | fuel + 1, gap, c =>
    match c.peek with
    | some char =>
      if isSpace char then
        match indent.filter fun limit => gap.broken && c.mark.column < limit.1 && char == '\t' with
        | some (_, start) => .error (c.error .tabInPlain (some (.plainScalar, start)))
        | none =>
          scan indent fuel
            (if gap.broken then gap else { gap with blanks := gap.blanks.push char }) (c.skip 1)
      else if isBreak char then
        let (text, next) := c.takeBreak
        scan indent fuel
          (if gap.broken then { gap with trailing := gap.trailing ++ text }
            else { gap with blanks := "", leading := text, broken := true }) next
      else .ok (gap, c)
    | none => .ok (gap, c)

end Gap

end BuildManifest.Yaml
