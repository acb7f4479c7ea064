import BuildManifest.Yaml.Cursor
import BuildManifest.Yaml.Scalar
import BuildManifest.Yaml.Stroke

/-!
# Writing YAML

A tree as a block-style YAML text.

## What is here

* `Shape`, `analyze` — what a text allows: plain, quoted or as a block.
* `Style`, `styleOf` — how a text is written where it stands.
* `Pen` — where the next character goes, and what has been written.
* `printNode` — one node; lists inside a mapping are not indented further than their key.
* `printYaml` — the text of a tree, unless the strokes of writing it do not fit together.
-/

set_option autoImplicit false

namespace BuildManifest.Yaml

/-! ## What a text allows -/

/-- A character that is written as it is. -/
def isPrintable (c : Char) : Bool :=
  let n := c.toNat
  n == 0x0A || (0x20 ≤ n && n ≤ 0x7E) ||
    (0xA0 ≤ n && n != 0xFEFF && n != 0xFFFE && n != 0xFFFF)

/-- A character that needs quotes in front of a plain text. -/
def isLeadingIndicator (c : Char) : Bool := "#,[]\x7b\x7d&*!|>'\"%@\x60".toList.contains c

/-- Whether one of the indicators of block context occurs, given what stands before the rest. -/
def hasIndicator (first afterBlank : Bool) : List Char → Bool
  | [] => false
  | c :: rest =>
    let beforeBlank := endsWord rest.head?
    (if first then
        isLeadingIndicator c || ((c == '?' || c == ':' || c == '-') && beforeBlank)
      else (c == ':' && beforeBlank) || (c == '#' && afterBlank)) ||
      hasIndicator false (endsWord (some c)) rest

/-- Whether a character of the first class is followed by one of the second. -/
def hasPair (p q : Char → Bool) : List Char → Bool
  | a :: b :: rest => (p a && q b) || hasPair p q (b :: rest)
  | _ => false

/-- What a text allows. -/
structure Shape where
  /-- It has line breaks. -/
  multiline : Bool
  /-- It may be plain. -/
  plain : Bool
  /-- It may be in single quotes. -/
  quoted : Bool
  /-- It may be a block. -/
  block : Bool
  deriving DecidableEq, Repr

/-- What a text allows where no flow collection is open. -/
def analyze (text : List Char) : Shape :=
  if text.isEmpty then ⟨false, true, true, false⟩
  else
    let space (c : Char) : Bool := c == ' '
    let start := text.take 3
    let multiline := text.any isBreak
    let padded := text.head?.any (fun c => space c || isBreak c) ||
      text.getLast?.any fun c => space c || isBreak c
    let breakSpace := hasPair isBreak space text
    let special := hasPair space isBreak text || text.any fun c => !isPrintable c
    let indicated := start == ['-', '-', '-'] || start == ['.', '.', '.'] ||
      hasIndicator true true text
    { multiline
      plain := !(padded || breakSpace || special || multiline || indicated)
      quoted := !(breakSpace || special)
      block := !(text.getLast?.any space || special) }

/-- How a text is written. -/
inductive Style where
  | plain
  | singleQuoted
  | doubleQuoted
  | literal
  deriving DecidableEq, Repr

/-- The style that a string asks for: a block when it has several lines, quotes when it would be
read as something else. -/
def wantedStyle (text : String) : Style :=
  if text.toList.contains '\n' then .literal
  else if standsForItself text then .plain
  else .singleQuoted

/-- The style that a text gets, as a key on one line or elsewhere. -/
def styleOf (wanted : Style) (simpleKey : Bool) (text : List Char) : Style :=
  let shape := analyze text
  let style := if simpleKey && shape.multiline then .doubleQuoted else wanted
  let style := if style = .plain ∧ (!shape.plain ∨ (text.isEmpty ∧ simpleKey)) then .singleQuoted
    else style
  let style := if style = .singleQuoted ∧ !shape.quoted then .doubleQuoted else style
  if style = .literal ∧ (!shape.block ∨ simpleKey) then .doubleQuoted else style

/-! ## The pen -/

/-- What has been written, and where the next character goes. -/
structure Pen where
  /-- The text so far. -/
  written : String := ""
  /-- How many characters are on the current line. -/
  column : Nat := 0
  /-- Whether a blank or a line break was last. -/
  afterBlank : Bool := true
  /-- Whether only indentation is on the current line. -/
  indented : Bool := true
  deriving Repr

namespace Pen

/-- Write characters without line breaks. -/
def put (p : Pen) (text : String) : Pen :=
  { p with written := p.written ++ text, column := p.column + text.length }

/-- Write a line break. -/
def breakLine (p : Pen) (char : Char) : Pen :=
  { p with written := p.written.push char, column := 0 }

/-- Go to the start of a line indented by so many columns. -/
def indentTo (p : Pen) (indent : Nat) : Pen :=
  let fresh := !p.indented || indent < p.column || (p.column == indent && !p.afterBlank)
  let p := if fresh then p.breakLine '\n' else p
  { p.put (String.ofList (List.replicate (indent - p.column) ' ')) with
    afterBlank := true, indented := true }

/-- Write an indicator that is part of the indentation, or is not. -/
def indicator (p : Pen) (text : String) (spaced indentation : Bool) : Pen :=
  let p := if spaced && !p.afterBlank then p.put " " else p
  { p.put text with afterBlank := false, indented := p.indented && indentation }

/-- The characters of a scalar have been written. -/
def closed (p : Pen) : Pen := { p with afterBlank := false, indented := false }

/-- Write a plain text. -/
def plain (p : Pen) (text : String) : Pen :=
  let p := if !p.afterBlank && !text.isEmpty then p.put " " else p
  (p.put text).closed

/-- The characters inside single quotes.  A line break is doubled unless one precedes it. -/
def singleChars (indent : Nat) : List Char → Bool → Pen → Pen
  | [], afterBreak, p => if afterBreak then p.indentTo indent else p
  | c :: rest, afterBreak, p =>
    if isBreak c then
      let p := if !afterBreak && c == '\n' then p.breakLine '\n' else p
      singleChars indent rest true { p.breakLine c with indented := true }
    else if c == ' ' then singleChars indent rest afterBreak (p.put " ")
    else
      let p := if afterBreak then p.indentTo indent else p
      let p := p.put (if c == '\'' then "''" else String.singleton c)
      singleChars indent rest false { p with indented := false }

/-- Write a text in single quotes. -/
def singleQuoted (p : Pen) (indent : Nat) (text : List Char) : Pen :=
  let p := singleChars indent text false (p.indicator "'" true false)
  (p.indicator "'" false false).closed

/-- The letters of short escapes. -/
def shortEscapes : List (Nat × Char) :=
  [(0x00, '0'), (0x07, 'a'), (0x08, 'b'), (0x09, 't'), (0x0A, 'n'), (0x0B, 'v'), (0x0C, 'f'),
    (0x0D, 'r'), (0x1B, 'e'), (0x22, '"'), (0x5C, '\\'), (0x85, 'N'), (0xA0, '_'),
    (0x2028, 'L'), (0x2029, 'P')]

/-- The digits of a number to base sixteen, in upper case, padded with zeros. -/
def hexDigits (width n : Nat) : String :=
  String.ofList ((Text.hexDigits width n).map Char.toUpper)

/-- The escape of a character. -/
def escaped (c : Char) : String :=
  let n := c.toNat
  match shortEscapes.find? (·.1 == n) with
  | some (_, letter) => "\\" ++ String.singleton letter
  | none =>
    if n ≤ 0xFF then "\\x" ++ hexDigits 2 n
    else if n ≤ 0xFFFF then "\\u" ++ hexDigits 4 n
    else "\\U" ++ hexDigits 8 n

/-- One character inside double quotes. -/
def doubleChar (c : Char) : String :=
  if !isPrintable c || isBreak c || c == '"' || c == '\\' then escaped c else String.singleton c

/-- Write a text in double quotes. -/
def doubleQuoted (p : Pen) (text : List Char) : Pen :=
  let p := p.indicator "\"" true false
  ((p.put (String.join (text.map doubleChar))).indicator "\"" false false).closed

/-- The indicator for the line breaks at the end of a block. -/
def chompingHint (text : List Char) : String :=
  match text.reverse with
  | [] => "-"
  | [last] => if isBreak last then "+" else "-"
  | last :: before :: _ => if !isBreak last then "-" else if isBreak before then "+" else ""

/-- The lines of a block. -/
def literalChars (indent : Nat) : List Char → Bool → Pen → Pen
  | [], _, p => p
  | c :: rest, afterBreak, p =>
    if isBreak c then literalChars indent rest true { p.breakLine c with indented := true }
    else
      let p := if afterBreak then p.indentTo indent else p
      literalChars indent rest false { p.put (String.singleton c) with indented := false }

/-- Write a text as a block. -/
def literal (p : Pen) (indent : Nat) (text : List Char) : Pen :=
  let p := p.indicator "|" true false
  let p := if text.head?.any fun c => c == ' ' || isBreak c then p.indicator "2" false false else p
  let p := p.indicator (chompingHint text) false false
  literalChars indent text true { p.breakLine '\n' with indented := true, afterBlank := true }

/-- Write a text in a style.  Its further lines are indented to `indent`. -/
def scalar (p : Pen) (indent : Nat) (style : Style) (text : String) : Pen :=
  match style with
  | .plain => p.plain text
  | .singleQuoted => p.singleQuoted indent text.toList
  | .doubleQuoted => p.doubleQuoted text.toList
  | .literal => p.literal indent text.toList

/-- A character that a tag holds as it is. -/
def isTagText (c : Char) : Bool := isWord c || ";/?:@&=+$,.~*'()[]".toList.contains c

/-- One character of a tag, in octets when it must be escaped. -/
def tagChar (c : Char) : String :=
  if isTagText c then String.singleton c
  else String.join
    ((String.singleton c).toUTF8.data.toList.map fun octet => "%" ++ hexDigits 2 octet.toNat)

/-- A tag of this name with one exclamation mark in front, up to a zero character. -/
def fullTag (name : String) : List Char :=
  (if name.startsWith "!" then name.toList else '!' :: name.toList).takeWhile (· ≠ '\x00')

/-- The text of a tag.  The mark alone has only the verbatim form. -/
def tagText (name : String) : String :=
  let escapedText (text : List Char) : String := String.join (text.map tagChar)
  match fullTag name with
  | [] | [_] => "!<" ++ escapedText ['!'] ++ ">"
  | _ :: suffix => "!" ++ escapedText suffix

/-- Write a tag. -/
def tag (p : Pen) (name : String) : Pen :=
  let p := if p.afterBlank then p else p.put " "
  (p.put (tagText name)).closed

end Pen

/-! ## Nodes -/

/-- The texts and wanted styles of scalars. -/
def scalarStyle? : Tree → Option (String × Style)
  | .null => some ("null", .plain)
  | .bool value => some (Tree.boolWord value, .plain)
  | .number value => some (value.text, .plain)
  | .string text => some (text, wantedStyle text)
  | _ => none

/-- The length of a key that fits on one line, if it can be written on one. -/
def keyLength? : Tree → Option Nat
  | .sequence [] => some 0
  | .mapping [] => some 0
  | .tagged name content => (keyLength? content).map (Cursor.octetLength (Pen.fullTag name) + ·)
  | tree =>
    match scalarStyle? tree with
    | some (text, _) => if (analyze text.toList).multiline then none else some text.utf8ByteSize
    | none => none

/-- A key that is written in front of its colon on one line. -/
def isSimpleKey (key : Tree) : Bool := (keyLength? key).any (· ≤ 128)

/-- Where a node stands. -/
structure Position where
  /-- The column of the collection it belongs to, if it belongs to one. -/
  indent : Option Nat
  /-- Whether that is a mapping. -/
  inMapping : Bool
  /-- Whether it is a key on one line. -/
  simpleKey : Bool

/-- The column of the lines of a scalar. -/
def Position.scalarIndent (pos : Position) : Nat := (pos.indent.map (· + 2)).getD 2

/-- The column of the entries of a mapping. -/
def Position.mappingIndent (pos : Position) : Nat := (pos.indent.map (· + 2)).getD 0

/-- The column of the items of a sequence: that of the mapping it is a value in, when its line has
begun with something else. -/
def Position.sequenceIndent (pos : Position) (p : Pen) : Nat :=
  match pos.indent with
  | some indent => if pos.inMapping && !p.indented then indent else indent + 2
  | none => 0

mutual

/-- Write a node. -/
def printNode (pos : Position) (p : Pen) : Tree → Pen
  | .tagged name content => printNode pos (p.tag name) content
  | .sequence items =>
    if items.isEmpty then (p.indicator "[" true false).put "]" |>.closed
    else printItems (pos.sequenceIndent p) p items
  | .mapping entries =>
    if entries.isEmpty then (p.indicator "\x7b" true false).put "\x7d" |>.closed
    else printEntries pos.mappingIndent p entries
  | .null => p.scalar pos.scalarIndent .plain "null"
  | .bool value => p.scalar pos.scalarIndent .plain (Tree.boolWord value)
  | .number value => p.scalar pos.scalarIndent .plain value.text
  | .string text =>
    p.scalar pos.scalarIndent (styleOf (wantedStyle text) pos.simpleKey text.toList) text

/-- Write the items of a sequence, each on a line of its own. -/
def printItems (indent : Nat) (p : Pen) : List Tree → Pen
  | [] => p
  | item :: rest =>
    let p := (p.indentTo indent).indicator "-" true true
    printItems indent (printNode ⟨some indent, false, false⟩ p item) rest

/-- Write the entries of a mapping, each on a line of its own. -/
def printEntries (indent : Nat) (p : Pen) : List (Tree × Tree) → Pen
  | [] => p
  | (key, value) :: rest =>
    let p := p.indentTo indent
    let p :=
      if isSimpleKey key then
        (printNode ⟨some indent, true, true⟩ p key).indicator ":" false false
      else
        let p := printNode ⟨some indent, true, false⟩ (p.indicator "?" true true) key
        (p.indentTo indent).indicator ":" true true
    printEntries indent (printNode ⟨some indent, true, false⟩ p value) rest

end

/-- The text of a tree, if it can be written. -/
def printYaml (tree : Tree) : Except WriteFault String :=
  match WriteFault.first [] (strokes false tree) with
  | some fault => .error fault
  | none => .ok ((printNode ⟨none, false, false⟩ {} tree).indentTo 0).written

end BuildManifest.Yaml
