import BuildManifest.Yaml.Token.Basic
import BuildManifest.Text.Numeral

/-!
# Scalar tokens

The three ways to write a scalar.  Quoted and plain scalars fold their line breaks; block scalars
keep them, or fold them where no line is indented further.

## What is here

* `scanQuoted` — single and double quotes, with the escapes of the latter.
* `scanPlain` — no quotes; also whether the scalar ended with a line break.
* `scanBlock` — `|` and `>`, with their indentation and chomping indicators.
-/

set_option autoImplicit false

namespace BuildManifest.Yaml

open BuildManifest.Text (digitValue readDigits)

/-! ## Quoted scalars -/

/-- What an escape of one letter stands for. -/
def letterEscape? : Char → Option Char
  | '0' => some '\x00'
  | 'a' => some '\x07'
  | 'b' => some '\x08'
  | 't' => some '\t'
  | '\t' => some '\t'
  | 'n' => some '\n'
  | 'v' => some '\x0b'
  | 'f' => some '\x0c'
  | 'r' => some '\r'
  | 'e' => some '\x1b'
  | ' ' => some ' '
  | '"' => some '"'
  | '/' => some '/'
  | '\\' => some '\\'
  | 'N' => some '\x85'
  | '_' => some '\xa0'
  | 'L' => some '\u2028'
  | 'P' => some '\u2029'
  | _ => none

/-- How many hexadecimal digits follow an escape that gives a code. -/
def escapeLength? : Char → Option Nat
  | 'x' => some 2
  | 'u' => some 4
  | 'U' => some 8
  | _ => none

/-- The escape at a backslash. -/
def scanQuotedEscape (c : Cursor) (start : Mark) : Except SyntaxError (Char × Cursor) :=
  let within := some (Construct.escape, start)
  match c.ahead? 1 with
  | none => .error (c.error .unknownEscape within)
  | some letter =>
    match letterEscape? letter, escapeLength? letter with
    | some char, _ => .ok (char, c.skip 2)
    | none, none => .error (c.error .unknownEscape within)
    | none, some length =>
      let body := c.skip 2
      let digits := body.rest.take length
      match if digits.length = length then readDigits 16 digits else none with
      | none => .error (body.error .badEscapeDigits within)
      | some code =>
        if code < 0xD800 ∨ (0xDFFF < code ∧ code ≤ 0x10FFFF) then
          .ok (Char.ofNat code, body.skip length)
        else .error (body.error .badEscapeCode within)

/-- Where a run of characters in quotes stopped. -/
inductive RunEnd where
  /-- At a blank, a line break, a closing quote or the end. -/
  | here
  /-- After a line break that a backslash removes. -/
  | joined
  deriving DecidableEq, Repr

/-- The characters up to the next blank, line break or closing quote. -/
def scanQuotedRun (single : Bool) (start : Mark) :
    Nat → String → Cursor → Except SyntaxError (String × RunEnd × Cursor)
  | 0, text, c => .ok (text, .here, c)
  | fuel + 1, text, c =>
    match c.peek with
    | none => .ok (text, .here, c)
    | some char =>
      if isSpace char ∨ isBreak char then .ok (text, .here, c)
      else if single ∧ char = '\'' ∧ c.ahead? 1 = some '\'' then
        scanQuotedRun single start fuel (text.push '\'') (c.skip 2)
      else if char = (if single then '\'' else '"') then .ok (text, .here, c)
      else if !single ∧ char = '\\' then
        if (c.ahead? 1).any isBreak then .ok (text, .joined, (c.skip 1).skipBreak)
        else
          match scanQuotedEscape c start with
          | .error e => .error e
          | .ok (decoded, after) => scanQuotedRun single start fuel (text.push decoded) after
      else scanQuotedRun single start fuel (text.push char) (c.skip 1)

/-- The inside of a quoted scalar, from the cursor to its closing quote. -/
def scanQuotedBody (single : Bool) (start : Mark) :
    Nat → String → Cursor → Except SyntaxError (String × Cursor)
  | 0, text, c => .ok (text, c)
  | fuel + 1, text, c => do
    let within := some (Construct.quotedScalar, start)
    if c.seesDocumentMark then throw (c.error .documentMarkInQuotes within)
    if c.peek.isNone then throw (c.error .unterminatedQuotes within)
    let (text, stop, c) ← scanQuotedRun single start (fuel + 1) text c
    if c.sees (if single then '\'' else '"') then return (text, c.skip 1)
    let begun : Gap := if stop = .joined then { broken := true } else {}
    let (gap, c) ← begun.scan none (fuel + 1) c
    scanQuotedBody single start fuel (text ++ gap.folded) c

/-- A quoted scalar. -/
def scanQuoted (single : Bool) (c : Cursor) : Except SyntaxError (TokenKind × Cursor) := do
  let (text, after) ← scanQuotedBody single c.mark (c.rest.length + 1) "" (c.skip 1)
  return (.scalar text false, after)

/-! ## Plain scalars -/

/-- The characters of a plain scalar up to a blank, a line break or what ends the scalar. -/
def scanPlainRun (flow : Bool) (start : Mark) :
    Nat → List Char → Cursor → Except SyntaxError (List Char × Cursor)
  | 0, done, c => .ok (done.reverse, c)
  | fuel + 1, done, c =>
    match c.peek with
    | none => .ok (done.reverse, c)
    | some char =>
      if endsWord (some char) then .ok (done.reverse, c)
      else if flow ∧ char = ':' ∧ (c.ahead? 1).any ",?[]\x7b\x7d".toList.contains then
        .error (c.error .colonInPlain (some (.plainScalar, start)))
      else if char = ':' ∧ endsWord (c.ahead? 1) then .ok (done.reverse, c)
      else if flow ∧ ",[]\x7b\x7d".toList.contains char then .ok (done.reverse, c)
      else scanPlainRun flow start fuel (char :: done) (c.skip 1)

/-- The runs of a plain scalar and the gaps between them.  Gives the text, whether the gap at its
end broke the line, and where the scalar ended. -/
def scanPlainBody (flow : Bool) (indent : Nat) (start : Mark) :
    Nat → String → Gap → Cursor → Except SyntaxError (String × Bool × Cursor)
  | 0, text, gap, c => .ok (text, gap.broken, c)
  | fuel + 1, text, gap, c => do
    if c.seesDocumentMark ∨ c.sees '#' then return (text, gap.broken, c)
    let (run, c) ← scanPlainRun flow start (fuel + 1) [] c
    let (text, gap) :=
      if run.isEmpty then (text, gap)
      else (text ++ gap.folded ++ String.ofList run, ({} : Gap))
    if c.peek.isNone ∨ !endsWord c.peek then return (text, gap.broken, c)
    let (gap, c) ← gap.scan (some (indent, start)) (fuel + 1) c
    if !flow ∧ c.mark.column < indent then return (text, gap.broken, c)
    scanPlainBody flow indent start fuel text gap c

/-- A plain scalar whose further lines are indented to at least `indent`. -/
def scanPlain (flow : Bool) (indent : Nat) (c : Cursor) :
    Except SyntaxError (TokenKind × Bool × Cursor) := do
  let (text, broken, after) ← scanPlainBody flow indent c.mark (c.rest.length + 1) "" {} c
  return (.scalar text true, broken, after)

/-! ## Block scalars -/

/-- What happens to the line breaks at the end of a block scalar. -/
inductive Chomping where
  /-- All are removed. -/
  | strip
  /-- One is kept. -/
  | clip
  /-- All are kept. -/
  | keep
  deriving DecidableEq, Repr

/-- The chomping indicator, if one comes next. -/
def scanChomping (c : Cursor) : Option (Chomping × Cursor) :=
  if c.sees '+' then some (.keep, c.skip 1)
  else if c.sees '-' then some (.strip, c.skip 1)
  else none

/-- The indentation indicator, if one comes next; it may not be zero. -/
def scanIncrement (c : Cursor) (start : Mark) : Except SyntaxError (Option Nat × Cursor) :=
  match c.peek.filter Char.isDigit with
  | some '0' => .error (c.error .zeroIndentation (some (.blockScalar, start)))
  | some digit => .ok (digitValue digit, c.skip 1)
  | none => .ok (none, c)

/-- The indicators after `|` or `>`, in either order. -/
def scanBlockHeader (c : Cursor) (start : Mark) :
    Except SyntaxError (Chomping × Option Nat × Cursor) := do
  match scanChomping c with
  | some (chomping, c) =>
    let (increment, c) ← scanIncrement c start
    return (chomping, increment, c)
  | none =>
    let (increment, c) ← scanIncrement c start
    match if increment.isSome then scanChomping c else none with
    | some (chomping, c) => return (chomping, increment, c)
    | none => return (.clip, increment, c)

/-- Move over indentation and empty lines.  Gives the line breaks, the greatest column reached and
where the next line that is not empty begins.  Without `indent` all spaces are indentation. -/
def scanBlockBreaks (indent : Option Nat) (start : Mark) :
    Nat → String → Nat → Cursor → Except SyntaxError (String × Nat × Cursor)
  | 0, breaks, deepest, c => .ok (breaks, deepest, c)
  | fuel + 1, breaks, deepest, c =>
    let spaces := (c.span (· == ' ')).length
    let c := c.skip (match indent with
      | some limit => min spaces (limit - c.mark.column)
      | none => spaces)
    let deepest := max deepest c.mark.column
    if c.sees '\t' ∧ indent.all (c.mark.column < ·) then
      .error (c.error .tabInIndentation (some (.blockScalar, start)))
    else if c.seesAny isBreak then
      let (text, next) := c.takeBreak
      scanBlockBreaks indent start fuel (breaks ++ text) deepest next
    else .ok (breaks, deepest, c)

/-- The lines of a block scalar: its text without what chomping decides on, the break that ends
the last line, and the breaks after it. -/
def scanBlockLines (literal : Bool) (indent : Nat) (start : Mark) :
    Nat → String → String → String → Bool → Cursor →
      Except SyntaxError (String × String × String × Cursor)
  | 0, text, leading, trailing, _, c => .ok (text, leading, trailing, c)
  | fuel + 1, text, leading, trailing, afterBlank, c =>
    if c.mark.column ≠ indent ∨ c.peek.isNone then .ok (text, leading, trailing, c)
    else do
      let blank := c.seesAny isSpace
      let joint :=
        if !literal ∧ leading = "\n" ∧ !afterBlank ∧ !blank then
          if trailing.isEmpty then " " else ""
        else leading
      let line := c.span fun char => !isBreak char
      let (leading, next) := (c.skip line.length).takeBreak
      let (breaks, _, next) ←
        scanBlockBreaks (some indent) start (next.rest.length + 1) "" 0 next
      scanBlockLines literal indent start fuel
        (text ++ joint ++ trailing ++ String.ofList line) leading breaks blank next

/-- A block scalar inside a collection indented by `parent`, or by less than nothing at the top. -/
def scanBlock (literal : Bool) (parent : Int) (c : Cursor) :
    Except SyntaxError (TokenKind × Cursor) := do
  let start := c.mark
  let (chomping, increment, c) ← scanBlockHeader (c.skip 1) start
  let c := (c.skipWhile isSpace).skipComment
  if c.peek.any fun char => !isBreak char then
    throw (c.error .missingCommentOrBreak (some (.blockScalar, start)))
  let c := c.skipBreak
  let fixed := increment.map fun n => parent.toNat + n
  let (trailing, deepest, c) ← scanBlockBreaks fixed start (c.rest.length + 1) "" 0 c
  let indent := fixed.getD (max deepest (max (parent + 1).toNat 1))
  let (text, leading, trailing, c) ←
    scanBlockLines literal indent start (c.rest.length + 1) "" "" trailing false c
  let tail := match chomping with
    | .strip => ""
    | .clip => leading
    | .keep => leading ++ trailing
  return (.scalar (text ++ tail) false, c)

end BuildManifest.Yaml
