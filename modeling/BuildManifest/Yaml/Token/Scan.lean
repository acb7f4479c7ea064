import BuildManifest.Yaml.Token.Directive
import BuildManifest.Yaml.Token.Scalar

/-!
# From text to tokens

Cutting a text into tokens.  A key of one line need not be marked, so a token that may turn out to
start a key is held back until a `:` confirms it, or until the line or a distance of 1024 octets
has passed.

## What is here

* `Scanner` — the cursor, the indentation, the tokens held back and the possible keys.
* `Scanner.fetch` — read the next token of the text.
* `readableLength?`, `Scanner.fetchWithin` — a text is taken in by blocks, and a forbidden character
  is noticed as soon as a token needs its block.
* `TokenStream.ofText` — all tokens that are certain before the first error, and that error.
-/

set_option autoImplicit false

namespace BuildManifest.Yaml

/-- A token that may turn out to start a key. -/
structure KeyCandidate where
  /-- Whether it must be a key, because a block mapping is indented to its column. -/
  required : Bool
  /-- The number of the token. -/
  number : Nat
  /-- Where it begins. -/
  mark : Mark
  deriving DecidableEq, Repr

/-- The state of cutting a text into tokens. -/
structure Scanner where
  /-- What is left of the text. -/
  cursor : Cursor
  /-- The tokens that are not certain yet, first to last. -/
  held : List Token := []
  /-- How many tokens came before those held. -/
  delivered : Nat := 0
  /-- The column of the innermost block collection. -/
  indent : Int := -1
  /-- The columns of the collections around it. -/
  outer : List Int := []
  /-- Whether a key may begin here. -/
  keyAllowed : Bool := true
  /-- The possible key outside all flow collections. -/
  candidate : Option KeyCandidate := none
  /-- The possible keys inside flow collections, innermost first. -/
  flowCandidates : List (Option KeyCandidate) := []
  /-- Whether the end of the text has been reached. -/
  finished : Bool := false
  deriving Repr

namespace Scanner

/-- Inside a flow collection. -/
def inFlow (s : Scanner) : Bool := !s.flowCandidates.isEmpty

/-- The possible key of the innermost flow collection, or outside all of them. -/
def current (s : Scanner) : Option KeyCandidate :=
  match s.flowCandidates with
  | innermost :: _ => innermost
  | [] => s.candidate

/-- Set the possible key of the innermost flow collection. -/
def setCurrent (s : Scanner) (candidate : Option KeyCandidate) : Scanner :=
  match s.flowCandidates with
  | _ :: rest => { s with flowCandidates := candidate :: rest }
  | [] => { s with candidate }

/-- Hold back one more token. -/
def push (s : Scanner) (kind : TokenKind) (mark : Mark) : Scanner :=
  { s with held := s.held ++ [⟨kind, mark⟩] }

/-- Put a token in front of the token of a number. -/
def pushBefore (s : Scanner) (number : Nat) (kind : TokenKind) (mark : Mark) : Scanner :=
  let place := number - s.delivered
  { s with held := s.held.take place ++ ⟨kind, mark⟩ :: s.held.drop place }

/-! ## Possible keys -/

/-- A possible key is out of reach once its line has ended or 1024 octets have passed. -/
def isStale (s : Scanner) (candidate : KeyCandidate) : Bool :=
  candidate.mark.line < s.cursor.mark.line ||
    candidate.mark.index + 1024 < s.cursor.mark.index

/-- Give up a possible key; an error when it had to be one. -/
def giveUp (s : Scanner) : Option KeyCandidate → Except SyntaxError Unit
  | some candidate =>
    if candidate.required then
      .error (s.cursor.error .missingColon (some (.simpleKey, candidate.mark)))
    else .ok ()
  | none => .ok ()

/-- A possible key, unless it is out of reach. -/
def refresh (s : Scanner) (candidate : Option KeyCandidate) :
    Except SyntaxError (Option KeyCandidate) :=
  if candidate.any s.isStale then do
    s.giveUp candidate
    return none
  else .ok candidate

/-- Give up all possible keys that are out of reach, outermost first. -/
def refreshAll (s : Scanner) : Except SyntaxError Scanner := do
  let candidate ← s.refresh s.candidate
  let inner ← s.flowCandidates.reverse.mapM s.refresh
  return { s with candidate, flowCandidates := inner.reverse }

/-- Give up the innermost possible key. -/
def dropKey (s : Scanner) : Except SyntaxError Scanner := do
  s.giveUp s.current
  return s.setCurrent none

/-- The next token may start a key, if one is allowed here. -/
def saveKey (s : Scanner) : Except SyntaxError Scanner :=
  if s.keyAllowed then do
    let required := !s.inFlow && s.indent == (s.cursor.mark.column : Int)
    let number := s.delivered + s.held.length
    let s ← s.dropKey
    return s.setCurrent (some ⟨required, number, s.cursor.mark⟩)
  else .ok s

/-! ## Indentation -/

/-- Begin a block collection at a column, unless one is indented that far.  Its token goes in
front of the token of the given number, or to the end. -/
def roll (s : Scanner) (column : Nat) (number : Option Nat) (kind : TokenKind) (mark : Mark) :
    Scanner :=
  if s.inFlow then s
  else if s.indent < column then
    let s := { s with outer := s.indent :: s.outer, indent := column }
    match number with
    | some n => s.pushBefore n kind mark
    | none => s.push kind mark
  else s

/-- End the block collections indented further than a column, given those around the innermost. -/
def unrollFrom (column : Int) : List Int → Scanner → Scanner
  | [], s => s
  | parent :: outer, s =>
    if column < s.indent then
      unrollFrom column outer
        { s.push .blockEnd s.cursor.mark with indent := parent, outer }
    else s

/-- End the block collections indented further than a column. -/
def unroll (s : Scanner) (column : Int) : Scanner :=
  if s.inFlow then s else unrollFrom column s.outer s

/-! ## Tokens -/

/-- Move to the next token, over blanks, comments and line breaks.  A byte order mark at the start
of a line is passed over and takes up a column. -/
def skipToToken : Nat → Scanner → Scanner
  | 0, s => s
  | fuel + 1, s =>
    let c := if s.cursor.mark.column = 0 ∧ s.cursor.sees '\uFEFF' then s.cursor.skip 1 else s.cursor
    let tabs := s.inFlow || !s.keyAllowed
    let c := (c.skipWhile fun char => char == ' ' || (tabs && char == '\t')).skipComment
    if c.seesAny isBreak then
      skipToToken fuel
        { s with cursor := c.skipBreak, keyAllowed := s.keyAllowed || !s.inFlow }
    else { s with cursor := c }

/-- Add a token of `length` characters at the cursor. -/
def take (s : Scanner) (kind : TokenKind) (length : Nat) : Scanner :=
  { s.push kind s.cursor.mark with cursor := s.cursor.skip length }

/-- The end of the text, on a line of its own. -/
def fetchEnd (s : Scanner) : Except SyntaxError Scanner := do
  let mark := s.cursor.mark
  let mark := if mark.column = 0 then mark else ⟨mark.index, mark.line + 1, 0⟩
  let s := { s with cursor := ⟨[], mark⟩ }
  let s ← (s.unroll (-1)).dropKey
  return { s.push .streamEnd mark with keyAllowed := false, finished := true }

/-- A directive. -/
def fetchDirective (s : Scanner) : Except SyntaxError Scanner := do
  let s ← (s.unroll (-1)).dropKey
  let (kind, after) ← scanDirective s.cursor
  return { s.push kind s.cursor.mark with keyAllowed := false, cursor := after }

/-- `---` or `...`. -/
def fetchDocumentMark (s : Scanner) (kind : TokenKind) : Except SyntaxError Scanner := do
  let s ← (s.unroll (-1)).dropKey
  return { s.take kind 3 with keyAllowed := false }

/-- An opening bracket or brace. -/
def fetchFlowStart (s : Scanner) (kind : TokenKind) : Except SyntaxError Scanner := do
  let s ← s.saveKey
  return { s.take kind 1 with keyAllowed := true, flowCandidates := none :: s.flowCandidates }

/-- A closing bracket or brace. -/
def fetchFlowEnd (s : Scanner) (kind : TokenKind) : Except SyntaxError Scanner := do
  let s ← s.dropKey
  return { s.take kind 1 with keyAllowed := false, flowCandidates := s.flowCandidates.drop 1 }

/-- `,`. -/
def fetchFlowEntry (s : Scanner) : Except SyntaxError Scanner := do
  let s ← s.dropKey
  return { s.take .flowEntry 1 with keyAllowed := true }

/-- Begin a block collection at the cursor; keys must be allowed here. -/
def rollHere (s : Scanner) (kind : TokenKind) (fault : Fault) : Except SyntaxError Scanner :=
  if s.inFlow then .ok s
  else if s.keyAllowed then .ok (s.roll s.cursor.mark.column none kind s.cursor.mark)
  else .error (s.cursor.error fault none)

/-- `-`.  In a flow collection the next stage reports it. -/
def fetchBlockEntry (s : Scanner) : Except SyntaxError Scanner := do
  let s ← s.rollHere .blockSequenceStart .misplacedBlockEntry
  let s ← s.dropKey
  return { s.take .blockEntry 1 with keyAllowed := true }

/-- `?`. -/
def fetchKey (s : Scanner) : Except SyntaxError Scanner := do
  let s ← s.rollHere .blockMappingStart .misplacedKey
  let s ← s.dropKey
  return { s.take .key 1 with keyAllowed := !s.inFlow }

/-- `:`.  It confirms a possible key. -/
def fetchValue (s : Scanner) : Except SyntaxError Scanner :=
  match s.current with
  | some candidate =>
    let s := s.pushBefore candidate.number .key candidate.mark
    let s := s.roll candidate.mark.column (some candidate.number) .blockMappingStart candidate.mark
    .ok { (s.setCurrent none).take .value 1 with keyAllowed := false }
  | none => do
    let s ← s.rollHere .blockMappingStart .misplacedValue
    return { s.take .value 1 with keyAllowed := !s.inFlow }

/-- A token that is a node or belongs to one, and may start a key. -/
def fetchNode (s : Scanner) (scan : Cursor → Except SyntaxError (TokenKind × Cursor)) :
    Except SyntaxError Scanner := do
  let s ← s.saveKey
  let (kind, after) ← scan s.cursor
  return { s.push kind s.cursor.mark with keyAllowed := false, cursor := after }

/-- A block scalar. -/
def fetchBlockScalar (s : Scanner) (literal : Bool) : Except SyntaxError Scanner := do
  let s ← s.dropKey
  let (kind, after) ← scanBlock literal s.indent s.cursor
  return { s.push kind s.cursor.mark with keyAllowed := true, cursor := after }

/-- A plain scalar.  A key may follow when its last gap broke the line. -/
def fetchPlain (s : Scanner) : Except SyntaxError Scanner := do
  let s ← s.saveKey
  let (kind, broken, after) ← scanPlain s.inFlow (s.indent + 1).toNat s.cursor
  return { s.push kind s.cursor.mark with keyAllowed := broken, cursor := after }

/-- The characters that never start a plain scalar, or only some in front of a visible one. -/
def indicators : List Char := "-?:,[]\x7b\x7d#&*!|>'\"%@\x60".toList

/-- Whether a plain scalar starts with this character, followed by that one. -/
def startsPlain (flow : Bool) (char : Char) (next : Option Char) : Bool :=
  !(endsWord (some char) || indicators.contains char) ||
    (char == '-' && !next.any isSpace) ||
    (!flow && (char == '?' || char == ':') && !endsWord next)

/-- Read the next token of the text. -/
def fetch (s : Scanner) : Except SyntaxError Scanner := do
  let s ← (skipToToken (s.cursor.rest.length + 1) s).refreshAll
  let c := s.cursor
  let s := s.unroll c.mark.column
  match c.peek with
  | none => s.fetchEnd
  | some char =>
    let next := c.ahead? 1
    let alone := endsWord next
    if c.mark.column = 0 ∧ char = '%' then s.fetchDirective
    else if c.seesDocumentMark then
      s.fetchDocumentMark (if char = '-' then .documentStart else .documentEnd)
    else if char = '[' then s.fetchFlowStart .flowSequenceStart
    else if char = '\x7b' then s.fetchFlowStart .flowMappingStart
    else if char = ']' then s.fetchFlowEnd .flowSequenceEnd
    else if char = '\x7d' then s.fetchFlowEnd .flowMappingEnd
    else if char = ',' then s.fetchFlowEntry
    else if char = '-' ∧ alone then s.fetchBlockEntry
    else if char = '?' ∧ (s.inFlow ∨ alone) then s.fetchKey
    else if char = ':' ∧ (s.inFlow ∨ alone) then s.fetchValue
    else if char = '*' then
      s.fetchNode fun c => (scanAnchor c .aliasName).map fun r => (.aliasName r.1, r.2)
    else if char = '&' then
      s.fetchNode fun c => (scanAnchor c .anchor).map fun r => (.anchor r.1, r.2)
    else if char = '!' then s.fetchNode (scanTag s.inFlow)
    else if char = '|' ∧ !s.inFlow then s.fetchBlockScalar true
    else if char = '>' ∧ !s.inFlow then s.fetchBlockScalar false
    else if char = '\'' then s.fetchNode (scanQuoted true)
    else if char = '"' then s.fetchNode (scanQuoted false)
    else if startsPlain s.inFlow char next then s.fetchPlain
    else throw (c.error .noToken (some (.nextToken, c.mark)))

/-- Whether a possible key begins with the token of this number. -/
def isCandidate (s : Scanner) (number : Nat) : Bool :=
  (s.candidate :: s.flowCandidates).any fun candidate => candidate.any (·.number == number)

end Scanner

/-! ## Forbidden characters -/

/-- How many octets a text is taken in by at a time. -/
def blockSize : Nat := 16384

/-- How many octets come before the block with the first forbidden character, if there is one;
`before` octets have been taken in. -/
def readableLength? (before : Nat) : List Char → Option Nat
  | [] => none
  | c :: rest =>
    let after := before + c.utf8Size
    if isForbidden c then some ((after - 1) / blockSize * blockSize) else readableLength? after rest

/-- How many characters from its start on a token needs at least. -/
def Scanner.foresight : Nat := 4

/-- Read the next token of a text that can be read up to the given number of octets. -/
def Scanner.fetchWithin (limit : Option Nat) (s : Scanner) : Except SyntaxError Scanner :=
  let noticed : SyntaxError := ⟨.controlCharacter, .zero, none⟩
  match limit, s.fetch with
  | none, result => result
  | some limit, .ok next =>
    let start := ((next.held.getLast?.map (·.mark)).getD next.cursor.mark).index
    if limit < max (start + foresight) (next.cursor.mark.index + 1) then .error noticed
    else .ok next
  | some limit, .error error =>
    .error (if limit < error.mark.index + 1 then noticed else error)

/-- The tokens of a text before its first error, and the error. -/
structure TokenStream where
  /-- The tokens. -/
  tokens : List Token
  /-- The error after them; without one they end with the end of the text. -/
  error : Option SyntaxError
  deriving Repr

/-- Deliver tokens until the end or an error.  A token is certain when no possible key begins with
it; otherwise more of the text has to be read. -/
def TokenStream.deliver (limit : Option Nat) : Nat → List Token → Scanner → TokenStream
  | 0, done, _ => ⟨done.reverse, none⟩
  | fuel + 1, done, s =>
    match s.held with
    | [] =>
      if s.finished then ⟨done.reverse, none⟩
      else
        match s.fetchWithin limit with
        | .ok s => deliver limit fuel done s
        | .error e => ⟨done.reverse, some e⟩
    | first :: rest =>
      match s.refreshAll with
      | .error e => ⟨done.reverse, some e⟩
      | .ok s =>
        if s.isCandidate s.delivered then
          match s.fetchWithin limit with
          | .ok s => deliver limit fuel done s
          | .error e => ⟨done.reverse, some e⟩
        else
          deliver limit fuel (first :: done) { s with held := rest, delivered := s.delivered + 1 }

/-- The tokens of a text. -/
def TokenStream.ofText (text : List Char) : TokenStream :=
  deliver (readableLength? 0 text) (8 * text.length + 32) [] { cursor := ⟨text, .zero⟩ }

end BuildManifest.Yaml
