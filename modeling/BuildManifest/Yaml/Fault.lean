/-!
# What can be wrong with a YAML text

The causes for which a text is not YAML, where each was noticed, and which construct was being
read at the time.

## What is here

* `Mark` — a place in the text.
* `Fault`, `Construct` — the causes and the constructs, each with its wording.
* `SyntaxError` — a fault at its place, with the construct and where that construct began.
-/

set_option autoImplicit false

namespace BuildManifest.Yaml

/-- A place in a text: how many octets come before it in UTF-8, and its line and column from
zero. -/
structure Mark where
  /-- Octets before this place. -/
  index : Nat
  /-- Line breaks before this place. -/
  line : Nat
  /-- Characters before this place on its line. -/
  column : Nat
  deriving DecidableEq, Repr, Inhabited

namespace Mark

/-- The start of a text. -/
def zero : Mark := ⟨0, 0, 0⟩

/-- The place as people count, from one. -/
def text (mark : Mark) : String :=
  "line " ++ toString (mark.line + 1) ++ " column " ++ toString (mark.column + 1)

/-- Whether this is the first place of the text. -/
def isStart (mark : Mark) : Bool := mark.line == 0 && mark.column == 0

end Mark

/-- A cause. -/
inductive Fault where
  | controlCharacter
  | missingColon
  | misplacedBlockEntry
  | misplacedKey
  | misplacedValue
  | noToken
  | unknownDirective
  | missingDirectiveName
  | badDirectiveName
  | missingCommentOrBreak
  | missingVersionDot
  | longVersion
  | missingVersion
  | missingWhitespace
  | missingWhitespaceOrBreak
  | badAnchor
  | missingTagBang
  | missingTagClose
  | missingTagText
  | badTagEscape
  | badLeadingOctet
  | badTrailingOctet
  | zeroIndentation
  | tabInIndentation
  | documentMarkInQuotes
  | unterminatedQuotes
  | unknownEscape
  | badEscapeDigits
  | badEscapeCode
  | colonInPlain
  | tabInPlain
  | missingDocumentStart
  | missingContent
  | undefinedTagHandle
  | missingDash
  | missingKey
  | missingCommaOrBracket
  | missingCommaOrBrace
  | repeatedVersion
  | incompatibleVersion
  | repeatedTagDirective
  deriving DecidableEq, Repr

/-- The wording of a cause. -/
def Fault.message : Fault → String
  | .controlCharacter => "control characters are not allowed"
  | .missingColon => "could not find expected ':'"
  | .misplacedBlockEntry => "block sequence entries are not allowed in this context"
  | .misplacedKey => "mapping keys are not allowed in this context"
  | .misplacedValue => "mapping values are not allowed in this context"
  | .noToken => "found character that cannot start any token"
  | .unknownDirective => "found unknown directive name"
  | .missingDirectiveName => "could not find expected directive name"
  | .badDirectiveName => "found unexpected non-alphabetical character"
  | .missingCommentOrBreak => "did not find expected comment or line break"
  | .missingVersionDot => "did not find expected digit or '.' character"
  | .longVersion => "found extremely long version number"
  | .missingVersion => "did not find expected version number"
  | .missingWhitespace => "did not find expected whitespace"
  | .missingWhitespaceOrBreak => "did not find expected whitespace or line break"
  | .badAnchor => "did not find expected alphabetic or numeric character"
  | .missingTagBang => "did not find expected '!'"
  | .missingTagClose => "did not find the expected '>'"
  | .missingTagText => "did not find expected tag URI"
  | .badTagEscape => "did not find URI escaped octet"
  | .badLeadingOctet => "found an incorrect leading UTF-8 octet"
  | .badTrailingOctet => "found an incorrect trailing UTF-8 octet"
  | .zeroIndentation => "found an indentation indicator equal to 0"
  | .tabInIndentation => "found a tab character where an indentation space is expected"
  | .documentMarkInQuotes => "found unexpected document indicator"
  | .unterminatedQuotes => "found unexpected end of stream"
  | .unknownEscape => "found unknown escape character"
  | .badEscapeDigits => "did not find expected hexdecimal number"
  | .badEscapeCode => "found invalid Unicode character escape code"
  | .colonInPlain => "found unexpected ':'"
  | .tabInPlain => "found a tab character that violates indentation"
  | .missingDocumentStart => "did not find expected <document start>"
  | .missingContent => "did not find expected node content"
  | .undefinedTagHandle => "found undefined tag handle"
  | .missingDash => "did not find expected '-' indicator"
  | .missingKey => "did not find expected key"
  | .missingCommaOrBracket => "did not find expected ',' or ']'"
  | .missingCommaOrBrace => "did not find expected ',' or '\x7d'"
  | .repeatedVersion => "found duplicate %YAML directive"
  | .incompatibleVersion => "found incompatible YAML document"
  | .repeatedTagDirective => "found duplicate %TAG directive"

/-- A construct being read. -/
inductive Construct where
  | simpleKey
  | nextToken
  | directive
  | versionDirective
  | tagDirective
  | anchor
  | aliasName
  | tag
  | blockScalar
  | quotedScalar
  | escape
  | plainScalar
  | node
  | blockNode
  | flowNode
  | blockSequence
  | blockMapping
  | flowSequence
  | flowMapping
  deriving DecidableEq, Repr

/-- The wording of a construct. -/
def Construct.message : Construct → String
  | .simpleKey => "while scanning a simple key"
  | .nextToken => "while scanning for the next token"
  | .directive => "while scanning a directive"
  | .versionDirective => "while scanning a %YAML directive"
  | .tagDirective => "while scanning a %TAG directive"
  | .anchor => "while scanning an anchor"
  | .aliasName => "while scanning an alias"
  | .tag => "while scanning a tag"
  | .blockScalar => "while scanning a block scalar"
  | .quotedScalar => "while scanning a quoted scalar"
  | .escape => "while parsing a quoted scalar"
  | .plainScalar => "while scanning a plain scalar"
  | .node => "while parsing a node"
  | .blockNode => "while parsing a block node"
  | .flowNode => "while parsing a flow node"
  | .blockSequence => "while parsing a block collection"
  | .blockMapping => "while parsing a block mapping"
  | .flowSequence => "while parsing a flow sequence"
  | .flowMapping => "while parsing a flow mapping"

/-- A fault, where it was noticed, and what was being read from where on. -/
structure SyntaxError where
  /-- The cause. -/
  fault : Fault
  /-- Where it was noticed. -/
  mark : Mark
  /-- The construct being read, and its start. -/
  within : Option (Construct × Mark)
  deriving DecidableEq, Repr

/-- The message of a syntax error; a place is named unless it is the start of the text. -/
def SyntaxError.message (e : SyntaxError) : String :=
  let place := if e.mark.isStart then "" else " at " ++ e.mark.text
  let construct := match e.within with
    | none => ""
    | some (construct, start) =>
      let since := if start.isStart ∨ (start.line = e.mark.line ∧ start.column = e.mark.column)
        then "" else " at " ++ start.text
      ", " ++ construct.message ++ since
  e.fault.message ++ place ++ construct

end BuildManifest.Yaml
