import BuildManifest.Yaml.Token.Scan

/-!
# YAML events

The structure of a YAML text: scalars, aliases, and where collections and documents begin and end.

## What is here

* `Event` — one of these, with its anchor and its tag in full.
* `Expectation`, `Grammar` — what the grammar still expects after the events so far, innermost
  first, and the step that turns tokens into the next event.
* `EventStream.ofTokens` — all events before the first error, and that error.
-/

set_option autoImplicit false

namespace BuildManifest.Yaml

/-- The anchor and the full tag of a node. -/
structure Properties where
  /-- The name after `&`. -/
  anchor : Option String := none
  /-- The octets of the tag, with its handle expanded. -/
  tag : Option (List UInt8) := none
  deriving DecidableEq, Repr

/-- What an event is. -/
inductive EventKind where
  | documentStart
  | documentEnd
  | streamEnd
  | aliasName (name : String)
  | scalar (properties : Properties) (text : String) (plain : Bool)
  | sequenceStart (properties : Properties)
  | sequenceEnd
  | mappingStart (properties : Properties)
  | mappingEnd
  deriving DecidableEq, Repr

/-- An event and where it begins. -/
structure Event where
  /-- What it is. -/
  kind : EventKind
  /-- Where it begins. -/
  mark : Mark
  deriving DecidableEq, Repr

/-- What the grammar expects next.  `start` is where the collection began. -/
inductive Expectation where
  | document (implicit : Bool)
  | documentContent
  | documentEnd
  | blockNode
  | blockSequenceEntry (start : Mark)
  | indentlessEntry
  | blockMappingKey (start : Mark)
  | blockMappingValue (start : Mark)
  | flowSequenceEntry (start : Mark) (first : Bool)
  | pairKey (start : Mark)
  | pairValue (start : Mark)
  | pairEnd (start : Mark)
  | flowMappingKey (start : Mark) (first : Bool)
  | flowMappingValue (start : Mark)
  | flowMappingNoValue (start : Mark)
  deriving DecidableEq, Repr

/-- The state between two events. -/
structure Grammar where
  /-- The tokens to come. -/
  tokens : List Token
  /-- The error after them. -/
  failure : Option SyntaxError
  /-- What is expected, innermost first. -/
  expected : List Expectation
  /-- The tag handles of the document and their expansions. -/
  handles : List (String × List UInt8) := []
  deriving Repr

/-- The outcome of a step: an error, the end, or an event and the state after it. -/
inductive Step where
  /-- The grammar is violated, or the tokens ended in an error. -/
  | failed (error : SyntaxError)
  /-- Nothing is left. -/
  | finished
  /-- One more event. -/
  | event (event : Event) (next : Grammar)

namespace Grammar

/-- The handles that every document has. -/
def standardHandles : List (String × List UInt8) :=
  [("!", charOctets '!'), ("!!", "tag:yaml.org,2002:".toList.flatMap charOctets)]

/-- An event, after which the given expectations come before those that remain. -/
def emit (g : Grammar) (kind : EventKind) (mark : Mark) (expected : List Expectation) : Step :=
  .event ⟨kind, mark⟩ { g with expected }

/-- The scalar that is written as nothing. -/
def emitEmpty (g : Grammar) (mark : Mark) (expected : List Expectation) : Step :=
  g.emit (.scalar {} "" true) mark expected

/-- The anchor and the tag in front of a node, each at most once, in either order. -/
structure NodeProperties where
  /-- The anchor. -/
  anchor : Option String := none
  /-- The tag's handle and suffix, and where it begins. -/
  tag : Option (String × List UInt8 × Mark) := none

/-- Take the properties off the tokens. -/
def takeProperties : List Token → NodeProperties × List Token
  | ⟨.anchor name, _⟩ :: ⟨.tag handle suffix, mark⟩ :: rest =>
    (⟨some name, some (handle, suffix, mark)⟩, rest)
  | ⟨.anchor name, _⟩ :: rest => (⟨some name, none⟩, rest)
  | ⟨.tag handle suffix, mark⟩ :: ⟨.anchor name, _⟩ :: rest =>
    (⟨some name, some (handle, suffix, mark)⟩, rest)
  | ⟨.tag handle suffix, mark⟩ :: rest => (⟨none, some (handle, suffix, mark)⟩, rest)
  | tokens => ({}, tokens)

/-- The full tag; an error when its handle is not known. -/
def expandTag (g : Grammar) (start : Mark) (tag : Option (String × List UInt8 × Mark)) :
    Except SyntaxError (Option (List UInt8)) :=
  match tag with
  | none => .ok none
  | some ("", suffix, _) => .ok (some suffix)
  | some (handle, suffix, mark) =>
    match g.handles.find? (·.1 == handle) with
    | some (_, expansion) => .ok (some (expansion ++ suffix))
    | none => .error ⟨.undefinedTagHandle, mark, some (.node, start)⟩

/-- What to report when the tokens end: the error after them. -/
def noToken (g : Grammar) : Step :=
  match g.failure with
  | some error => .failed error
  | none => .finished

/-- No content: the properties alone are an empty scalar, nothing at all is an error. -/
def noContent (g : Grammar) (block : Bool) (found : NodeProperties) (properties : Properties)
    (start mark : Mark) (after : List Expectation) : Step :=
  if found.anchor.isSome ∨ found.tag.isSome then
    g.emit (.scalar properties "" true) start after
  else
    .failed ⟨.missingContent, mark, some (if block then .blockNode else .flowNode, start)⟩

/-- A node, with the expectations after it. -/
def node (g : Grammar) (block indentless : Bool) (after : List Expectation) : Step :=
  match g.tokens with
  | [] => g.noToken
  | ⟨.aliasName name, mark⟩ :: rest => { g with tokens := rest }.emit (.aliasName name) mark after
  | first :: _ =>
    let (found, tokens) := takeProperties g.tokens
    match tokens with
    | [] => g.noToken
    | token :: rest =>
      match g.expandTag first.mark found.tag with
      | .error error => .failed error
      | .ok tag =>
        let properties : Properties := ⟨found.anchor, tag⟩
        let here := { g with tokens }
        let past := { g with tokens := rest }
        match token.kind with
        | .blockEntry =>
          if indentless then
            here.emit (.sequenceStart properties) first.mark (.indentlessEntry :: after)
          else here.noContent block found properties first.mark token.mark after
        | .scalar text plain => past.emit (.scalar properties text plain) first.mark after
        | .flowSequenceStart =>
          past.emit (.sequenceStart properties) first.mark
            (.flowSequenceEntry token.mark true :: after)
        | .flowMappingStart =>
          past.emit (.mappingStart properties) first.mark (.flowMappingKey token.mark true :: after)
        | .blockSequenceStart =>
          if block then
            past.emit (.sequenceStart properties) first.mark
              (.blockSequenceEntry token.mark :: after)
          else here.noContent block found properties first.mark token.mark after
        | .blockMappingStart =>
          if block then
            past.emit (.mappingStart properties) first.mark (.blockMappingKey token.mark :: after)
          else here.noContent block found properties first.mark token.mark after
        | _ => here.noContent block found properties first.mark token.mark after

/-! ## Documents -/

/-- The directives in front of a document: the handles they define. -/
def directives : List Token → Bool → List (String × List UInt8) →
    Except SyntaxError (List Token × List (String × List UInt8))
  | ⟨.version major minor, mark⟩ :: rest, versioned, handles =>
    if versioned then .error ⟨.repeatedVersion, mark, none⟩
    else if major ≠ 1 ∨ (minor ≠ 1 ∧ minor ≠ 2) then .error ⟨.incompatibleVersion, mark, none⟩
    else directives rest true handles
  | ⟨.tagDirective handle expansion, mark⟩ :: rest, versioned, handles =>
    if handles.any (·.1 == handle) then .error ⟨.repeatedTagDirective, mark, none⟩
    else directives rest versioned (handles ++ [(handle, expansion)])
  | tokens, _, handles =>
    .ok (tokens, handles ++ standardHandles.filter fun entry => !handles.any (·.1 == entry.1))

/-- The start of a document, or the end of the text. -/
def document (g : Grammar) (implicit : Bool) : Step :=
  let tokens := if implicit then g.tokens else g.tokens.dropWhile (·.kind == .documentEnd)
  match tokens with
  | [] => g.noToken
  | first :: _ =>
    match first.kind with
    | .streamEnd => { g with tokens := [], failure := none }.emit .streamEnd first.mark []
    | _ =>
      let explicit := match first.kind with
        | .version .. | .tagDirective .. | .documentStart => true
        | _ => !implicit
      if !explicit then
        { g with tokens, handles := standardHandles }.emit .documentStart first.mark
          [.blockNode, .documentEnd]
      else
        match directives tokens false [] with
        | .error error => .failed error
        | .ok ([], _) => g.noToken
        | .ok (next :: rest, handles) =>
          if next.kind = .documentStart then
            { g with tokens := rest, handles }.emit .documentStart first.mark
              [.documentContent, .documentEnd]
          else .failed ⟨.missingDocumentStart, next.mark, none⟩

/-- Whether a document's content is left out in front of this token. -/
def endsDocument : TokenKind → Bool
  | .version .. | .tagDirective .. | .documentStart | .documentEnd | .streamEnd => true
  | _ => false

/-! ## Collections -/

/-- The value of a block mapping's key, or the content after `-`, unless it is left out. -/
def blockContent (g : Grammar) (mark : Mark) (indentless : Bool)
    (leftOut : List TokenKind) (after : List Expectation) : Step :=
  match g.tokens with
  | [] => g.noToken
  | token :: _ =>
    if leftOut.contains token.kind then g.emitEmpty mark after else g.node true indentless after

/-- A node in a flow collection, unless it is left out. -/
def flowContent (g : Grammar) (leftOut : List TokenKind) (after : List Expectation) : Step :=
  match g.tokens with
  | [] => g.noToken
  | token :: _ =>
    if leftOut.contains token.kind then g.emitEmpty token.mark after else g.node false false after

/-- One item of a flow sequence, the comma in front of it already taken. -/
def flowItem (g : Grammar) (start : Mark) (after : List Expectation) : Step :=
  match g.tokens with
  | [] => g.noToken
  | token :: rest =>
    match token.kind with
    | .key =>
      { g with tokens := rest }.emit (.mappingStart {}) token.mark (.pairKey start :: after)
    | .flowSequenceEnd => { g with tokens := rest }.emit .sequenceEnd token.mark after
    | _ => g.node false false (.flowSequenceEntry start false :: after)

/-- One key of a flow mapping, the comma in front of it already taken. -/
def flowKey (g : Grammar) (start : Mark) (after : List Expectation) : Step :=
  match g.tokens with
  | [] => g.noToken
  | token :: rest =>
    match token.kind with
    | .key =>
      { g with tokens := rest }.flowContent
        [.value, .flowEntry, .flowMappingEnd]
        (.flowMappingValue start :: after)
    | .flowMappingEnd => { g with tokens := rest }.emit .mappingEnd token.mark after
    | _ => g.node false false (.flowMappingNoValue start :: after)

/-- The event that answers one expectation, with those that remain. -/
def answer (g : Grammar) (token : Token) (rest : List Token) (after : List Expectation) :
    Expectation → Step
  | .document implicit => g.document implicit
  | .documentContent =>
    if endsDocument token.kind then g.emitEmpty token.mark after else g.node true false after
  | .documentEnd =>
    let tokens := if token.kind = .documentEnd then rest else g.tokens
    { g with tokens, handles := [] }.emit .documentEnd token.mark [.document false]
  | .blockNode => g.node true false after
  | .blockSequenceEntry start =>
    match token.kind with
    | .blockEntry =>
      { g with tokens := rest }.blockContent token.mark false
        [.blockEntry, .blockEnd] (.blockSequenceEntry start :: after)
    | .blockEnd => { g with tokens := rest }.emit .sequenceEnd token.mark after
    | _ => .failed ⟨.missingDash, token.mark, some (.blockSequence, start)⟩
  | .indentlessEntry =>
    match token.kind with
    | .blockEntry =>
      { g with tokens := rest }.blockContent token.mark false
        [.blockEntry, .key, .value, .blockEnd]
        (.indentlessEntry :: after)
    | _ => g.emit .sequenceEnd token.mark after
  | .blockMappingKey start =>
    match token.kind with
    | .key =>
      { g with tokens := rest }.blockContent token.mark true
        [.key, .value, .blockEnd]
        (.blockMappingValue start :: after)
    | .blockEnd => { g with tokens := rest }.emit .mappingEnd token.mark after
    | _ => .failed ⟨.missingKey, token.mark, some (.blockMapping, start)⟩
  | .blockMappingValue start =>
    match token.kind with
    | .value =>
      { g with tokens := rest }.blockContent token.mark true
        [.key, .value, .blockEnd]
        (.blockMappingKey start :: after)
    | _ => g.emitEmpty token.mark (.blockMappingKey start :: after)
  | .flowSequenceEntry start first =>
    match first, token.kind with
    | true, _ | false, .flowSequenceEnd => g.flowItem start after
    | false, .flowEntry => { g with tokens := rest }.flowItem start after
    | false, _ => .failed ⟨.missingCommaOrBracket, token.mark, some (.flowSequence, start)⟩
  | .pairKey start =>
    match token.kind with
    -- The token that stands in place of the key is passed over, also when it is the colon.
    | .value | .flowEntry | .flowSequenceEnd =>
      { g with tokens := rest }.emitEmpty token.mark (.pairValue start :: after)
    | _ => g.node false false (.pairValue start :: after)
  | .pairValue start =>
    match token.kind with
    | .value =>
      { g with tokens := rest }.flowContent
        [.flowEntry, .flowSequenceEnd] (.pairEnd start :: after)
    | _ => g.emitEmpty token.mark (.pairEnd start :: after)
  | .pairEnd start => g.emit .mappingEnd token.mark (.flowSequenceEntry start false :: after)
  | .flowMappingKey start first =>
    match first, token.kind with
    | true, _ | false, .flowMappingEnd => g.flowKey start after
    | false, .flowEntry => { g with tokens := rest }.flowKey start after
    | false, _ => .failed ⟨.missingCommaOrBrace, token.mark, some (.flowMapping, start)⟩
  | .flowMappingValue start =>
    match token.kind with
    | .value =>
      { g with tokens := rest }.flowContent
        [.flowEntry, .flowMappingEnd]
        (.flowMappingKey start false :: after)
    | _ => g.emitEmpty token.mark (.flowMappingKey start false :: after)
  | .flowMappingNoValue start => g.emitEmpty token.mark (.flowMappingKey start false :: after)

/-- The next event. -/
def step (g : Grammar) : Step :=
  match g.expected with
  | [] => .finished
  | expectation :: after =>
    match g.tokens with
    | [] => g.noToken
    | token :: rest => g.answer token rest after expectation

end Grammar

/-- The events of a text before its first error, and the error. -/
structure EventStream where
  /-- The events. -/
  events : List Event
  /-- The error after them. -/
  error : Option SyntaxError
  deriving Repr

/-- Take up to `fuel` steps. -/
def EventStream.run : Nat → List Event → Grammar → EventStream
  | 0, done, _ => ⟨done.reverse, none⟩
  | fuel + 1, done, g =>
    match g.step with
    | .failed error => ⟨done.reverse, some error⟩
    | .finished => ⟨done.reverse, none⟩
    | .event event next => run fuel (event :: done) next

/-- The events of a text.  Each token gives rise to four events at most. -/
def EventStream.ofTokens (stream : TokenStream) : EventStream :=
  run (8 * stream.tokens.length + 32) []
    { tokens := stream.tokens, failure := stream.error, expected := [.document true] }

end BuildManifest.Yaml
