import BuildManifest.Yaml.Event
import BuildManifest.Yaml.Scalar
import BuildManifest.Text.Quoted
import BuildManifest.Text.Utf8

/-!
# From events to a tree

The tree of the one document of a YAML text.

## What is here

* `DocumentError` — why a text has no tree: its syntax, its anchors, its limits or a value.
* `Document` — the nodes of the first document, with aliases resolved to positions.
* `Document.node` — the tree at a position.  Collections nest at most 128 deep, and aliases are
  followed at most a hundred times as often as there are nodes.
* `readYaml` — the tree of a text.
-/

set_option autoImplicit false

namespace BuildManifest.Yaml

/-- What is wrong with a value. -/
inductive ValueFault where
  /-- A mapping has the key already. -/
  | repeatedKey (key : Tree)
  /-- A text that its tag promises to be something else. -/
  | notA (kind : String) (text : String)
  /-- An integer beyond 64 bits. -/
  | tooWide (value : Int)
  deriving Repr

/-- The wording of a value's fault. -/
def ValueFault.message : ValueFault → String
  | .repeatedKey .null => "duplicate entry with null key"
  | .repeatedKey (.bool value) =>
    "duplicate entry with key \x60" ++ Tree.boolWord value ++ "\x60"
  | .repeatedKey (.number value) => "duplicate entry with key " ++ value.text
  | .repeatedKey (.string text) => "duplicate entry with key " ++ Text.quoted text
  | .repeatedKey _ => "duplicate entry in YAML map"
  | .notA kind text => "invalid value: string " ++ Text.quoted text ++ ", expected " ++ kind
  | .tooWide value =>
    "invalid type: integer \x60" ++ toString value ++ "\x60 as " ++
      (if value < 0 then "i128" else "u128") ++ ", expected any YAML value"

/-- Where in the tree a value stands. -/
inductive Path where
  | root
  | item (parent : Path) (index : Nat)
  | entry (parent : Path) (key : String)
  | unnamed (parent : Path)
  deriving DecidableEq, Repr

mutual

/-- The text of a path. -/
def Path.text : Path → String
  | .root => "."
  | .item parent index => parent.text ++ "[" ++ toString index ++ "]"
  | .entry parent key => parent.above ++ key
  | .unnamed parent => parent.above ++ "?"

/-- The text of a path in front of a key. -/
def Path.above : Path → String
  | .root => ""
  | .item parent index => parent.text ++ "[" ++ toString index ++ "]."
  | .entry parent key => parent.above ++ key ++ "."
  | .unnamed parent => parent.above ++ "?."

end

/-- Why a text has no tree. -/
inductive DocumentError where
  | badSyntax (error : SyntaxError)
  | unknownAnchor (mark : Mark)
  | severalDocuments
  | noDocument
  | tooDeep (mark : Mark)
  | tooManyAliases
  | value (fault : ValueFault) (mark : Mark) (path : Path)
  deriving Repr

namespace DocumentError

/-- Where the error is, if at any place. -/
def mark? : DocumentError → Option Mark
  | .badSyntax error => some error.mark
  | .unknownAnchor mark => some mark
  | .tooDeep mark => some mark
  | .value _ mark _ => some mark
  | _ => none

/-- The line of the error, from one. -/
def line? (e : DocumentError) : Option Nat := e.mark?.map (·.line + 1)

/-- The message of the error, with its path and place. -/
def message (e : DocumentError) : String :=
  let place := match e.mark? with
    | some mark => if mark.isStart then "" else " at " ++ mark.text
    | none => ""
  match e with
  | .badSyntax error => error.message
  | .unknownAnchor _ => "unknown anchor" ++ place
  | .severalDocuments =>
    "deserializing from YAML containing more than one document is not supported"
  | .noDocument => "EOF while parsing a value"
  | .tooDeep _ => "recursion limit exceeded" ++ place
  | .tooManyAliases => "repetition limit exceeded"
  | .value fault _ path =>
    (if path = .root then "" else path.text ++ ": ") ++ fault.message ++ place

end DocumentError

/-! ## The nodes of a document -/

/-- A node, or the end of a collection.  Aliases name their anchor by its number. -/
inductive NodeEvent where
  | nothing
  | aliasTo (anchor : Nat)
  | scalar (tag : Option (List UInt8)) (text : String) (plain : Bool)
  | sequenceStart (tag : Option (List UInt8))
  | sequenceEnd
  | mappingStart (tag : Option (List UInt8))
  | mappingEnd
  deriving DecidableEq, Repr, Inhabited

/-- The nodes of a document in order. -/
structure Document where
  /-- The nodes and where they begin. -/
  nodes : Array (NodeEvent × Mark) := #[]
  /-- The names of anchors and their numbers, the latest first. -/
  names : List (String × Nat) := []
  /-- The positions of the anchors' nodes by number, the latest first. -/
  targets : List (Nat × Nat) := []
  /-- The error that cuts the document short. -/
  error : Option DocumentError := none
  deriving Repr

namespace Document

/-- Add a node, which an anchor may name.  A new anchor's number is how many names there are. -/
def addNode (d : Document) (node : NodeEvent) (mark : Mark) (anchor : Option String) :
    Document :=
  let named := match anchor with
    | none => d
    | some name =>
      let known : List String := d.names.map Prod.fst
      let count := known.eraseDups.length
      { d with
        names := (name, count) :: d.names
        targets := (count, d.nodes.size) :: d.targets }
  { named with nodes := d.nodes.push (node, mark) }

/-- Collect the nodes up to the end of the document; also the events after it, if it has one. -/
def collect (failure : Option SyntaxError) :
    Document → List Event → Document × Option (List Event)
  | d, [] => ({ d with error := failure.map .badSyntax }, none)
  | d, ⟨kind, mark⟩ :: rest =>
    match kind with
    | .documentStart => collect failure d rest
    | .documentEnd => (d, some rest)
    | .streamEnd =>
      (if d.nodes.isEmpty then d.addNode .nothing mark none else d, none)
    | .aliasName name =>
      match d.names.find? (·.1 == name) with
      | some (_, anchor) => collect failure (d.addNode (.aliasTo anchor) mark none) rest
      | none => ({ d with error := some (.unknownAnchor mark) }, some [])
    | .scalar properties text plain =>
      collect failure (d.addNode (.scalar properties.tag text plain) mark properties.anchor) rest
    | .sequenceStart properties =>
      collect failure (d.addNode (.sequenceStart properties.tag) mark properties.anchor) rest
    | .mappingStart properties =>
      collect failure (d.addNode (.mappingStart properties.tag) mark properties.anchor) rest
    | .sequenceEnd => collect failure (d.addNode .sequenceEnd mark none) rest
    | .mappingEnd => collect failure (d.addNode .mappingEnd mark none) rest

/-! ## Reading the tree -/

/-- How far reading has come: the next node, and how many aliases were followed. -/
structure Place where
  /-- The position of the next node. -/
  position : Nat
  /-- The aliases followed so far. -/
  jumps : Nat

/-- Reading a part of the document. -/
abbrev Reading := StateT Place (Except DocumentError)

/-- The next node. -/
def peek (d : Document) : Reading (NodeEvent × Mark) := do
  match d.nodes[(← get).position]? with
  | some node => return node
  | none => throw (d.error.getD .noDocument)

/-- Move to the node after the next. -/
def advance : Reading Unit := modify fun place => { place with position := place.position + 1 }

/-- Whether a tag is application-specific: it starts with an exclamation mark. -/
def isSpecific (tag : List UInt8) : Bool := tag.head? == some 0x21

/-- The name of an application-specific tag whose octets are a text. -/
def tagName? (tag : Option (List UInt8)) : Option String :=
  (tag.filter isSpecific).bind fun octets =>
    (Text.decodeUtf8 (if octets.length = 1 then octets else octets.drop 1)).map Tree.withoutBang

/-- The value of a scalar; its tag decides before its spelling does, unless it is accounted for. -/
def scalarValue (tag : Option (List UInt8)) (text : String) (plain : Bool) (accounted : Bool) :
    Except ValueFault Tree :=
  let untagged : Except ValueFault Tree :=
    match readPlain text with
    | .value tree => .ok tree
    | .tooWide value => .error (.tooWide value)
    | .text => .ok (.string text)
  let expecting (kind : String) (value : Option Tree) : Except ValueFault Tree :=
    match value with
    | some tree => .ok tree
    | none => .error (.notA kind text)
  match if accounted then none else tag with
  | some octets =>
    match Text.decodeUtf8 octets with
    | some "tag:yaml.org,2002:bool" => expecting "a boolean" ((bool? text).map .bool)
    | some "tag:yaml.org,2002:int" =>
      match readInteger text with
      | some (.value tree) => .ok tree
      | some (.tooWide value) => .error (.tooWide value)
      | _ => .error (.notA "an integer" text)
    | some "tag:yaml.org,2002:float" =>
      expecting "a float" ((float? text.toList).map fun x => .number (.float x))
    | some "tag:yaml.org,2002:null" => expecting "null" (if isNull text then some .null else none)
    | _ => if plain ∧ isSpecific octets then untagged else .ok (.string text)
  | none => if plain then untagged else .ok (.string text)

/-- Read the items of a sequence up to its end. -/
def items (d : Document) (inner : Path → Bool → Reading Tree) (path : Path) :
    Nat → Array Tree → Reading (Array Tree)
  | 0, done => return done
  | fuel + 1, done => do
    match (← d.peek).1 with
    | .sequenceEnd =>
      advance
      return done
    | _ =>
      let item ← inner (.item path done.size) false
      items d inner path fuel (done.push item)

/-- Read the entries of a mapping up to its end.  A repeated key is noticed before its value is
read. -/
def entries (d : Document) (inner : Path → Bool → Reading Tree) (path : Path) (mark : Mark) :
    Nat → Mapping → Reading Mapping
  | 0, done => return done
  | fuel + 1, done => do
    match (← d.peek).1 with
    | .mappingEnd =>
      advance
      return done
    | node =>
      let below := match node with
        | .scalar _ text _ => Path.entry path text
        | _ => .unnamed path
      let key ← inner path false
      if Mapping.contains done key then throw (.value (.repeatedKey key) mark path)
      let value ← inner below false
      entries d inner path mark fuel (done ++ [(key, value)])

/-- Read the node that comes next, which is no alias, by a reader of the nodes inside it; without
one the node must not be a collection. -/
def content (d : Document) (inner : Option (Path → Bool → Reading Tree)) (path : Path)
    (accounted : Bool) : Reading Tree := do
  let (node, mark) ← d.peek
  advance
  let tag := match node with
    | .scalar tag _ _ | .sequenceStart tag | .mappingStart tag => tagName? tag
    | _ => none
  let tag := if accounted then none else tag
  let accounted := accounted || tag.isSome
  let tree ← match node with
    | .scalar tag text plain =>
      match scalarValue tag text plain accounted with
      | .ok tree => pure tree
      | .error fault => throw (.value fault mark path)
    | .sequenceStart _ =>
      match inner with
      | some inner => do
        let items ← d.items inner path (d.nodes.size + 1) #[]
        pure (Tree.sequence items.toList)
      | none => throw (.tooDeep mark)
    | .mappingStart _ =>
      match inner with
      | some inner => do
        let entries ← d.entries inner path mark (d.nodes.size + 1) []
        pure (Tree.mapping entries)
      | none => throw (.tooDeep mark)
    | _ => pure .null
  return match tag with
    | some name => .tagged name tree
    | none => tree

/-- Read the node that comes next; an alias reads as the node it names. -/
def resolved (d : Document) (inner : Option (Path → Bool → Reading Tree)) (path : Path)
    (accounted : Bool) : Reading Tree := do
  match (← d.peek).1 with
  | .aliasTo anchor =>
    advance
    let place ← get
    if d.nodes.size * 100 < place.jumps + 1 then throw .tooManyAliases
    let target := ((d.targets.find? (·.1 == anchor)).map (·.2)).getD d.nodes.size
    set { place with position := target, jumps := place.jumps + 1 : Place }
    let tree ← d.content inner path false
    modify fun after => { after with position := place.position }
    return tree
  | _ => d.content inner path accounted

/-- Read a node with at most `depth` collections inside each other. -/
def node (d : Document) : Nat → Path → Bool → Reading Tree
  | 0 => d.resolved none
  | depth + 1 => d.resolved (some (node d depth))

/-- How deep collections may nest. -/
def depthLimit : Nat := 128

end Document

/-- The tree of a text that holds one document. -/
def readYaml (text : String) : Except DocumentError Tree := do
  let stream := EventStream.ofTokens (TokenStream.ofText text.toList)
  let (document, after) := Document.collect stream.error {} stream.events
  let (tree, _) ← (document.node Document.depthLimit .root false).run ⟨0, 0⟩
  match document.error with
  | some error => throw error
  | none =>
    match after with
    | none => return tree
    | some rest =>
      match rest with
      | ⟨.streamEnd, _⟩ :: _ => return tree
      | _ => throw .severalDocuments

end BuildManifest.Yaml
