import BuildManifest.Yaml.Cursor

/-!
# YAML tokens

The pieces a YAML text is cut into.  Indentation has become tokens of its own: where a block
collection begins and ends, and where a key begins although no `?` says so.
-/

set_option autoImplicit false

namespace BuildManifest.Yaml

/-- What a token is. -/
inductive TokenKind where
  /-- The end of the text. -/
  | streamEnd
  /-- `%YAML major.minor`. -/
  | version (major minor : Nat)
  /-- `%TAG handle expansion`; the expansion in octets. -/
  | tagDirective (handle : String) (expansion : List UInt8)
  /-- `---`. -/
  | documentStart
  /-- `...`. -/
  | documentEnd
  /-- The indentation where a block sequence begins. -/
  | blockSequenceStart
  /-- The indentation where a block mapping begins. -/
  | blockMappingStart
  /-- The indentation where a block collection has ended. -/
  | blockEnd
  /-- `[`. -/
  | flowSequenceStart
  /-- `]`. -/
  | flowSequenceEnd
  /-- An opening brace. -/
  | flowMappingStart
  /-- A closing brace. -/
  | flowMappingEnd
  /-- `-`. -/
  | blockEntry
  /-- `,`. -/
  | flowEntry
  /-- `?`, or the start of a key that is not marked. -/
  | key
  /-- `:`. -/
  | value
  /-- `*name`. -/
  | aliasName (name : String)
  /-- `&name`. -/
  | anchor (name : String)
  /-- A tag; an empty handle means that the suffix is the whole tag.  The suffix is in octets,
  because its escapes need not be the form of any text. -/
  | tag (handle : String) (suffix : List UInt8)
  /-- A scalar, and whether it is plain. -/
  | scalar (text : String) (plain : Bool)
  deriving DecidableEq, Repr

/-- A token and where it begins. -/
structure Token where
  /-- What it is. -/
  kind : TokenKind
  /-- Where it begins. -/
  mark : Mark
  deriving DecidableEq, Repr

end BuildManifest.Yaml
