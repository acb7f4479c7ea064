import BuildManifest.Tree.Scalar
import BuildManifest.Text.Blank
import BuildManifest.Yaml.Printer

/-!
# Keys as text

The name that a key gives to what it stands for.
-/

set_option autoImplicit false

namespace BuildManifest.Tree

/-- The text of a scalar, and the trimmed YAML text of every other key; a key that cannot be
written has no text. -/
def keyText (key : Tree) : String :=
  match scalarText? key with
  | some text => text
  | none =>
    match Yaml.printYaml key with
    | .ok text => Text.trimmed text
    | .error _ => ""

end BuildManifest.Tree
