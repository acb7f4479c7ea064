import BuildManifest.Text.Infix

/-!
# Paths that stay below their root

A path that a manifest gives is taken below some root.  It is safe when it cannot climb out of it:
it is not absolute, and no step of it goes up.
-/

set_option autoImplicit false

namespace BuildManifest

/-- A path stays below its root: it starts neither with `/` nor with `..`, and no step of it is
`..`.  A first step that only starts with two dots is refused too. -/
def isSafePath (path : String) : Bool :=
  let text := path.toList
  !("/".toList.isPrefixOf text || "..".toList.isPrefixOf text ||
    Text.hasInfix "/../".toList text || "/..".toList.isSuffixOf text)

end BuildManifest
