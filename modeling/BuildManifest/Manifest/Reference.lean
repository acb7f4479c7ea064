import BuildManifest.Manifest.Download

/-!
# References

What one manifest says to name another, in its `includes` and its `overrides`.
-/

set_option autoImplicit false

namespace BuildManifest

/-- A reference to another manifest. -/
inductive Reference where
  /-- A URL, or a path relative to the manifest that refers or to the working directory. -/
  | plain (path : String)
  /-- A file of a version control checkout. -/
  | checkout (makefile : String) (download : Download)
  deriving DecidableEq, Repr, Inhabited

/-- A reference as messages show it. -/
def Reference.text : Reference → String
  | .plain path => path
  | .checkout makefile download => makefile ++ " from " ++ download.url.getD "<no url>"

end BuildManifest
