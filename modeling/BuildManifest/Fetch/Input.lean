import BuildManifest.Text.Utf8

/-!
# Standard input

The bytes of the standard input as a manifest's text.
-/

set_option autoImplicit false

namespace BuildManifest

/-- Why the standard input holds no manifest. -/
inductive InputError where
  /-- There is nothing in it. -/
  | empty
  /-- Reading failed. -/
  | io (message : String)
  deriving DecidableEq, Repr

/-- What is said about bytes that are no text. -/
def notUtf8 : String := "stream did not contain valid UTF-8"

/-- The text of the standard input. -/
def readInput (bytes : List UInt8) : Except InputError String :=
  match Text.decodeUtf8 bytes with
  | none => .error (.io notUtf8)
  | some "" => .error .empty
  | some text => .ok text

end BuildManifest
