import BuildManifest.Text.DecimalDigit

/-!
# Platform versions

A platform version is a major number, alone or with `.x`, or with a minor number and perhaps a
suffix.  A digit is any decimal digit of Unicode.

## What is here

* `CoreVersion` — the major number as written, and the exact release if the version names one.
* `readCoreVersion` — the reader.
-/

set_option autoImplicit false

namespace BuildManifest

open Text

/-- What a platform version says. -/
structure CoreVersion where
  /-- The major number as it is written. -/
  major : List Char
  /-- The whole version, if it names one release. -/
  release : Option String
  deriving DecidableEq, Repr

namespace CoreVersion

/-- The version that stands for every release of the major number. -/
def branch (version : CoreVersion) : String := String.ofList (version.major ++ ['.', 'x'])

/-- A character of a suffix. -/
def isSuffixChar (c : Char) : Bool := ('a' ≤ c && c ≤ 'z') || c.isDigit

/-- What may follow a minor number: nothing, or a dash and a suffix. -/
def isSuffix : List Char → Bool
  | [] => true
  | '-' :: suffix => !suffix.isEmpty && suffix.all isSuffixChar
  | _ => false

/-- A minor number, perhaps with a suffix. -/
def isMinor (text : List Char) : Bool :=
  !(text.takeWhile isDecimalDigit).isEmpty && isSuffix (text.dropWhile isDecimalDigit)

end CoreVersion

/-- Read a platform version. -/
def readCoreVersion (text : String) : Option CoreVersion :=
  let major := text.toList.takeWhile isDecimalDigit
  if major.isEmpty then none
  else
    match text.toList.dropWhile isDecimalDigit with
    | [] => some ⟨major, none⟩
    | ['.', 'x'] => some ⟨major, none⟩
    | '.' :: rest => if CoreVersion.isMinor rest then some ⟨major, some text⟩ else none
    | _ => none

end BuildManifest
