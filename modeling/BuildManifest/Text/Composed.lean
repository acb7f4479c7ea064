import BuildManifest.Text.Combining
import BuildManifest.Text.Composition

/-!
# Composed texts

The composed form of a text: composites taken apart, marks in order, and composites put together
again wherever two parts meet.  On texts without characters that merely stand for others this is
Unicode's normal form C.

## What is here

* `decomposed` — a text taken apart.
* `composeFrom`, `composed` — putting together.
-/

set_option autoImplicit false

namespace BuildManifest.Text

/-- A character taken apart, at most so many times. -/
def decomposedChar : Nat → Char → List Char
  | 0, c => [c]
  | depth + 1, c =>
    match parts? c with
    | some (a, b) => decomposedChar depth a ++ [b]
    | none => [c]

/-- A text taken apart.  No composite consists of more than four characters. -/
def decomposed (text : List Char) : List Char := text.flatMap (decomposedChar 4)

/-- Put composites together.  `base` is the last character that is no mark, `marks` are the marks
after it that stay, last first, and `last` is the class of the last of them.  A mark is blocked from
the base by one of its own class or of a higher one. -/
def composeFrom (base : Char) (marks : List Char) (last : Nat) : List Char → List Char
  | [] => base :: marks.reverse
  | c :: rest =>
    let kind := combiningClass c
    match if marks.isEmpty ∨ last < kind then composite? base c else none with
    | some whole => composeFrom whole marks last rest
    | none =>
      if kind = 0 then base :: marks.reverse ++ composeFrom c [] 0 rest
      else composeFrom base (c :: marks) kind rest

/-- The composed form of a text. -/
def composed (text : List Char) : List Char :=
  match ordered (decomposed text) with
  | [] => []
  | first :: rest => composeFrom first [] (combiningClass first) rest

end BuildManifest.Text
