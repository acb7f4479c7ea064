import BuildManifest.Text.Combining
import BuildManifest.Text.Direction
import BuildManifest.Text.Joining

/-!
# Labels of domains

What a part of a domain between two points must be like, beyond the characters it may hold.

## What is here

* `joinersFit` — the two characters that only change how letters join stand where they do so.
* `hasOneDirection` — letters that run to the left do not stand beside those that run to the right.
* `isLabel` — a label does not begin with a mark either.
-/

set_option autoImplicit false

namespace BuildManifest.Url

open BuildManifest.Text

/-! ## Joiners -/

/-- The character that keeps two letters from joining. -/
def nonJoiner : Char := '\u200C'

/-- The character that makes two letters join. -/
def joiner : Char := '\u200D'

/-- Whether letters would join across this place, given what is before it, last first, and after. -/
def wouldJoin (before after : List Char) : Bool :=
  (before.dropWhile isTransparent).head?.any joinsAfter &&
    (after.dropWhile isTransparent).head?.any joinsBefore

/-- Whether every joiner after the given characters follows a sign that silences a vowel, or, when
it keeps letters apart, stands where they would join. -/
def joinersFit (before : List Char) : List Char → Bool
  | [] => true
  | c :: rest =>
    let silenced := before.head?.any fun last => combiningClass last == virama
    (if c = joiner then silenced
      else if c = nonJoiner then silenced || wouldJoin before rest
      else true) && joinersFit (c :: before) rest

/-! ## Direction -/

/-- A character that makes a domain one with two directions. -/
def isLeftward (c : Char) : Bool :=
  [Direction.right, .arabic, .arabicNumber].contains (direction c)

/-- What may stand in a label that runs to the left. -/
def leftwardClasses : List Direction :=
  [.right, .arabic, .arabicNumber, .europeanNumber, .europeanSeparator, .commonSeparator,
    .europeanTerminator, .neutral, .boundary, .mark]

/-- What may stand in a label that runs to the right. -/
def rightwardClasses : List Direction :=
  [.left, .europeanNumber, .europeanSeparator, .commonSeparator, .europeanTerminator, .neutral,
    .boundary, .mark]

/-- Whether classes are those of a label with one direction.  Its first character decides, its last
one apart from marks is a letter or a digit, and digits are of one kind. -/
def hasOneDirection (classes : List Direction) : Bool :=
  let last := (classes.reverse.dropWhile (· = .mark)).head?
  match classes.head? with
  | none => true
  | some first =>
    if first = .right ∨ first = .arabic then
      classes.all leftwardClasses.contains &&
        last.any [.right, .arabic, .europeanNumber, .arabicNumber].contains &&
        !(classes.contains .europeanNumber && classes.contains .arabicNumber)
    else
      first = .left && classes.all rightwardClasses.contains &&
        last.any [.left, .europeanNumber].contains

/-! ## Labels -/

/-- Whether characters form a label; in a domain with two directions it must have one. -/
def isLabel (bothDirections : Bool) (label : List Char) : Bool :=
  !label.head?.any isMark && joinersFit [] label &&
    (!bothDirections || hasOneDirection (label.map direction))

end BuildManifest.Url
