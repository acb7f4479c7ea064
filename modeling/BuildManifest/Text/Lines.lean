/-!
# Lines

A text as its lines: each ends at a line feed, a carriage return just before it belongs to the
line break, and a last line that no line feed ends still counts when it is not empty.
-/

set_option autoImplicit false

namespace BuildManifest.Text

/-- Put a character in front of the first line. -/
def extendFirst (c : Char) : List (List Char) → List (List Char)
  | [] => [[c]]
  | line :: rest => (c :: line) :: rest

/-- The lines of a text, without their line breaks. -/
def lines : List Char → List (List Char)
  | [] => []
  | '\n' :: rest => [] :: lines rest
  | '\r' :: '\n' :: rest => [] :: lines rest
  | c :: rest => extendFirst c (lines rest)

end BuildManifest.Text
