import BuildManifest.Text.Infix

/-!
# Paths of files

A path is a text; what it leads to depends on its steps only, so that two texts with the same
steps are the same path.

## What is here

* `FilePath.steps` — the steps of a path: empty steps and steps to the same place do not count.
* `FilePath.same` — equality of paths.
* `FilePath.join`, `FilePath.parent?` — the path below a directory, and the directory of a path.
-/

set_option autoImplicit false

namespace BuildManifest.FilePath

/-- The place a path starts from. -/
inductive Start where
  /-- The root of all files. -/
  | root
  /-- The working directory, written as a point. -/
  | here
  /-- The working directory, not written. -/
  | unwritten
  deriving DecidableEq, Repr

/-- A piece between slashes that does not lead anywhere. -/
def isIdle (piece : List Char) : Bool := piece.isEmpty || piece == ['.']

/-- Where a path starts, and the pieces between slashes after it. -/
def split (path : String) : Start × List (List Char) :=
  match Text.splitAt '/' path.toList with
  | [] :: second :: rest => (.root, second :: rest)
  | ['.'] :: rest => (.here, rest)
  | pieces => (.unwritten, pieces)

/-- The steps of a path. -/
def steps (path : String) : Start × List (List Char) :=
  let (start, pieces) := split path
  (start, pieces.filter fun piece => !isIdle piece)

/-- Two texts for one path. -/
def same (a b : String) : Bool := steps a == steps b

/-- Pieces without the idle ones at the end. -/
def dropIdleEnd (pieces : List (List Char)) : List (List Char) :=
  (pieces.reverse.dropWhile isIdle).reverse

/-- Pieces with slashes between them. -/
def joinPieces (pieces : List (List Char)) : String :=
  String.intercalate "/" (pieces.map String.ofList)

/-- A path from where it starts and its pieces. -/
def build (start : Start) (pieces : List (List Char)) : String :=
  match start, pieces with
  | .root, _ => "/" ++ joinPieces pieces
  | .here, [] => "."
  | .here, _ => "./" ++ joinPieces pieces
  | .unwritten, _ => joinPieces pieces

/-- The directory of a path, unless the path is empty or the root. -/
def parent? (path : String) : Option String :=
  let (start, pieces) := split path
  match start, dropIdleEnd pieces with
  | .here, [] => some ""
  | _, [] => none
  | _, first :: rest => some (build start (dropIdleEnd (first :: rest).dropLast))

/-- The path below a directory; an absolute path stays as it is. -/
def join (directory path : String) : String :=
  if path.startsWith "/" then path
  else if directory.isEmpty || directory.endsWith "/" then directory ++ path
  else directory ++ "/" ++ path

end BuildManifest.FilePath
