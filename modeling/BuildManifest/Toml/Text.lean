import BuildManifest.Text.Numeral

/-!
# Texts and spaces in TOML

The four kinds of strings, the keys, and what may stand between values.

## What is here

* `skipBlanks`, `endOfLine?`, `skipLines` — blanks, comments and line breaks.
* `readString?` — a string of one line; `readLongString?` also those in three quotes.
* `readKey?` — a key with points.
-/

set_option autoImplicit false

namespace BuildManifest.Toml

/-- A reader: what is read at the start of a text, and the rest of it. -/
abbrev Read (α : Type) := Option (α × List Char)

/-! ## Spaces -/

/-- A space or a tab. -/
def isBlank (c : Char) : Bool := c = ' ' || c = '\t'

/-- The text after its first blanks. -/
def skipBlanks (text : List Char) : List Char := text.dropWhile isBlank

/-- A character that may stand in comments and strings. -/
def isPlain (c : Char) : Bool := c = '\t' || (0x20 ≤ c.toNat && c.toNat ≠ 0x7F)

/-- The text after a line break, at its end, or nothing. -/
def lineBreak? : List Char → Option (List Char)
  | '\n' :: rest => some rest
  | '\r' :: '\n' :: rest => some rest
  | [] => some []
  | _ => none

/-- The text after blanks, perhaps a comment, and a line break. -/
def endOfLine? (text : List Char) : Option (List Char) :=
  match skipBlanks text with
  | '#' :: rest => lineBreak? (rest.dropWhile isPlain)
  | rest => lineBreak? rest

/-- The text after blanks, comments and line breaks. -/
def skipLines : Nat → List Char → Option (List Char)
  | 0, text => some text
  | steps + 1, text =>
    match skipBlanks text with
    | '#' :: rest => (lineBreak? (rest.dropWhile isPlain)).bind (skipLines steps)
    | '\n' :: rest => skipLines steps rest
    | '\r' :: '\n' :: rest => skipLines steps rest
    | rest => some rest

/-! ## Strings -/

/-- The character of a number. -/
def charOf? (digits : List Char) : Option Char :=
  (Text.readDigits 16 digits).bind fun n => if n.isValidChar then some (Char.ofNat n) else none

/-- The character that a letter after a backslash stands for. -/
def escape? : Char → Option Char
  | 'b' => some '\x08'
  | 't' => some '\t'
  | 'n' => some '\n'
  | 'f' => some '\x0c'
  | 'r' => some '\x0d'
  | '"' => some '"'
  | '\\' => some '\\'
  | _ => none

/-- Put a character in front of what is read next. -/
def andThen (c : Char) (next : Read (List Char)) : Read (List Char) :=
  next.map fun read => (c :: read.1, read.2)

/-- A string after its opening double quote. -/
def readBasic? : List Char → Read (List Char)
  | '"' :: rest => some ([], rest)
  | '\\' :: 'u' :: a :: b :: c :: d :: rest =>
    (charOf? [a, b, c, d]).bind fun one => andThen one (readBasic? rest)
  | '\\' :: 'U' :: a :: b :: c :: d :: e :: f :: g :: h :: rest =>
    (charOf? [a, b, c, d, e, f, g, h]).bind fun one => andThen one (readBasic? rest)
  | '\\' :: letter :: rest => (escape? letter).bind fun one => andThen one (readBasic? rest)
  | c :: rest => if isPlain c && c != '\\' then andThen c (readBasic? rest) else none
  | [] => none

/-- A string after its opening single quote. -/
def readLiteral? : List Char → Read (List Char)
  | '\'' :: rest => some ([], rest)
  | c :: rest => if isPlain c then andThen c (readLiteral? rest) else none
  | [] => none

/-- A line break follows after blanks. -/
def breaksLine (text : List Char) : Bool :=
  match skipBlanks text with
  | '\n' :: _ => true
  | '\r' :: '\n' :: _ => true
  | _ => false

/-- A string after three double quotes.  A backslash at the end of a line takes the blanks and
line breaks after it away; while they are taken away, `skipping` is set. -/
def readLongBasic? : Bool → List Char → Read (List Char)
  | true, ' ' :: rest => readLongBasic? true rest
  | true, '\t' :: rest => readLongBasic? true rest
  | true, '\n' :: rest => readLongBasic? true rest
  | true, '\r' :: '\n' :: rest => readLongBasic? true rest
  | _, '"' :: '"' :: '"' :: '"' :: '"' :: rest => some (['"', '"'], rest)
  | _, '"' :: '"' :: '"' :: '"' :: rest => some (['"'], rest)
  | _, '"' :: '"' :: '"' :: rest => some ([], rest)
  | _, '\\' :: 'u' :: a :: b :: c :: d :: rest =>
    (charOf? [a, b, c, d]).bind fun one => andThen one (readLongBasic? false rest)
  | _, '\\' :: 'U' :: a :: b :: c :: d :: e :: f :: g :: h :: rest =>
    (charOf? [a, b, c, d, e, f, g, h]).bind fun one => andThen one (readLongBasic? false rest)
  | _, '\\' :: letter :: rest =>
    if breaksLine (letter :: rest) then readLongBasic? true rest
    else (escape? letter).bind fun one => andThen one (readLongBasic? false rest)
  | _, '\r' :: '\n' :: rest => andThen '\n' (readLongBasic? false rest)
  | _, c :: rest =>
    if (isPlain c && c != '\\') || c = '\n' then andThen c (readLongBasic? false rest) else none
  | _, [] => none

/-- A string after three single quotes. -/
def readLongLiteral? : List Char → Read (List Char)
  | '\'' :: '\'' :: '\'' :: '\'' :: '\'' :: rest => some (['\'', '\''], rest)
  | '\'' :: '\'' :: '\'' :: '\'' :: rest => some (['\''], rest)
  | '\'' :: '\'' :: '\'' :: rest => some ([], rest)
  | '\r' :: '\n' :: rest => andThen '\n' (readLongLiteral? rest)
  | c :: rest => if isPlain c || c = '\n' then andThen c (readLongLiteral? rest) else none
  | [] => none

/-- The text without a line break at its start. -/
def dropBreak : List Char → List Char
  | '\n' :: rest => rest
  | '\r' :: '\n' :: rest => rest
  | text => text

/-- A string of one line. -/
def readString? : List Char → Read (List Char)
  | '"' :: rest => readBasic? rest
  | '\'' :: rest => readLiteral? rest
  | _ => none

/-- A string of one line or several. -/
def readLongString? : List Char → Read (List Char)
  | '"' :: '"' :: '"' :: rest => readLongBasic? false (dropBreak rest)
  | '\'' :: '\'' :: '\'' :: rest => readLongLiteral? (dropBreak rest)
  | text => readString? text

/-! ## Keys -/

/-- A character of a key without quotes. -/
def isBareKeyChar (c : Char) : Bool := c.isAlphanum || c = '_' || c = '-'

/-- A key without points. -/
def readSimpleKey? (text : List Char) : Read String :=
  match text with
  | '"' :: _ => (readString? text).map fun read => (String.ofList read.1, read.2)
  | '\'' :: _ => (readString? text).map fun read => (String.ofList read.1, read.2)
  | _ =>
    let key := text.takeWhile isBareKeyChar
    if key.isEmpty then none else some (String.ofList key, text.dropWhile isBareKeyChar)

/-- The number of levels that neither values nor keys with points reach. -/
def nestingLimit : Nat := 80

/-- A key with fewer points than `parts`, and the text after the blanks that follow it. -/
def readParts? : Nat → List Char → Read (List String)
  | 0, _ => none
  | parts + 1, text =>
    (readSimpleKey? (skipBlanks text)).bind fun (first, rest) =>
      match skipBlanks rest with
      | '.' :: rest => (readParts? parts rest).map fun read => (first :: read.1, read.2)
      | rest => some ([first], rest)

/-- A key with points, and the text after the blanks that follow it. -/
def readKey? (text : List Char) : Read (List String) := readParts? (nestingLimit - 1) text

end BuildManifest.Toml
