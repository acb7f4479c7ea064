import BuildManifest.Decimal.Numeral
import BuildManifest.Toml.Basic
import BuildManifest.Toml.Text

/-!
# Words in TOML

Truth values, numbers and moments in time: everything that is written as one word.
-/

set_option autoImplicit false

namespace BuildManifest.Toml

/-- Digits with single underscores between them. -/
def isGrouped (isDigit : Char → Bool) : List Char → Bool
  | [] => false
  | [c] => isDigit c
  | c :: '_' :: rest => isDigit c && isGrouped isDigit rest
  | c :: rest => isDigit c && isGrouped isDigit rest

/-- Whether a character is a digit of a radix. -/
def isDigitOf (radix : Nat) (c : Char) : Bool := ((Text.digitValue c).filter (· < radix)).isSome

/-- The value of grouped digits. -/
def groupedValue? (radix : Nat) (text : List Char) : Option Nat :=
  if isGrouped (isDigitOf radix) text then Text.readDigits radix (text.filter (· != '_')) else none

/-- A decimal number without leading zeros. -/
def isWhole (text : List Char) : Bool :=
  isGrouped Char.isDigit text && (text.length = 1 || text.head? != some '0')

/-- The text without a sign. -/
def unsigned : List Char → List Char
  | '+' :: rest => rest
  | '-' :: rest => rest
  | text => text

/-- A number that fits into 64 bits with a sign. -/
def bounded (value : Int) : Option Int :=
  if -Int.pow 2 63 ≤ value ∧ value < Int.pow 2 63 then some value else none

/-- A whole number, in decimal or to base 16, 8 or 2. -/
def integer? : List Char → Option Int
  | '0' :: 'x' :: digits => (groupedValue? 16 digits).bind fun n => bounded n
  | '0' :: 'o' :: digits => (groupedValue? 8 digits).bind fun n => bounded n
  | '0' :: 'b' :: digits => (groupedValue? 2 digits).bind fun n => bounded n
  | text =>
    if isWhole (unsigned text) then
      (groupedValue? 10 (unsigned text)).bind fun n =>
        bounded (if text.head? = some '-' then -(n : Int) else n)
    else none

/-- An exponent after its letter. -/
def isExponent (text : List Char) : Bool := isGrouped Char.isDigit (unsigned text)

/-- What follows the whole part of a number with a point or an exponent. -/
def isFraction : List Char → Bool
  | '.' :: rest =>
    let digits := rest.takeWhile fun c => c.isDigit || c = '_'
    isGrouped Char.isDigit digits &&
      (match rest.dropWhile fun c => c.isDigit || c = '_' with
      | [] => true
      | mark :: exponent => (mark = 'e' || mark = 'E') && isExponent exponent)
  | mark :: exponent => (mark = 'e' || mark = 'E') && isExponent exponent
  | [] => false

/-- A number with a point or an exponent, or one that is not finite. -/
def isFloat (text : List Char) : Bool :=
  let plain := unsigned text
  plain == "inf".toList || plain == "nan".toList ||
    (isWhole (plain.takeWhile fun c => c.isDigit || c = '_') &&
      isFraction (plain.dropWhile fun c => c.isDigit || c = '_'))

/-- Whether a number exceeds all that are finite.  Large negative ones do not. -/
def isExcessive (text : List Char) : Bool :=
  text.head? != some '-' &&
    Binary64.ofNumeral? ((unsigned text).filter (· != '_')) == some Binary64.infinity

/-! ## Moments -/

/-- Two digits below a bound. -/
def twoDigits (low high : Nat) (a b : Char) : Bool :=
  match Text.readDigits 10 [a, b] with
  | some n => a.isDigit && b.isDigit && low ≤ n && n ≤ high
  | none => false

/-- The days of a month. -/
def daysOf (year month : Nat) : Nat :=
  if month = 2 then
    if year % 4 = 0 ∧ (year % 100 ≠ 0 ∨ year % 400 = 0) then 29 else 28
  else if [4, 6, 9, 11].contains month then 30 else 31

/-- A date, and what follows it. -/
def splitDate? : List Char → Option (List Char)
  | a :: b :: c :: d :: '-' :: m :: n :: '-' :: x :: y :: rest =>
    match Text.readDigits 10 [a, b, c, d], Text.readDigits 10 [m, n] with
    | some year, some month =>
      if [a, b, c, d].all Char.isDigit && twoDigits 1 12 m n &&
        twoDigits 1 (daysOf year month) x y then some rest
      else none
    | _, _ => none
  | _ => none

/-- What follows the seconds of a time: a fraction. -/
def dropFraction? : List Char → Option (List Char)
  | '.' :: rest =>
    if (rest.takeWhile Char.isDigit).isEmpty then none else some (rest.dropWhile Char.isDigit)
  | rest => some rest

/-- A time of the day, and what follows it. -/
def splitTime? : List Char → Option (List Char)
  | a :: b :: ':' :: c :: d :: ':' :: e :: f :: rest =>
    if twoDigits 0 23 a b && twoDigits 0 59 c d && twoDigits 0 60 e f then dropFraction? rest
    else none
  | _ => none

/-- A difference to universal time, or nothing. -/
def isOffset : List Char → Bool
  | [] => true
  | ['Z'] => true
  | ['z'] => true
  | sign :: a :: b :: ':' :: [c, d] =>
    (sign = '+' || sign = '-') && twoDigits 0 23 a b && twoDigits 0 59 c d
  | _ => false

/-- A date, a time, or both. -/
def isMoment (text : List Char) : Bool :=
  match splitDate? text with
  | some [] => true
  | some (mark :: rest) =>
    (mark = 'T' || mark = 't' || mark = ' ') && ((splitTime? rest).map isOffset).getD false
  | none => splitTime? text == some []

/-! ## Words -/

/-- A character of a word. -/
def isWordChar (c : Char) : Bool := c.isAlphanum || "_+-.:".toList.contains c

/-- A word, and what follows it.  A space may stand between a date and a time. -/
def splitWord (text : List Char) : List Char × List Char :=
  let word := text.takeWhile isWordChar
  match text.dropWhile isWordChar with
  | ' ' :: next :: rest =>
    if splitDate? word == some [] && next.isDigit then
      let time := (next :: rest).takeWhile isWordChar
      (word ++ ' ' :: time, (next :: rest).dropWhile isWordChar)
    else (word, ' ' :: next :: rest)
  | rest => (word, rest)

/-- The value of a word. -/
def wordValue? (word : List Char) : Option TomlValue :=
  if word = "true".toList then some (.boolean true)
  else if word = "false".toList then some (.boolean false)
  else
    match integer? word with
    | some value => some (.integer value)
    | none =>
      if isFloat word then
        if isExcessive word then none else some (.float (String.ofList word))
      else if isMoment word then some (.moment (String.ofList word))
      else none

end BuildManifest.Toml
