/-!
# Numerals

Whole numbers as text: digits of a radix, and decimal numerals with an optional sign that have to
lie in a range.  Leading zeros are allowed; an empty run of digits is not a numeral.
-/

set_option autoImplicit false

namespace BuildManifest.Text

/-- The value of a digit, letters following `9` in either case. -/
def digitValue (c : Char) : Option Nat :=
  if c.isDigit then some (c.toNat - 48)
  else if 'a' ≤ c ∧ c ≤ 'z' then some (c.toNat - 87)
  else if 'A' ≤ c ∧ c ≤ 'Z' then some (c.toNat - 55)
  else none

/-- Read on from `value`, each further digit multiplying by the radix. -/
def readDigitsFrom (radix value : Nat) : List Char → Option Nat
  | [] => some value
  | c :: rest =>
    match digitValue c with
    | some d => if d < radix then readDigitsFrom radix (radix * value + d) rest else none
    | none => none

/-- A non-empty run of digits. -/
def readDigits (radix : Nat) : List Char → Option Nat
  | [] => none
  | digits => readDigitsFrom radix 0 digits

/-- Digits with an optional `+`, as a number below `bound`. -/
def readNatBelow (bound : Nat) (text : List Char) : Option Nat :=
  let digits := match text with
    | '+' :: rest => rest
    | _ => text
  (readDigits 10 digits).filter (· < bound)

/-- Digits with an optional sign, as an integer from `low` to `high`. -/
def readIntBetween (low high : Int) (text : List Char) : Option Int :=
  let value : Option Int := match text with
    | '-' :: rest => (readDigits 10 rest).map fun n => -(n : Int)
    | '+' :: rest => (readDigits 10 rest).map fun n => (n : Int)
    | _ => (readDigits 10 text).map fun n => (n : Int)
  value.filter fun v => low ≤ v && v ≤ high

/-- A number to base sixteen, in lower case, with zeros before it up to a width. -/
def hexDigits (width n : Nat) : List Char :=
  let digits := Nat.toDigits 16 n
  List.replicate (width - digits.length) '0' ++ digits

/-- Nothing but ASCII digits, and at least one. -/
def isDigits (text : List Char) : Bool := !text.isEmpty && text.all Char.isDigit

end BuildManifest.Text
