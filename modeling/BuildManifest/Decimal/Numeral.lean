import BuildManifest.Decimal.Binary64
import BuildManifest.Text.Numeral

/-!
# Decimal numerals

The double precision number nearest to a decimal that is written out, with a point and an exponent
or without.
-/

set_option autoImplicit false

namespace BuildManifest.Binary64

/-- The decimal exponent after the digits: nothing, or a mark, an optional sign and digits. -/
def exponentOf? : List Char → Option Int
  | [] => some 0
  | mark :: rest =>
    if mark = 'e' ∨ mark = 'E' then
      match rest with
      | '-' :: digits => (Text.readDigits 10 digits).map fun n => -(n : Int)
      | '+' :: digits => (Text.readDigits 10 digits).map fun n => (n : Int)
      | digits => (Text.readDigits 10 digits).map fun n => (n : Int)
    else none

/-- A decimal without sign: digits, an optional point among or around them, an exponent. -/
def ofNumeral? (text : List Char) : Option Binary64 :=
  let whole := text.takeWhile Char.isDigit
  let tail := text.dropWhile Char.isDigit
  let parts := match tail with
    | '.' :: rest => (rest.takeWhile Char.isDigit, rest.dropWhile Char.isDigit)
    | _ => ([], tail)
  let digits := whole ++ parts.1
  match Text.readDigits 10 digits, exponentOf? parts.2 with
  | some value, some exponent =>
    some (ofDecimal value (toString value).length (exponent - parts.1.length))
  | _, _ => none

end BuildManifest.Binary64
