import BuildManifest.Decimal.Shortest

/-!
# Decimal notation

How a shortest decimal is written: with a point among its digits when the exponent is small, with
an exponent otherwise.  The choices are fields of one record.
-/

set_option autoImplicit false

namespace BuildManifest

/-- The decisions a format of numbers leaves open. -/
structure DecimalNotation where
  /-- The point may stand after at most this many digits. -/
  digitsBeforePoint : Int
  /-- At most this many zeros may stand between the point and the first digit. -/
  zerosAfterPoint : Int
  /-- What follows the digits of a whole number. -/
  wholeSuffix : String
  /-- The letter that starts the exponent. -/
  exponentMark : String
  /-- The sign of an exponent from zero up. -/
  exponentPlus : String
  deriving DecidableEq, Repr

namespace DecimalNotation

/-- A finite number's text. -/
def render (style : DecimalNotation) (x : Binary64) : String :=
  let sign := if x.isNegative then "-" else ""
  if x.isZero then sign ++ "0" ++ style.wholeSuffix
  else
    let d := Shortest.decimal x.magnitude
    let digits := (toString d.digits).toList
    let point := (digits.length : Int) + d.exponent
    let text :=
      if 0 ≤ d.exponent ∧ point ≤ style.digitsBeforePoint then
        String.ofList (digits ++ List.replicate d.exponent.toNat '0') ++ style.wholeSuffix
      else if 0 < point ∧ point ≤ style.digitsBeforePoint then
        String.ofList (digits.take point.toNat ++ '.' :: digits.drop point.toNat)
      else if -style.zerosAfterPoint ≤ point ∧ point ≤ 0 then
        "0." ++ String.ofList (List.replicate (-point).toNat '0' ++ digits)
      else
        let mantissa := match digits with
          | first :: second :: rest => String.ofList (first :: '.' :: second :: rest)
          | _ => String.ofList digits
        mantissa ++ style.exponentMark ++ (if 0 < point then style.exponentPlus else "") ++
          toString (point - 1)
    sign ++ text

end DecimalNotation

/-- The notation of numbers in manifests: a point while it stands after at most sixteen digits or
before at most four zeros, `.0` after a whole number, and a bare `e`. -/
def plainDecimal : DecimalNotation := ⟨16, 4, ".0", "e", ""⟩

end BuildManifest
