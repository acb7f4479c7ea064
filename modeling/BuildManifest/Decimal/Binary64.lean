/-!
# Double precision numbers

A double precision number is kept as its 64 bits, so that equality of trees is decidable and
every operation on numbers is exact arithmetic on natural numbers.  Powers are written `Nat.pow`,
which means the same whatever else is imported.

## What is here

* `Binary64` and the classes of its values: `isNaN`, `isInfinite`, `isZero`, the sign.
* `Binary64.magnitude` — a finite number as `significand * 2 ^ exponent`.
* `Binary64.ofRatio` — the number nearest to a ratio of naturals, ties to the even significand.
* `Binary64.ofDecimal` — the number nearest to `digits * 10 ^ exponent`.
-/

set_option autoImplicit false

namespace BuildManifest

/-- A double precision number, by its bits: one of sign, eleven of exponent, the rest fraction. -/
structure Binary64 where
  /-- The 64 bits. -/
  bits : UInt64
  deriving DecidableEq, Repr, Inhabited

namespace Binary64

/-- Positive infinity. -/
def infinity : Binary64 := ⟨0x7FF0000000000000⟩

/-- The quiet number that is not a number, with a clear sign. -/
def nan : Binary64 := ⟨0x7FF8000000000000⟩

/-- The same magnitude with the other sign. -/
def neg (x : Binary64) : Binary64 := ⟨x.bits ^^^ 0x8000000000000000⟩

/-- Whether the sign bit is set. -/
def isNegative (x : Binary64) : Bool := x.bits.toNat / Nat.pow 2 63 == 1

/-- The eleven bits of the exponent. -/
def exponentField (x : Binary64) : Nat := x.bits.toNat / Nat.pow 2 52 % Nat.pow 2 11

/-- The fifty-two bits of the fraction. -/
def fractionField (x : Binary64) : Nat := x.bits.toNat % Nat.pow 2 52

/-- Not a number. -/
def isNaN (x : Binary64) : Bool := x.exponentField == 2047 && x.fractionField != 0

/-- One of the two infinities. -/
def isInfinite (x : Binary64) : Bool := x.exponentField == 2047 && x.fractionField == 0

/-- One of the two zeros. -/
def isZero (x : Binary64) : Bool := x.exponentField == 0 && x.fractionField == 0

/-- Neither infinite nor not a number. -/
def isFinite (x : Binary64) : Bool := x.exponentField != 2047

/-- Numerical equality, except that a number that is not a number equals itself: the two zeros
are the same. -/
def same (x y : Binary64) : Bool := x == y || (x.isZero && y.isZero) || (x.isNaN && y.isNaN)

/-- A finite number without its sign, as `significand * 2 ^ exponent`. -/
structure Magnitude where
  /-- The integer significand, below `2 ^ 53`. -/
  significand : Nat
  /-- The exponent of two. -/
  exponent : Int
  deriving DecidableEq, Repr

/-- The magnitude of a finite number. -/
def magnitude (x : Binary64) : Magnitude :=
  if x.exponentField = 0 then ⟨x.fractionField, -1074⟩
  else ⟨Nat.pow 2 52 + x.fractionField, (x.exponentField : Int) - 1075⟩

/-! ## Rounding -/

/-- The quotient rounded to the nearest natural, a half going to the even neighbour. -/
def roundHalfEven (numerator denominator : Nat) : Nat :=
  let quotient := numerator / denominator
  let twice := 2 * (numerator % denominator)
  if twice < denominator then quotient
  else if denominator < twice then quotient + 1
  else if quotient % 2 = 0 then quotient else quotient + 1

/-- The non-negative number nearest to `numerator / denominator`.  The exponent is the one that
gives the quotient 53 bits, but at least that of the smallest numbers; infinity from the overflow
threshold on. -/
def ofRatio (numerator denominator : Nat) : Binary64 :=
  if numerator = 0 then ⟨0⟩
  else
    let estimate : Int := (Nat.log2 numerator : Int) - Nat.log2 denominator - 52
    -- One too high when the leading bits of the quotient compare below one.
    let scaled (exponent : Int) : Nat × Nat :=
      (numerator * Nat.pow 2 (-exponent).toNat, denominator * Nat.pow 2 exponent.toNat)
    let first := scaled estimate
    let normal := if first.1 < first.2 * Nat.pow 2 52 then estimate - 1 else estimate
    let exponent := max normal (-1074)
    let pair := scaled exponent
    let significand := roundHalfEven pair.1 pair.2
    -- A carry into the 54th bit is absorbed by the exponent field: the fields are adjacent.
    let fields := if significand < Nat.pow 2 52 then significand
      else (exponent + 1074).toNat * Nat.pow 2 52 + significand
    if 2047 * Nat.pow 2 52 ≤ fields then infinity else ⟨UInt64.ofNat fields⟩

/-- The non-negative number nearest to `digits * 10 ^ exponent`, where `digits` has `length`
decimal digits.  Exponents far outside the range are answered without computing the power. -/
def ofDecimal (digits : Nat) (length : Nat) (exponent : Int) : Binary64 :=
  if digits = 0 then ⟨0⟩
  else if 310 < length + exponent then infinity
  else if length + exponent < -330 then ⟨0⟩
  else ofRatio (digits * Nat.pow 10 exponent.toNat) (Nat.pow 10 (-exponent).toNat)

end Binary64

end BuildManifest
