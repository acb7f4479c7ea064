import BuildManifest.Decimal.Binary64

/-!
# The shortest decimal that reads back

A finite number is the nearest one to an interval of reals around it.  Its shortest decimal is the
point of that interval with the fewest significant digits, the nearest one to the number when
several are equally short, and the even one on an exact tie.

## What is here

* `Shortest.Interval` — the reals that round to a magnitude, over a common denominator.
* `Shortest.onGrid` — the multiple of a power of ten to choose on one decimal grid, if one of the
  value's two neighbours there lies in the interval.
* `Shortest.decimal` — the first grid with a hit, from one digit to seventeen.
-/

set_option autoImplicit false

namespace BuildManifest

/-- A positive decimal `digits * 10 ^ exponent`. -/
structure Decimal where
  /-- The significant digits, as a number. -/
  digits : Nat
  /-- The exponent of ten. -/
  exponent : Int
  deriving DecidableEq, Repr

namespace Shortest

/-- A value and the bounds of what rounds to it, as numerators over one denominator. -/
structure Interval where
  /-- The lower bound. -/
  low : Nat
  /-- The value itself. -/
  value : Nat
  /-- The upper bound. -/
  high : Nat
  /-- The common denominator. -/
  denominator : Nat
  /-- Whether the bounds belong to the interval: they do when the significand is even. -/
  closed : Bool
  deriving Repr

/-- The reals that round to a positive magnitude.  Quarter units of the last place are integers;
below a power of two the spacing is half as wide. -/
def interval (m : Binary64.Magnitude) : Interval :=
  let below := if m.significand = Nat.pow 2 52 ∧ -1074 < m.exponent then 1 else 2
  let exponent := m.exponent - 2
  let scale := Nat.pow 2 exponent.toNat
  { low := (4 * m.significand - below) * scale
    value := 4 * m.significand * scale
    high := (4 * m.significand + 2) * scale
    denominator := Nat.pow 2 (-exponent).toNat
    closed := m.significand % 2 = 0 }

/-- Whether `count * 10 ^ grid` lies in the interval. -/
def Interval.holds (i : Interval) (grid : Int) (count : Nat) : Bool :=
  let up := Nat.pow 10 grid.toNat
  let down := Nat.pow 10 (-grid).toNat
  let point := count * up * i.denominator
  if i.closed then i.low * down ≤ point && point ≤ i.high * down
  else i.low * down < point && point < i.high * down

/-- The multiple of `10 ^ grid` next to the value that lies in the interval, the nearer of two. -/
def onGrid (i : Interval) (grid : Int) : Option Nat :=
  let numerator := i.value * Nat.pow 10 (-grid).toNat
  let denominator := i.denominator * Nat.pow 10 grid.toNat
  let floor := numerator / denominator
  let twice := 2 * (numerator % denominator)
  let nearest :=
    if twice < denominator then floor
    else if denominator < twice then floor + 1
    else if floor % 2 = 0 then floor else floor + 1
  let other := if nearest = floor then floor + 1 else floor
  if nearest ≠ 0 ∧ i.holds grid nearest then some nearest
  else if other ≠ 0 ∧ i.holds grid other then some other
  else none

/-- The exponent of the leading decimal digit of `numerator / denominator`, from a candidate that
is at most `steps` too low. -/
def leadingExponent (numerator denominator : Nat) (candidate : Int) : Nat → Int
  | 0 => candidate
  | steps + 1 =>
    let next := candidate + 1
    if denominator * Nat.pow 10 next.toNat ≤ numerator * Nat.pow 10 (-next).toNat then
      leadingExponent numerator denominator next steps
    else candidate

/-- Try grids of one more digit each. -/
def firstHit (i : Interval) (leading : Int) : Nat → Nat → Option Decimal
  | _, 0 => none
  | length, tries + 1 =>
    let grid := leading - length
    match onGrid i grid with
    | some digits => some ⟨digits, grid⟩
    | none => firstHit i leading (length + 1) tries

/-- Move trailing zeros of the digits into the exponent. -/
def stripZeros (d : Decimal) : Nat → Decimal
  | 0 => d
  | steps + 1 =>
    if d.digits % 10 = 0 then stripZeros ⟨d.digits / 10, d.exponent + 1⟩ steps else d

/-- The shortest decimal that reads back as the given positive magnitude.  Seventeen digits always
suffice, so the fallback is never needed. -/
def decimal (m : Binary64.Magnitude) : Decimal :=
  let i := interval m
  -- `2 ^ 10` is a little more than `10 ^ 3`; the estimate errs on the low side.
  let bits := (Nat.log2 m.significand : Int) + m.exponent
  let low := (bits * 30103).fdiv 100000 - 1
  let leading := leadingExponent i.value i.denominator low 3
  stripZeros ((firstHit i leading 0 17).getD ⟨0, 0⟩) 20

end Shortest

end BuildManifest
