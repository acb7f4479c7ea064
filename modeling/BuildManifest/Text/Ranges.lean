/-!
# Tables of characters

A set of characters as a list of ranges of code points, each given by its first and its last.

## What is here

* `Ranges`, `Ranges.covers`, `Ranges.has` — a table, and membership in it.
* `Ranges.Increasing` — the ranges follow each other without touching, so that a table has only
  one form; then nothing below the first range is covered.
-/

set_option autoImplicit false

namespace BuildManifest.Text

/-- Ranges of code points, first and last of each. -/
abbrev Ranges := List (Nat × Nat)

namespace Ranges

/-- Whether a code point lies in one of the ranges. -/
def covers (ranges : Ranges) (code : Nat) : Bool :=
  ranges.any fun range => range.1 ≤ code && code ≤ range.2

/-- Whether a character lies in one of the ranges. -/
def has (ranges : Ranges) (c : Char) : Bool := ranges.covers c.toNat

/-- The ranges begin at `least` or later, none is empty, and there is a gap between any two. -/
def Increasing (least : Nat) : Ranges → Prop
  | [] => True
  | (first, last) :: rest => least ≤ first ∧ first ≤ last ∧ Increasing (last + 2) rest

instance decidableIncreasing : (least : Nat) → (ranges : Ranges) →
    Decidable (Increasing least ranges)
  | _, [] => .isTrue trivial
  | least, (first, last) :: rest =>
    have := decidableIncreasing (last + 2) rest
    inferInstanceAs (Decidable (least ≤ first ∧ first ≤ last ∧ Increasing (last + 2) rest))

/-- **Increasing ranges cover nothing below the first.** -/
theorem covers_of_increasing {least code : Nat} {ranges : Ranges} (h : Increasing least ranges)
    (low : code < least) : ranges.covers code = false := by
  induction ranges generalizing least with
  | nil => rfl
  | cons range rest ih =>
    obtain ⟨first, last⟩ := range
    obtain ⟨begins, filled, later⟩ := h
    have below : ¬ first ≤ code := by omega
    have others : covers rest code = false := ih later (by omega)
    simpa [covers, below] using others

end Ranges

end BuildManifest.Text
