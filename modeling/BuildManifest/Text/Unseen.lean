import BuildManifest.Text.Extending
import BuildManifest.Text.Unassigned

/-!
# Characters that cannot be seen by themselves

What a reader of a message would not see, or not see in its place: controls, blanks other than the
space, marks that belong to the character before them, fillers, and code points without a
character.

## What is here

* `controlRanges`, `formatRanges`, `separatorRanges`, `privateRanges`, `fillerRanges` — the
  properties.
* `unseenTables`, `isUnseen` — membership in one of them, or in those of `Text/Extending` and
  `Text/Unassigned`.
-/

set_option autoImplicit false

namespace BuildManifest.Text.Unseen

/-- The ranges of the category `Cc`. -/
def controlRanges : Ranges := [(0x00, 0x1F), (0x7F, 0x9F)]

/-- The ranges of the category `Cf`. -/
def formatRanges : Ranges :=
  [(0xAD, 0xAD), (0x600, 0x605), (0x61C, 0x61C), (0x6DD, 0x6DD), (0x70F, 0x70F), (0x890, 0x891),
    (0x8E2, 0x8E2), (0x180E, 0x180E), (0x200B, 0x200F), (0x202A, 0x202E), (0x2060, 0x2064),
    (0x2066, 0x206F), (0xFEFF, 0xFEFF), (0xFFF9, 0xFFFB), (0x110BD, 0x110BD), (0x110CD, 0x110CD),
    (0x13430, 0x1343F), (0x1BCA0, 0x1BCA3), (0x1D173, 0x1D17A), (0xE0001, 0xE0001),
    (0xE0020, 0xE007F)]

/-- The ranges of the categories `Zs`, `Zl` and `Zp` without the space. -/
def separatorRanges : Ranges :=
  [(0xA0, 0xA0), (0x1680, 0x1680), (0x2000, 0x200A), (0x2028, 0x2029), (0x202F, 0x202F),
    (0x205F, 0x205F), (0x3000, 0x3000)]

/-- The ranges of the category `Co`. -/
def privateRanges : Ranges := [(0xE000, 0xF8FF), (0xF0000, 0xFFFFD), (0x100000, 0x10FFFD)]

/-- The letters with the property `Default_Ignorable_Code_Point`. -/
def fillerRanges : Ranges := [(0x115F, 0x1160), (0x3164, 0x3164), (0xFFA0, 0xFFA0)]

end Unseen

open Unseen in
/-- The tables of everything that cannot be seen by itself. -/
def unseenTables : List Ranges :=
  [controlRanges, formatRanges, separatorRanges, privateRanges, fillerRanges, extendingRanges,
    unassignedRanges]

/-- A character that cannot be seen by itself. -/
def isUnseen (c : Char) : Bool := unseenTables.any (·.has c)

open Unseen in
/-- Of ASCII only the controls cannot be seen. -/
theorem isUnseen_of_ascii {c : Char} (low : 0x20 ≤ c.toNat) (high : c.toNat < 0x7F) :
    isUnseen c = false := by
  have controls : controlRanges.covers c.toNat = false := by
    simp only [Ranges.covers, controlRanges, List.any_cons, List.any_nil, Bool.or_false,
      Bool.or_eq_false_iff, Bool.and_eq_false_iff, decide_eq_false_iff_not]
    omega
  have others : ∀ table ∈ unseenTables.tail, table.Increasing 0x7F := by decide +kernel
  have beyond (table : Ranges) (h : table ∈ unseenTables.tail) : table.covers c.toNat = false :=
    Ranges.covers_of_increasing (others table h) high
  simp only [isUnseen, List.any_eq_false, Ranges.has]
  intro table h
  rcases List.mem_cons.1 (show table ∈ controlRanges :: unseenTables.tail from h) with rfl | h
  · simp [controls]
  · simp [beyond table h]

end BuildManifest.Text
