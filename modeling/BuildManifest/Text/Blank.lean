import BuildManifest.Text.Ranges

/-!
# Blank characters and trimming

Which characters count as blank, and what trimming removes.  Every reader of this library that
ignores the space around a value uses the same property: Unicode's `White_Space`.

## What is here

* `isBlank` — membership in the property, as a table of its ten ranges.
* `trimStart`, `trimEnd`, `trim` — the text without its blank ends.
* `trimmed`, `isBlankText` — the same on strings.
* `Bare`, `trim_eq_self`, `bare_trim` — **what trimming leaves it leaves for good**.
-/

set_option autoImplicit false

namespace BuildManifest.Text

/-- The ranges of Unicode's `White_Space` property, first and last code point of each. -/
def blankRanges : Ranges :=
  [(0x09, 0x0D), (0x20, 0x20), (0x85, 0x85), (0xA0, 0xA0), (0x1680, 0x1680), (0x2000, 0x200A),
    (0x2028, 0x2029), (0x202F, 0x202F), (0x205F, 0x205F), (0x3000, 0x3000)]

/-- A character is blank when it has the property `White_Space`. -/
def isBlank (c : Char) : Bool := blankRanges.has c

/-- The text from its first character that is not blank. -/
def trimStart (text : List Char) : List Char := text.dropWhile isBlank

/-- The text up to its last character that is not blank. -/
def trimEnd (text : List Char) : List Char := (text.reverse.dropWhile isBlank).reverse

/-- The text without the blank characters at both ends. -/
def trim (text : List Char) : List Char := trimEnd (trimStart text)

/-- `trim` on a string. -/
def trimmed (text : String) : String := String.ofList (trim text.toList)

/-- Nothing but blank characters. -/
def isBlankText (text : String) : Bool := text.toList.all isBlank

/-! ## Where the ends are -/

/-- Every character that core counts as whitespace is blank. -/
theorem isBlank_of_isWhitespace {c : Char} (h : c.isWhitespace = true) : isBlank c = true := by
  simp only [Char.isWhitespace, Bool.or_eq_true, decide_eq_true_eq] at h
  rcases h with ((rfl | rfl) | rfl) | rfl <;> decide

@[simp] theorem trim_nil : trim [] = [] := rfl

/-- **Trimming leaves no blank at the front.** -/
theorem isBlank_head_trimStart {text : List Char} {c : Char} {rest : List Char}
    (h : trimStart text = c :: rest) : isBlank c = false := by
  have := List.head?_dropWhile_not isBlank text
  rw [show text.dropWhile isBlank = c :: rest from h] at this
  simpa using this

/-- No blank stands at either end. -/
def Bare (text : List Char) : Prop :=
  (∀ c ∈ text.head?, isBlank c = false) ∧ ∀ c ∈ text.getLast?, isBlank c = false

theorem trim_eq_self {text : List Char} (bare : Bare text) : trim text = text := by
  have keeps {text : List Char} (bare : ∀ c ∈ text.head?, isBlank c = false) :
      text.dropWhile isBlank = text := by
    cases text with
    | nil => rfl
    | cons c rest => exact List.dropWhile_cons_of_neg (by simp [bare c rfl])
  have start : trimStart text = text := keeps bare.1
  have reversed : text.reverse.dropWhile isBlank = text.reverse := keeps (by
    rw [List.head?_reverse]
    exact bare.2)
  rw [trim, start, trimEnd, reversed, List.reverse_reverse]

/-- **Trimming leaves no blank at either end.** -/
theorem bare_trim (text : List Char) : Bare (trim text) := by
  have front (text : List Char) : ∀ c ∈ (text.dropWhile isBlank).head?, isBlank c = false := by
    intro c first
    have := List.head?_dropWhile_not isBlank text
    rw [first] at this
    simpa using this
  refine ⟨fun c first => ?_, fun c last => ?_⟩
  · -- What trimming the end leaves is a piece from the front.
    obtain ⟨cut, eq⟩ : trim text <+: trimStart text := by
      rw [trim, trimEnd, ← List.reverse_suffix, List.reverse_reverse]
      exact List.dropWhile_suffix _
    refine front text c ?_
    rw [← trimStart, ← eq, List.head?_append, first]
    rfl
  · rw [trim, trimEnd, List.getLast?_reverse] at last
    exact front _ c last

/-- What is not blank is not trimmed. -/
theorem mem_trim {text : List Char} {c : Char} (member : c ∈ text) (visible : isBlank c = false) :
    c ∈ trim text := by
  have keeps {text : List Char} (member : c ∈ text) : c ∈ text.dropWhile isBlank := by
    rw [← List.takeWhile_append_dropWhile (p := isBlank) (l := text)] at member
    refine (List.mem_append.1 member).resolve_left fun blank => ?_
    rw [List.all_eq_true.1 List.all_takeWhile c blank] at visible
    cases visible
  rw [trim, trimEnd, List.mem_reverse]
  exact keeps (List.mem_reverse.2 (keeps member))

theorem bare_map {text : List Char} {f : Char → Char} (h : ∀ c, isBlank (f c) = isBlank c)
    (bare : Bare text) : Bare (text.map f) := by
  refine ⟨fun c first => ?_, fun c last => ?_⟩
  · rw [List.head?_map] at first
    obtain ⟨d, head, rfl⟩ := Option.map_eq_some_iff.1 first
    exact (h d).trans (bare.1 d head)
  · rw [List.getLast?_map] at last
    obtain ⟨d, tail, rfl⟩ := Option.map_eq_some_iff.1 last
    exact (h d).trans (bare.2 d tail)

/-! ## Letters -/

theorem toLower_of_not_upper {c : Char} (h : ¬(c.val ≥ 'A'.val ∧ c.val ≤ 'Z'.val)) :
    c.toLower = c := dif_neg h

/-- A capital letter becomes a letter that is none. -/
theorem toNat_toLower {c : Char} (upper : c.val ≥ 'A'.val ∧ c.val ≤ 'Z'.val) :
    65 ≤ c.toNat ∧ c.toNat ≤ 90 ∧ c.toLower.toNat = c.toNat + 32 := by
  have low : 65 ≤ c.toNat ∧ c.toNat ≤ 90 := upper
  refine ⟨low.1, low.2, ?_⟩
  have lower : c.toLower.val = c.val + ('a'.val - 'A'.val) := congrArg Char.val (dif_pos upper)
  show c.toLower.val.toNat = c.val.toNat + 32
  rw [lower, UInt32.toNat_add, show ('a'.val - 'A'.val).toNat = 32 from rfl]
  have : c.val.toNat = c.toNat := rfl
  omega

/-- No visible character of ASCII is blank. -/
theorem covers_blankRanges {code : Nat} (low : 33 ≤ code) (high : code ≤ 126) :
    blankRanges.covers code = false := by
  simp only [blankRanges, Ranges.covers, List.any_cons, List.any_nil, Bool.or_false,
    Bool.or_eq_false_iff, Bool.and_eq_false_iff, decide_eq_false_iff_not]
  omega

theorem isBlank_toLower (c : Char) : isBlank c.toLower = isBlank c := by
  by_cases upper : c.val ≥ 'A'.val ∧ c.val ≤ 'Z'.val
  · obtain ⟨low, high, lower⟩ := toNat_toLower upper
    rw [isBlank, isBlank, Ranges.has, Ranges.has, lower,
      covers_blankRanges (by omega) (by omega), covers_blankRanges (by omega) (by omega)]
  · rw [toLower_of_not_upper upper]

theorem toLower_toLower (c : Char) : c.toLower.toLower = c.toLower := by
  by_cases upper : c.val ≥ 'A'.val ∧ c.val ≤ 'Z'.val
  · obtain ⟨low, high, lower⟩ := toNat_toLower upper
    refine toLower_of_not_upper ?_
    rintro ⟨-, le⟩
    have : c.toLower.toNat ≤ 90 := le
    omega
  · rw [toLower_of_not_upper upper, toLower_of_not_upper upper]

end BuildManifest.Text
