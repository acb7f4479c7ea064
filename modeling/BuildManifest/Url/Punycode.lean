import BuildManifest.Text.Numeral

/-!
# Punycode

Labels of host names that are not ASCII are written in ASCII: the ASCII characters first, then
where the others go, as differences in numbers of variable length.

## What is here

* `Punycode.encode`, `Punycode.decode` — the two directions.
-/

set_option autoImplicit false

namespace BuildManifest.Punycode

/-- The number of digits. -/
def radix : Nat := 36

/-- The digit of a value: letters, then decimal digits. -/
def digit (value : Nat) : Char :=
  if value < 26 then Char.ofNat (97 + value) else Char.ofNat (22 + value)

/-- The value of a digit. -/
def digitValue? (c : Char) : Option Nat :=
  if c.isDigit then some (c.toNat - 22)
  else if c.isAlpha then some (c.toLower.toNat - 97)
  else none

/-- From which value on the digit at a place is not the last one. -/
def threshold (place bias : Nat) : Nat := Nat.min 26 (Nat.max 1 (place - bias))

theorem threshold_pos (place bias : Nat) : 0 < threshold place bias := by
  simp only [threshold, Nat.min_def, Nat.max_def]
  split <;> split <;> omega

theorem threshold_le (place bias : Nat) : threshold place bias ≤ 26 := by
  simp only [threshold, Nat.min_def]
  split <;> omega

/-- Scale a difference down and count the steps. -/
def scale (delta steps : Nat) : Nat × Nat :=
  if 455 < delta then scale (delta / 35) (steps + radix) else (delta, steps)
termination_by delta
decreasing_by exact Nat.div_lt_self (by omega) (by omega)

/-- The bias after a difference, with `count` characters in place. -/
def adapt (delta count : Nat) (first : Bool) : Nat :=
  let damped := if first then delta / 700 else delta / 2
  let (rest, steps) := scale (damped + damped / count) 0
  steps + 36 * rest / (rest + 38)

/-! ## Encoding -/

/-- A difference as digits, the first of them at `place`. -/
def digits (bias place q : Nat) : List Char :=
  let t := threshold place bias
  if q < t then [digit q]
  else digit (t + (q - t) % (radix - t)) :: digits bias (place + radix) ((q - t) / (radix - t))
termination_by q
decreasing_by
  have positive := threshold_pos place bias
  calc (q - threshold place bias) / (radix - threshold place bias)
      ≤ q - threshold place bias := Nat.div_le_self _ _
    _ < q := by omega

/-- An encoding under construction. -/
structure Draft where
  /-- The digits so far. -/
  out : List Char := []
  /-- The difference counted up. -/
  delta : Nat := 0
  /-- The bias. -/
  bias : Nat := 72
  /-- The number of characters in place. -/
  count : Nat

/-- Pass a character of the label while the character `current` is put in place. -/
def Draft.pass (basic current : Nat) (draft : Draft) (c : Char) : Draft :=
  if c.toNat < current then { draft with delta := draft.delta + 1 }
  else if c.toNat = current then
    { out := draft.out ++ digits draft.bias radix draft.delta
      delta := 0
      bias := adapt draft.delta (draft.count + 1) (draft.count == basic)
      count := draft.count + 1 }
  else draft

/-- Put the characters in place, the smallest first. -/
def place (label : List Char) (basic : Nat) : List Nat → Nat → Draft → Draft
  | [], _, draft => draft
  | current :: rest, next, draft =>
    let start := { draft with delta := draft.delta + (current - next) * (draft.count + 1) }
    let done := label.foldl (Draft.pass basic current) start
    place label basic rest (current + 1) { done with delta := done.delta + 1 }

/-- The ASCII form of a label. -/
def encode (label : List Char) : List Char :=
  let basic := label.filter fun c => c.toNat < 0x80
  let others := ((label.filter fun c => 0x80 ≤ c.toNat).map Char.toNat).mergeSort.eraseDups
  let draft := place label basic.length others 0x80 { count := basic.length }
  (if basic.isEmpty then [] else basic ++ ['-']) ++ draft.out

/-! ## Decoding -/

/-- Read one difference: its value and what follows. -/
def readDelta (bias place weight value : Nat) : List Char → Option (Nat × List Char)
  | [] => none
  | c :: rest =>
    (digitValue? c).bind fun d =>
      let t := threshold place bias
      let value := value + d * weight
      if d < t then some (value, rest)
      else readDelta bias (place + radix) (weight * (radix - t)) value rest

theorem readDelta_shorter {bias place weight value next : Nat} {text rest : List Char}
    (h : readDelta bias place weight value text = some (next, rest)) :
    rest.length < text.length := by
  induction text generalizing place weight value with
  | nil => simp [readDelta] at h
  | cons c tail ih =>
    simp only [readDelta, Option.bind_eq_some_iff] at h
    obtain ⟨d, _, h⟩ := h
    split at h
    · simp only [Option.some.injEq, Prod.mk.injEq] at h
      simp [← h.2]
    · have := ih h
      simp only [List.length_cons]
      omega

/-- Put characters where the differences say, from the position `i` after the character `next`. -/
def insertAll (label : List Char) (next i bias : Nat) (first : Bool) (text : List Char) :
    Option (List Char) :=
  match text with
  | [] => some label
  | c :: rest =>
    match h : readDelta bias radix 1 0 (c :: rest) with
    | none => none
    | some (delta, tail) =>
      let size := label.length + 1
      let position := i + delta
      let current := next + position / size
      if current.isValidChar then
        insertAll (label.insertIdx (position % size) (Char.ofNat current)) current
          (position % size + 1) (adapt delta size first) false tail
      else none
termination_by text.length
decreasing_by exact readDelta_shorter h

/-- The label of an ASCII form.  The last hyphen follows the ASCII characters, of which there must
be some then. -/
def decode (text : List Char) : Option (List Char) :=
  let reversed := text.reverse
  let tail := (reversed.takeWhile (· != '-')).reverse
  let basic := ((reversed.dropWhile (· != '-')).drop 1).reverse
  if basic.isEmpty ∧ text.contains '-' then none else insertAll basic 0x80 0 72 true tail

end BuildManifest.Punycode
