import BuildManifest.Text.DecimalDigit
import BuildManifest.Text.Numeral

/-!
# Numerals in and out

How whole numbers are written, and that reading gives back what was written.

## What is here

* `isSignedDigits`, `toString_inj` — the texts of integers, none of which two integers share.
* `readDigits_repr`, `readNatBelow_repr`, `readIntBetween_toString` — **a number that was written
  is read again**.
* `isUsual`, `toString_eq_iff_isUsual` — a numeral that was read **is written again exactly if** it
  has no plus sign, no zero in front of other digits and no minus sign before zero.
* `decimalDigit_eq`, `decimalValue`, `readNatBelow_of_isDecimalDigit` — what digits of any script
  stand for, and **which of them are read** as that.
-/

set_option autoImplicit false

namespace BuildManifest.Text

/-! ## The texts of integers -/

/-- Digits with or without a minus sign before them. -/
def isSignedDigits : List Char → Bool
  | '-' :: digits => isDigits digits
  | text => isDigits text

theorem isDigits_repr (n : Nat) : isDigits n.repr.toList = true := by
  rw [Nat.repr_eq_ofList_toDigits, String.toList_ofList, isDigits, Bool.and_eq_true]
  refine ⟨by simp [Nat.toDigits_ne_nil], List.all_eq_true.2 fun c member => ?_⟩
  exact Nat.isDigit_of_mem_toDigits (by decide) (by decide) member

theorem natRepr_inj {n m : Nat} (h : n.repr = m.repr) : n = m := by
  rw [Nat.repr_eq_ofList_toDigits, Nat.repr_eq_ofList_toDigits] at h
  rw [← Nat.ofDigitChars_ten_toDigits (n := n), String.ofList_injective h,
    Nat.ofDigitChars_ten_toDigits]

theorem isSignedDigits_of_isDigits {text : List Char} (digits : isDigits text = true) :
    isSignedDigits text = true := by
  rw [isSignedDigits.eq_def]
  split
  · simp [isDigits] at digits
  · exact digits

theorem isSignedDigits_toString (n : Int) : isSignedDigits (toString n).toList = true := by
  cases n with
  | ofNat n => exact isSignedDigits_of_isDigits (isDigits_repr n)
  | negSucc n =>
    rw [show toString (Int.negSucc n) = "-" ++ (n + 1).repr from rfl, String.toList_append]
    exact isDigits_repr (n + 1)

theorem toString_inj {n m : Int} (h : toString n = toString m) : n = m := by
  -- A numeral from zero up does not begin with a minus sign.
  have apart (n m : Nat) : n.repr ≠ "-" ++ m.repr := by
    intro eq
    have digits := isDigits_repr n
    rw [eq, String.toList_append] at digits
    simp [isDigits] at digits
  cases n with
  | ofNat n =>
    cases m with
    | ofNat m => rw [natRepr_inj h]
    | negSucc m => exact absurd h (apart n (m + 1))
  | negSucc n =>
    cases m with
    | ofNat m => exact absurd h.symm (apart m (n + 1))
    | negSucc m =>
      have eq : (n + 1).repr = (m + 1).repr := (String.append_right_inj "-").1 h
      rw [Nat.succ.inj (natRepr_inj eq)]

/-! ## Reading them -/

theorem digitValue_of_isDigit {c : Char} (digit : c.isDigit = true) :
    digitValue c = some (c.toNat - '0'.toNat) := if_pos digit

theorem lt_ten_of_isDigit {c : Char} (digit : c.isDigit = true) : c.toNat - '0'.toNat < 10 := by
  simp only [Char.isDigit, Bool.and_eq_true, decide_eq_true_eq] at digit
  have high : c.toNat ≤ '9'.toNat := digit.2
  simp only [show '9'.toNat = 57 from rfl, show '0'.toNat = 48 from rfl] at high ⊢
  omega

/-- Decimal digits are read from the left. -/
theorem readDigitsFrom_of_isDigit {digits : List Char} (decimal : ∀ c ∈ digits, c.isDigit = true)
    (value : Nat) : readDigitsFrom 10 value digits = some (Nat.ofDigitChars 10 digits value) := by
  induction digits generalizing value with
  | nil => rfl
  | cons c rest ih =>
    have digit := decimal c List.mem_cons_self
    rw [readDigitsFrom, digitValue_of_isDigit digit]
    simp only [if_pos (lt_ten_of_isDigit digit)]
    rw [ih fun d member => decimal d (List.mem_cons_of_mem c member)]
    rfl

/-- **A number that was written is read again.** -/
theorem readDigits_repr (n : Nat) : readDigits 10 n.repr.toList = some n := by
  rw [Nat.repr_eq_ofList_toDigits, String.toList_ofList]
  have decimal : ∀ c ∈ Nat.toDigits 10 n, c.isDigit = true := fun c member =>
    Nat.isDigit_of_mem_toDigits (by decide) (by decide) member
  rw [readDigits.eq_2 _ _ Nat.toDigits_ne_nil, readDigitsFrom_of_isDigit decimal,
    Nat.ofDigitChars_ten_toDigits]

theorem isDigit_of_mem_repr {n : Nat} {c : Char} (member : c ∈ n.repr.toList) :
    c.isDigit = true := by
  have digits := isDigits_repr n
  rw [isDigits, Bool.and_eq_true] at digits
  exact List.all_eq_true.1 digits.2 c member

/-- A numeral does not begin with a sign. -/
theorem repr_ne_cons {n : Nat} {c : Char} (sign : c.isDigit = false) (rest : List Char) :
    n.repr.toList ≠ c :: rest := by
  intro eq
  rw [isDigit_of_mem_repr (n := n) (by rw [eq]; exact .head _)] at sign
  cases sign

theorem readNatBelow_repr {n bound : Nat} (fits : n < bound) :
    readNatBelow bound n.repr.toList = some n := by
  rw [readNatBelow, readDigits_repr, Option.filter_some, decide_eq_true fits, if_pos rfl]
  exact repr_ne_cons (by decide)

/-- **An integer that was written is read again.** -/
theorem readIntBetween_toString {low high n : Int} (above : low ≤ n) (below : n ≤ high) :
    readIntBetween low high (toString n).toList = some n := by
  have fits : (decide (low ≤ n) && decide (n ≤ high)) = true := by simp [above, below]
  cases n with
  | ofNat n =>
    rw [show toString (Int.ofNat n) = n.repr from rfl]
    rw [readIntBetween, readDigits_repr]
    · exact Option.filter_some.trans (if_pos fits)
    · exact repr_ne_cons (by decide)
    · exact repr_ne_cons (by decide)
  | negSucc n =>
    rw [show toString (Int.negSucc n) = "-" ++ (n + 1).repr from rfl, String.toList_append]
    rw [show "-".toList = ['-'] from rfl, List.singleton_append]
    rw [readIntBetween, readDigits_repr]
    exact Option.filter_some.trans (if_pos fits)

example : readIntBetween (-128) 127 "-128".toList = some (-128) := by decide

/-! ## What is no numeral -/

/-- The other digits are letters, and stand for ten and more. -/
theorem le_of_digitValue {c : Char} {d : Nat} (other : c.isDigit = false)
    (value : digitValue c = some d) : 10 ≤ d := by
  rw [digitValue, other] at value
  split at value
  · cases ‹false = true›
  · split at value
    · next letter =>
      have low : 'a'.toNat ≤ c.toNat := letter.1
      cases value
      simp only [show 'a'.toNat = 97 from rfl] at low
      omega
    · split at value
      · next letter =>
        have low : 'A'.toNat ≤ c.toNat := letter.1
        cases value
        simp only [show 'A'.toNat = 65 from rfl] at low
        omega
      · cases value

theorem readDigitsFrom_cons_eq_none {c : Char} (other : c.isDigit = false) (value : Nat)
    (rest : List Char) : readDigitsFrom 10 value (c :: rest) = none := by
  rw [readDigitsFrom]
  split
  · next d eq => exact if_neg (Nat.not_lt.2 (le_of_digitValue other eq))
  · rfl

theorem readDigits_cons_eq_none {c : Char} (other : c.isDigit = false) (rest : List Char) :
    readDigits 10 (c :: rest) = none := by
  rw [readDigits.eq_2 _ _ (List.cons_ne_nil c rest), readDigitsFrom_cons_eq_none other]

/-- A numeral begins with a sign or a digit. -/
theorem readIntBetween_cons_eq_none {c : Char} {low high : Int} (minus : c ≠ '-') (plus : c ≠ '+')
    (other : c.isDigit = false) (rest : List Char) :
    readIntBetween low high (c :: rest) = none := by
  rw [readIntBetween, readDigits_cons_eq_none other]
  · rfl
  · intro more eq
    exact minus (List.cons.inj eq).1
  · intro more eq
    exact plus (List.cons.inj eq).1

/-! ## The usual spelling -/

/-- The spelling of a numeral that is written back: no plus sign, no zero in front of other digits,
and no minus sign before zero. -/
def isUsual : List Char → Bool
  | '-' :: digits => digits.head? != some '0'
  | '+' :: _ => false
  | digits => digits == ['0'] || digits.head? != some '0'

section

variable {digits text : List Char} {n : Nat}

theorem isDigit_of_readDigitsFrom {value : Nat} (read : readDigitsFrom 10 value digits = some n) :
    ∀ c ∈ digits, c.isDigit = true := by
  induction digits generalizing value with
  | nil => exact nofun
  | cons c rest ih =>
    cases digit : c.isDigit with
    | true =>
      rw [readDigitsFrom, digitValue_of_isDigit digit] at read
      simp only [if_pos (lt_ten_of_isDigit digit)] at read
      exact List.forall_mem_cons.2 ⟨digit, ih read⟩
    | false =>
      rw [readDigitsFrom_cons_eq_none digit] at read
      cases read

/-- A run of digits that was read, and its value. -/
theorem readDigits_eq_some (read : readDigits 10 digits = some n) :
    digits ≠ [] ∧ (∀ c ∈ digits, c.isDigit = true) ∧ n = Nat.ofDigitChars 10 digits 0 := by
  cases digits with
  | nil => cases read
  | cons c rest =>
    rw [readDigits.eq_2 _ _ (List.cons_ne_nil c rest)] at read
    have decimal := isDigit_of_readDigitsFrom read
    rw [readDigitsFrom_of_isDigit decimal] at read
    exact ⟨List.cons_ne_nil c rest, decimal, (Option.some.inj read).symm⟩

theorem digitChar_of_isDigit {c : Char} (digit : c.isDigit = true) :
    Nat.digitChar (c.toNat - '0'.toNat) = c := by
  obtain ⟨low, high⟩ := Bool.and_eq_true_iff.1 digit
  have low : 48 ≤ c.toNat := of_decide_eq_true low
  have high : c.toNat ≤ 57 := of_decide_eq_true high
  have all : ∀ n < 58, 48 ≤ n → Nat.digitChar (n - 48) = Char.ofNat n := by decide
  rw [show '0'.toNat = 48 from rfl, all c.toNat (by omega) low, Char.ofNat_toNat]

/-- Digits that follow a number other than zero are written as they stand. -/
theorem toDigits_ofDigitChars (decimal : ∀ c ∈ digits, c.isDigit = true) (pos : 0 < n) :
    Nat.toDigits 10 (Nat.ofDigitChars 10 digits n) = Nat.toDigits 10 n ++ digits := by
  induction digits generalizing n with
  | nil => rw [Nat.ofDigitChars_nil, List.append_nil]
  | cons c rest ih =>
    obtain ⟨digit, decimal⟩ := List.forall_mem_cons.1 decimal
    have small := lt_ten_of_isDigit digit
    rw [Nat.ofDigitChars_cons, ih decimal (by omega),
      ← Nat.toDigits_append_toDigits (by decide) pos small, Nat.toDigits_of_lt_base small,
      digitChar_of_isDigit digit, List.append_assoc, List.singleton_append]

/-- Only zero is written with a zero in front. -/
theorem head?_toDigits_ne (pos : 0 < n) : (Nat.toDigits 10 n).head? ≠ some '0' := by
  induction n using Nat.strongRecOn with
  | ind n ih =>
    rw [Nat.toDigits_eq_if (by decide)]
    split
    · next small =>
      have all : ∀ n < 10, 0 < n → [Nat.digitChar n].head? ≠ some '0' := by decide
      exact all n small pos
    · have before := ih (n / 10) (by omega) (by omega)
      obtain ⟨first, rest, eq⟩ := List.exists_cons_of_ne_nil
        (Nat.toDigits_ne_nil (b := 10) (n := n / 10))
      rw [eq] at before ⊢
      exact before

/-- Digits are written back if they are a lone zero or do not begin with one. -/
theorem repr_eq_iff_head? (read : readDigits 10 digits = some n) :
    n.repr.toList = digits ↔ digits = ['0'] ∨ digits.head? ≠ some '0' := by
  obtain ⟨some_, decimal, rfl⟩ := readDigits_eq_some read
  rw [Nat.repr_eq_ofList_toDigits, String.toList_ofList]
  refine ⟨fun same => ?_, ?_⟩
  · rcases Nat.eq_zero_or_pos (Nat.ofDigitChars 10 digits 0) with zero | pos
    · rw [zero] at same
      exact .inl same.symm
    · exact .inr (same ▸ head?_toDigits_ne pos)
  · rintro (rfl | plain)
    · decide
    · obtain ⟨c, rest, rfl⟩ := List.exists_cons_of_ne_nil some_
      obtain ⟨digit, decimal⟩ := List.forall_mem_cons.1 decimal
      have pos : 0 < c.toNat - '0'.toNat := by
        refine Nat.pos_of_ne_zero fun zero => plain ?_
        rw [← digitChar_of_isDigit digit, zero]
        rfl
      rw [Nat.ofDigitChars_cons, Nat.mul_zero, Nat.zero_add, toDigits_ofDigitChars decimal pos,
        Nat.toDigits_of_lt_base (lt_ten_of_isDigit digit), digitChar_of_isDigit digit]
      rfl

/-- A negative number is written with a minus sign, zero without. -/
theorem toString_neg_eq_iff (read : readDigits 10 digits = some n) :
    (toString (-(n : Int))).toList = '-' :: digits ↔ digits.head? ≠ some '0' := by
  obtain ⟨some_, decimal, value⟩ := readDigits_eq_some read
  cases n with
  | zero =>
    -- The digits of zero are zeros.
    refine iff_of_false nofun fun plain => ?_
    have same := (repr_eq_iff_head? read).2 (.inr plain)
    rw [← same] at plain
    exact plain rfl
  | succ n =>
    rw [show toString (-((n + 1 : Nat) : Int)) = "-" ++ (n + 1).repr from rfl, String.toList_append,
      show "-".toList = ['-'] from rfl, List.singleton_append, List.cons_inj_right,
      repr_eq_iff_head? read]
    refine or_iff_right fun zero => ?_
    rw [zero] at value
    cases value

/-- **A numeral that was read is written again exactly if it was spelt in the usual way.** -/
theorem toString_eq_iff_isUsual {low high value : Int}
    (read : readIntBetween low high text = some value) :
    (toString value).toList = text ↔ isUsual text = true := by
  rw [readIntBetween.eq_def] at read
  obtain ⟨value_, -⟩ := Option.filter_eq_some_iff.1 read
  split at value_
  · next digits =>
    cases digits_ : readDigits 10 digits with
    | none => simp [digits_] at value_
    | some n =>
      obtain rfl : -(n : Int) = value := by simpa [digits_] using value_
      exact (toString_neg_eq_iff digits_).trans bne_iff_ne.symm
  · next digits =>
    cases digits_ : readDigits 10 digits with
    | none => simp [digits_] at value_
    | some n =>
      obtain rfl : (n : Int) = value := by simpa [digits_] using value_
      exact iff_of_false (repr_ne_cons (by decide) digits) Bool.false_ne_true
  · next minus plus =>
    cases digits_ : readDigits 10 text with
    | none => simp [digits_] at value_
    | some n =>
      obtain rfl : (n : Int) = value := by simpa [digits_] using value_
      rw [isUsual.eq_3 text minus plus, Bool.or_eq_true, beq_iff_eq, bne_iff_ne]
      exact repr_eq_iff_head? digits_

end

/-! ## Digits of every script -/

section

variable {c : Char} {digits : List Char} {bound : Nat}

/-- What a decimal digit of any script stands for. -/
def decimalDigit (c : Char) : Nat :=
  ((digitZeros.find? fun first => first ≤ c.toNat && c.toNat ≤ first + 9).map (c.toNat - ·)).getD 0

/-- The number that decimal digits stand for. -/
def decimalValue (digits : List Char) : Nat :=
  digits.foldl (fun value c => 10 * value + decimalDigit c) 0

/-- **A digit stands for its distance from the zero of its run.** -/
theorem decimalDigit_eq {first : Nat} (run : first ∈ digitZeros) (low : first ≤ c.toNat)
    (high : c.toNat ≤ first + 9) : decimalDigit c = c.toNat - first := by
  have inRun : (first ≤ c.toNat && c.toNat ≤ first + 9) = true := by simp [low, high]
  obtain ⟨before, after, eq⟩ := List.append_of_mem run
  have apart := digitZeros_apart
  rw [eq, List.pairwise_append] at apart
  -- The runs before this one have ended.
  have passed : ∀ other ∈ before, ¬(other ≤ c.toNat && c.toNat ≤ other + 9) = true := by
    intro other member
    have ended := apart.2.2 other member first List.mem_cons_self
    simp only [Bool.and_eq_true, decide_eq_true_eq]
    omega
  rw [decimalDigit, eq, List.find?_append, List.find?_eq_none.2 passed, Option.none_or,
    List.find?_cons_of_pos (p := fun first => first ≤ c.toNat && c.toNat ≤ first + 9) inRun]
  rfl

example : decimalValue "٤٢".toList = 42 := by decide

theorem decimalDigit_of_isDigit (digit : c.isDigit = true) :
    decimalDigit c = c.toNat - '0'.toNat := by
  obtain ⟨low, high⟩ := Bool.and_eq_true_iff.1 digit
  exact decimalDigit_eq List.mem_cons_self (of_decide_eq_true low) (of_decide_eq_true high)

theorem decimalValue_of_isDigit (plain : ∀ c ∈ digits, c.isDigit = true) :
    decimalValue digits = Nat.ofDigitChars 10 digits 0 := by
  rw [decimalValue]
  generalize 0 = start
  induction digits generalizing start with
  | nil => rfl
  | cons c rest ih =>
    obtain ⟨digit, plain⟩ := List.forall_mem_cons.1 plain
    rw [List.foldl_cons, decimalDigit_of_isDigit digit, ih plain, Nat.ofDigitChars_cons]

theorem readDigits_of_isDigits (plain : isDigits digits = true) :
    readDigits 10 digits = some (decimalValue digits) := by
  obtain ⟨some_, plain⟩ := Bool.and_eq_true_iff.1 plain
  have plain := List.all_eq_true.1 plain
  rw [readDigits.eq_2 _ _ (by simpa using some_), readDigitsFrom_of_isDigit plain,
    decimalValue_of_isDigit plain]

/-- **Decimal digits are read as what they stand for exactly if they are those of ASCII** and the
number is below the bound.  Otherwise they are no numeral. -/
theorem readNatBelow_of_isDecimalDigit (decimal : ∀ c ∈ digits, isDecimalDigit c = true) :
    readNatBelow bound digits =
      if isDigits digits = true ∧ decimalValue digits < bound then some (decimalValue digits)
      else none := by
  have unsigned : ∀ rest, digits ≠ '+' :: rest := by
    rintro rest rfl
    exact absurd (decimal '+' List.mem_cons_self) (by decide)
  have read : readNatBelow bound digits = (readDigits 10 digits).filter (· < bound) := by
    rw [readNatBelow]
    exact unsigned
  rw [read]
  by_cases plain : isDigits digits = true
  · rw [readDigits_of_isDigits plain, Option.filter_some]
    simp [plain]
  · rw [if_neg fun h => plain h.1]
    cases number : readDigits 10 digits with
    | none => rfl
    | some n =>
      obtain ⟨some_, digit, -⟩ := readDigits_eq_some number
      exact absurd (by simpa [isDigits, some_] using digit) plain

end

end BuildManifest.Text
