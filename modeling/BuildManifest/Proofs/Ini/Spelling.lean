import BuildManifest.Ini.Assignment
import BuildManifest.Proofs.Text.Numerals
import BuildManifest.Proofs.Text.Trimming

/-!
# How a line spells an assignment

The reader of a line takes it apart at the first equals sign, the first bracket and every closing
one, and trims and types what it finds.  Its counterpart here puts lines together: a name, keys in
brackets, an equals sign and a value, with space wherever it does not matter.

## What is here

* `IsBase`, `BracketKey`, `Scalar` — which names, keys and values a line can give.
* `SpeltLine` — the lines that give a value to a path.
* `readLine_of_spelt` — **the reader of lines reads them**, each as what it was put together for.
-/

set_option autoImplicit false

namespace BuildManifest.Ini

open Text

variable {text left right before after inner rest line brackets : List Char} {key value : Tree}
  {keys : List Tree}

/-! ## Names, keys and values -/

/-- A text in quotes of one kind. -/
def Enclosed (quote : Char) (text : List Char) : Prop :=
  2 ≤ text.length ∧ text.head? = some quote ∧ text.getLast? = some quote

/-- What may be the name before the brackets. -/
def IsBase (text : List Char) : Prop := text ≠ [] ∧ ∀ c ∈ text, isBaseChar c = true

/-- What stays as it is between brackets. -/
structure BracketText (text : List Char) : Prop where
  /-- There is something. -/
  some_ : text ≠ []
  /-- No space is around it. -/
  bare : Bare text
  /-- It ends neither the brackets nor the key nor the line. -/
  inside : ∀ c ∈ text, c ≠ ']' ∧ c ≠ '=' ∧ c ≠ '\n'
  /-- It is not in quotes. -/
  plain : ∀ quote ∈ ['"', '\''], ¬Enclosed quote text

instance (quote : Char) (text : List Char) : Decidable (Enclosed quote text) :=
  inferInstanceAs (Decidable
    (2 ≤ text.length ∧ text.head? = some quote ∧ text.getLast? = some quote))

instance (text : List Char) : Decidable (IsBase text) :=
  @instDecidableAnd _ _ inferInstance (List.decidableBAll (fun c => isBaseChar c = true) text)

instance (text : List Char) : Decidable (BracketText text) :=
  letI : Decidable (∀ c ∈ text, c ≠ ']' ∧ c ≠ '=' ∧ c ≠ '\n') := List.decidableBAll _ text
  letI : Decidable (∀ quote ∈ ['"', '\''], ¬Enclosed quote text) := List.decidableBAll _ _
  decidable_of_iff (text ≠ [] ∧ Bare text ∧ (∀ c ∈ text, c ≠ ']' ∧ c ≠ '=' ∧ c ≠ '\n') ∧
      ∀ quote ∈ ['"', '\''], ¬Enclosed quote text)
    ⟨fun ⟨some_, bare, inside, plain⟩ => ⟨some_, bare, inside, plain⟩,
      fun ⟨some_, bare, inside, plain⟩ => ⟨some_, bare, inside, plain⟩⟩

/-- The keys that can stand between brackets: indices, and texts that are no numerals. -/
inductive BracketKey : Tree → Prop
  | index {n : Nat} (fits : n < Nat.pow 2 64) : BracketKey (.number (.int n))
  | name {text : String} (stays : BracketText text.toList) (other : isDigits text.toList = false) :
      BracketKey (.string text)

/-- The values that a line can give. -/
inductive Scalar : Tree → Prop
  | text {text : String} (oneLine : '\n' ∉ text.toList) : Scalar (.string text)
  | integer {n : Int} (low : -Int.pow 2 63 ≤ n) (high : n < Int.pow 2 63) :
      Scalar (.number (.int n))
  | truth (value : Bool) : Scalar (.bool value)

/-! ## Lines -/

/-- Space within a line. -/
def Space (text : List Char) : Prop := ∀ c ∈ text, isBlank c = true ∧ c ≠ '\n'

instance (text : List Char) : Decidable (Space text) :=
  List.decidableBAll (fun c => isBlank c = true ∧ c ≠ '\n') text

/-- What stands between brackets for a key: an index in decimal, a name as it is. -/
def keyChars : Tree → List Char
  | .number (.int n) => (toString n).toList
  | .string text => text.toList
  | _ => []

/-- Keys in brackets, with space inside these. -/
inductive Brackets : List Tree → List Char → Prop
  | nil : Brackets [] []
  | cons {key : Tree} {keys : List Tree} {left right rest : List Char} (space : Space left)
      (space' : Space right) (more : Brackets keys rest) :
      Brackets (key :: keys) ('[' :: ((left ++ (keyChars key ++ right)) ++ ']' :: rest))

/-- What stands for a value: a text in double quotes, an integer in decimal, a truth value as its
word. -/
inductive ValueChars : Tree → List Char → Prop
  | text (text : String) : ValueChars (.string text) (['"'] ++ (text.toList ++ ['"']))
  | integer (n : Int) : ValueChars (.number (.int n)) (toString n).toList
  | truth {value : Bool} {word : List Char} (spells : isWordAnyCase word (Tree.boolWord value)) :
      ValueChars (.bool value) word

/-- The lines that give a value to the keys of a path, with space around the line and around the
equals sign. -/
inductive SpeltLine : List Tree → Tree → List Char → Prop
  | mk {base : String} {keys : List Tree} {value : Tree}
      {lead brackets before after chars trail : List Char} (path : Brackets keys brackets)
      (given : ValueChars value chars) (leadSpace : Space lead) (beforeSpace : Space before)
      (afterSpace : Space after) (trailSpace : Space trail) :
      SpeltLine (.string base :: keys) value
        (lead ++ (((base.toList ++ brackets) ++ (before ++ '=' :: (after ++ chars))) ++ trail))

/-! ## Characters -/

theorem Space.allBlank (space : Space text) : AllBlank text := fun c member => (space c member).1

theorem Space.ne_of_mem {c : Char} (space : Space text) (visible : isBlank c = false) :
    c ∉ text := by
  intro member
  rw [(space c member).1] at visible
  cases visible

theorem not_isBlank_of_visible {c : Char} (visible : 33 ≤ c.toNat ∧ c.toNat ≤ 126) :
    isBlank c = false := covers_blankRanges visible.1 visible.2

theorem visible_of_isDigit {c : Char} (digit : c.isDigit = true) :
    33 ≤ c.toNat ∧ c.toNat ≤ 126 := by
  obtain ⟨low, high⟩ := Bool.and_eq_true_iff.1 digit
  have low : 48 ≤ c.toNat := of_decide_eq_true low
  have high : c.toNat ≤ 57 := of_decide_eq_true high
  omega

theorem visible_of_isBaseChar {c : Char} (base : isBaseChar c = true) :
    33 ≤ c.toNat ∧ c.toNat ≤ 126 := by
  simp only [isBaseChar, Char.isAlphanum, Bool.or_eq_true, beq_iff_eq] at base
  rcases base with (((letter | digit) | rfl) | rfl) | rfl
  · rcases Bool.or_eq_true_iff.1 letter with upper | lower
    · obtain ⟨low, high⟩ : 65 ≤ c.toNat ∧ c.toNat ≤ 90 := of_decide_eq_true upper
      omega
    · obtain ⟨low, high⟩ := Bool.and_eq_true_iff.1 lower
      have low : 97 ≤ c.toNat := of_decide_eq_true low
      have high : c.toNat ≤ 122 := of_decide_eq_true high
      omega
  · exact visible_of_isDigit digit
  · decide
  · decide
  · decide

theorem bare_of_forall (visible : ∀ c ∈ text, isBlank c = false) : Bare text :=
  ⟨fun c first => visible c (List.mem_of_mem_head? first),
    fun c last => visible c (List.mem_of_getLast? last)⟩

theorem bare_cons {c : Char} (visible : isBlank c = false) (bare : Bare text) :
    Bare (c :: text) := by
  refine ⟨fun d first => ?_, fun d last => ?_⟩
  · cases first
    exact visible
  · cases text with
    | nil =>
      cases last
      exact visible
    | cons first rest =>
      rw [List.getLast?_cons_cons] at last
      exact bare.2 d last

/-- A text is cut at the first character of a kind, or not at all. -/
theorem cut_append {stop : Char} (free : stop ∉ text) (next : ∀ c ∈ rest.head?, c = stop) :
    (text ++ rest).takeWhile (· != stop) = text ∧
      (text ++ rest).dropWhile (· != stop) = rest := by
  have others : ∀ c ∈ text, (c != stop) = true := fun c member => by
    rw [bne_iff_ne]
    rintro rfl
    exact free member
  rw [List.takeWhile_append_of_pos others, List.dropWhile_append_of_pos others]
  cases rest with
  | nil => simp
  | cons c rest =>
    rw [next c rfl]
    simp

theorem cut_cons {stop : Char} (free : stop ∉ text) (rest : List Char) :
    (text ++ stop :: rest).takeWhile (· != stop) = text ∧
      (text ++ stop :: rest).dropWhile (· != stop) = stop :: rest :=
  cut_append free fun _ first => (Option.some.inj first).symm

/-! ## Keys -/

theorem inside?_eq_none {quote : Char} (plain : ¬Enclosed quote text) :
    inside? quote text = none := by
  cases text with
  | nil => rfl
  | cons first rest =>
    refine if_neg fun quoted => plain ?_
    obtain ⟨rfl, last⟩ := quoted
    cases rest with
    | nil => cases last
    | cons second rest =>
      refine ⟨by simp, rfl, ?_⟩
      rwa [List.getLast?_cons_cons]

theorem BracketText.segmentOf_surround (stays : BracketText text) (space : Space left)
    (space' : Space right) :
    segmentOf (left ++ (text ++ right)) = .named (segmentKey text) := by
  have kept : unquoted text = text := by
    rw [unquoted, inside?_eq_none (stays.plain _ (by decide)),
      inside?_eq_none (stays.plain _ (by decide))]
    rfl
  rw [segmentOf, trim_surround space.allBlank text space'.allBlank, trim_eq_self stays.bare, kept]
  exact if_neg (by simp [stays.some_])

theorem bracketText_repr (n : Nat) : BracketText n.repr.toList := by
  have digits {c : Char} (member : c ∈ n.repr.toList) : c.isDigit = true :=
    isDigit_of_mem_repr member
  refine ⟨?_, bare_of_forall fun c member => ?_, fun c member => ?_, fun quote member => ?_⟩
  · intro none_
    have digits := isDigits_repr n
    rw [none_] at digits
    cases digits
  · exact not_isBlank_of_visible (visible_of_isDigit (digits member))
  · have digit := digits member
    refine ⟨?_, ?_, ?_⟩ <;> rintro rfl <;> cases digit
  · rintro ⟨-, first, -⟩
    have digit := digits (List.mem_of_mem_head? first)
    rcases List.mem_cons.1 member with rfl | member
    · cases digit
    · rw [List.mem_singleton.1 member] at digit
      cases digit

theorem BracketKey.stays (h : BracketKey key) : BracketText (keyChars key) := by
  cases h with
  | index _ => exact bracketText_repr _
  | name stays _ => exact stays

/-- **A key that was written is read again.** -/
theorem BracketKey.segmentKey_keyChars (h : BracketKey key) : segmentKey (keyChars key) = key := by
  cases h with
  | @index n fits =>
    have digits : isDigits (keyChars (.number (.int n))) = true := isDigits_repr n
    have read : readNatBelow (Nat.pow 2 64) (keyChars (.number (.int n))) = some n :=
      readNatBelow_repr fits
    rw [segmentKey, if_pos digits, read]
  | @name text stays other =>
    have named : ¬isDigits (keyChars (.string text)) = true := by
      rw [keyChars, other]
      exact Bool.false_ne_true
    rw [segmentKey, if_neg named]
    exact congrArg Tree.string String.ofList_toList

theorem readSegments_cons {name : String} (free : ']' ∉ inner) :
    readSegments name ('[' :: (inner ++ ']' :: rest)) =
      (readSegments name rest).map (segmentOf inner :: ·) := by
  obtain ⟨taken, dropped⟩ := cut_cons free rest
  rw [readSegments]
  split
  · next none_ =>
    rw [dropped] at none_
    cases none_
  · next some_ =>
    rw [dropped] at some_
    cases some_
    rw [taken]
    cases readSegments name rest <;> rfl

/-- **Keys in brackets are read again.** -/
theorem Brackets.readSegments (h : Brackets keys brackets) (valid : ∀ key ∈ keys, BracketKey key)
    (name : String) : readSegments name brackets = .ok (keys.map .named) := by
  induction h with
  | nil => rw [Ini.readSegments, List.map_nil]
  | @cons key keys left right rest space space' more ih =>
    have stays := (valid key List.mem_cons_self).stays
    have free : ']' ∉ left ++ (keyChars key ++ right) := by
      simp only [List.mem_append, not_or]
      exact ⟨space.ne_of_mem (by decide), fun member => (stays.inside _ member).1 rfl,
        space'.ne_of_mem (by decide)⟩
    rw [readSegments_cons free, ih fun key member => valid key (List.mem_cons_of_mem _ member),
      stays.segmentOf_surround space space',
      (valid key List.mem_cons_self).segmentKey_keyChars]
    rfl

theorem Brackets.bare (h : Brackets keys brackets) : Bare brackets := by
  induction h with
  | nil => exact ⟨nofun, nofun⟩
  | cons _ _ _ ih =>
    have opening : Bare ['['] := by decide
    exact bare_append opening (List.cons_ne_nil _ _) (bare_cons (by decide) ih)
      (List.cons_ne_nil _ _) _

theorem Brackets.ne_of_mem (h : Brackets keys brackets) (valid : ∀ key ∈ keys, BracketKey key) :
    '=' ∉ brackets ∧ '\n' ∉ brackets := by
  induction h with
  | nil => exact ⟨List.not_mem_nil, List.not_mem_nil⟩
  | @cons key keys left right rest space space' more ih =>
    have stays := (valid key List.mem_cons_self).stays
    obtain ⟨noEquals, noBreak⟩ := ih fun key member => valid key (List.mem_cons_of_mem _ member)
    simp only [List.mem_cons, List.mem_append, not_or]
    exact ⟨⟨by decide, ⟨space.ne_of_mem (by decide), fun member => (stays.inside _ member).2.1 rfl,
        space'.ne_of_mem (by decide)⟩, by decide, noEquals⟩,
      by decide, ⟨fun member => (space _ member).2 rfl,
        fun member => (stays.inside _ member).2.2 rfl,
        fun member => (space' _ member).2 rfl⟩, by decide, noBreak⟩

theorem IsBase.visible (base : IsBase text) : ∀ c ∈ text, isBlank c = false := fun c member =>
  not_isBlank_of_visible (visible_of_isBaseChar (base.2 c member))

theorem IsBase.ne_of_mem {c : Char} (base : IsBase text) (other : isBaseChar c = false) :
    c ∉ text := by
  intro member
  rw [base.2 c member] at other
  cases other

/-- A name does not begin like a comment. -/
theorem IsBase.ne_of_mem_head? (base : IsBase text) (rest : List Char) :
    ∀ c ∈ (text ++ rest).head?, c ≠ ';' ∧ c ≠ '#' := by
  obtain ⟨first, name, rfl⟩ := List.exists_cons_of_ne_nil base.1
  rintro c ⟨⟩
  have inBase := base.2 first List.mem_cons_self
  refine ⟨?_, ?_⟩ <;> rintro rfl <;> cases inBase

theorem IsBase.bare_append_brackets (base : IsBase text) (path : Brackets keys brackets) :
    Bare (text ++ brackets) := by
  have bare := bare_of_forall base.visible
  cases path with
  | nil => rwa [List.append_nil]
  | cons left right more =>
    exact bare_append bare base.1 (Brackets.cons left right more).bare (List.cons_ne_nil _ _) []

/-- **A path is read again.** -/
theorem readKey_append {base : String} (named : IsBase base.toList) (path : Brackets keys brackets)
    (valid : ∀ key ∈ keys, BracketKey key) :
    readKey (base.toList ++ brackets) = .ok ((.string base :: keys).map .named) := by
  have next : ∀ c ∈ brackets.head?, c = '[' := by
    cases path with
    | nil => exact nofun
    | cons => exact fun _ first => (Option.some.inj first).symm
  obtain ⟨taken, dropped⟩ := cut_append (named.ne_of_mem (by decide)) next
  have trimmed : trim base.toList = base.toList := trim_eq_self (bare_of_forall named.visible)
  have kept : ¬(base.toList.isEmpty = true ∨ (!base.toList.all isBaseChar) = true) := by
    rintro (none_ | other)
    · exact named.1 (List.isEmpty_iff.1 none_)
    · rw [List.all_eq_true.2 named.2] at other
      cases other
  rw [readKey, taken, dropped, trimmed, if_neg kept, path.readSegments valid,
    String.ofList_toList]
  rfl

/-! ## Values -/

theorem mem_toString {n : Int} {c : Char} (member : c ∈ (toString n).toList) :
    c = '-' ∨ c.isDigit = true := by
  cases n with
  | ofNat n => exact .inr (isDigit_of_mem_repr member)
  | negSucc n =>
    have negative : toString (Int.negSucc n) = "-" ++ (n + 1).repr := rfl
    rw [negative, String.toList_append] at member
    exact (List.mem_append.1 member).imp List.mem_singleton.1 isDigit_of_mem_repr

theorem visible_of_mem_toString {n : Int} {c : Char} (member : c ∈ (toString n).toList) :
    33 ≤ c.toNat ∧ c.toNat ≤ 126 := by
  rcases mem_toString member with rfl | digit
  · decide
  · exact visible_of_isDigit digit

theorem toString_ne_nil (n : Int) : (toString n).toList ≠ [] := by
  intro none_
  have digits := isSignedDigits_toString n
  rw [none_] at digits
  cases digits

theorem toLower_mem {word : List Char} {small : String} {c : Char}
    (spells : isWordAnyCase word small = true) (member : c ∈ word) : c.toLower ∈ small.toList := by
  rw [isWordAnyCase, beq_iff_eq] at spells
  rw [← spells]
  exact List.mem_map_of_mem member

theorem toLower_of_isDigit {c : Char} (digit : c.isDigit = true) : c.toLower = c := by
  obtain ⟨-, high⟩ := Bool.and_eq_true_iff.1 digit
  have high : c.toNat ≤ 57 := of_decide_eq_true high
  refine toLower_of_not_upper fun upper => ?_
  have low : 65 ≤ c.toNat := upper.1
  omega

/-- A letter of the words for truth values, in either case. -/
theorem letter_of_mem {word : List Char} {truth : Bool} {c : Char}
    (spells : isWordAnyCase word (Tree.boolWord truth) = true) (member : c ∈ word) :
    isBlank c = false ∧ c ∉ ['\n', '-', '+', '"', '\''] ∧ c.isDigit = false := by
  have small := toLower_mem spells member
  have plain : (Tree.boolWord truth).toList.all fun d => isBlank d = false ∧
      d ∉ ['\n', '-', '+', '"', '\''] ∧ d.isDigit = false := by
    cases truth <;> decide
  obtain ⟨visible, others, letter⟩ := of_decide_eq_true (List.all_eq_true.1 plain _ small)
  refine ⟨isBlank_toLower c ▸ visible, fun other => others ?_, ?_⟩
  · have same : ['\n', '-', '+', '"', '\''].all fun d => d.toLower = d := by decide
    rwa [of_decide_eq_true (List.all_eq_true.1 same c other)]
  · rw [Bool.eq_false_iff]
    intro digit
    rw [toLower_of_isDigit digit, digit] at letter
    cases letter

theorem ne_nil_of_spells {word : List Char} {truth : Bool}
    (spells : isWordAnyCase word (Tree.boolWord truth) = true) : word ≠ [] := by
  rintro rfl
  cases truth <;> cases spells

theorem eq_of_spells {word : List Char} {truth other : Bool}
    (spells : isWordAnyCase word (Tree.boolWord truth) = true)
    (spells' : isWordAnyCase word (Tree.boolWord other) = true) : truth = other := by
  rw [isWordAnyCase, beq_iff_eq] at spells spells'
  have apart : ∀ a b : Bool, (Tree.boolWord a).toList = (Tree.boolWord b).toList → a = b := by
    decide
  exact apart _ _ (spells.symm.trans spells')

theorem readIntBetween_of_spells {word : List Char} {truth : Bool} (low high : Int)
    (spells : isWordAnyCase word (Tree.boolWord truth) = true) :
    readIntBetween low high word = none := by
  obtain ⟨first, rest, rfl⟩ := List.exists_cons_of_ne_nil (ne_nil_of_spells spells)
  obtain ⟨-, others, letter⟩ := letter_of_mem spells List.mem_cons_self
  simp only [List.mem_cons, not_or] at others
  exact readIntBetween_cons_eq_none others.2.1 others.2.2.1 letter rest

/-- The word for a truth value is read as that, in either case of its letters. -/
theorem bareValue_of_spells {word : List Char} {truth : Bool}
    (spells : isWordAnyCase word (Tree.boolWord truth) = true) :
    bareValue word = .bool truth := by
  rw [bareValue, readIntBetween_of_spells _ _ spells]
  cases truth with
  | true => exact if_pos spells
  | false =>
    have other : ¬isWordAnyCase word (Tree.boolWord true) = true := fun spells' =>
      nomatch eq_of_spells spells spells'
    exact (if_neg other).trans (if_pos spells)

theorem ValueChars.ne_nil (h : ValueChars value text) : text ≠ [] := by
  cases h with
  | text _ => exact List.cons_ne_nil _ _
  | integer n => exact toString_ne_nil n
  | truth spells => exact ne_nil_of_spells spells

theorem ValueChars.bare (h : ValueChars value text) : Bare text := by
  cases h with
  | text content => exact bare_append (by decide) (by decide) (by decide) (by decide) _
  | integer n =>
    exact bare_of_forall fun c member => not_isBlank_of_visible (visible_of_mem_toString member)
  | truth spells => exact bare_of_forall fun c member => (letter_of_mem spells member).1

theorem ValueChars.oneLine (h : ValueChars value text) (scalar : Scalar value) : '\n' ∉ text := by
  cases h with
  | text content =>
    cases scalar with
    | text oneLine => simpa using oneLine
  | integer n =>
    intro member
    have visible := visible_of_mem_toString member
    exact absurd visible.1 (by decide)
  | truth spells => exact fun member => (letter_of_mem spells member).2.1 (by decide)

/-- A text that begins with no quote is typed. -/
theorem readValue_of_plain (plain : ∀ c ∈ text.head?, c ≠ '"' ∧ c ≠ '\'') :
    readValue text = .ok (bareValue text) := by
  cases text with
  | nil => rfl
  | cons first rest =>
    obtain ⟨double, single⟩ := plain first rfl
    rw [readValue]
    exact if_neg (not_or.2 ⟨double, single⟩)

/-- **A value that was written is read again.** -/
theorem ValueChars.readValue (h : ValueChars value text) (scalar : Scalar value) :
    readValue text = .ok value := by
  cases h with
  | text content =>
    have quoted : inside? '"' ('"' :: (content.toList ++ ['"'])) = some content.toList := by
      rw [inside?, if_pos ⟨rfl, by simp⟩, List.dropLast_concat]
    rw [List.singleton_append, Ini.readValue, if_pos (.inl rfl), quoted]
    exact congrArg (fun text => Except.ok (Tree.string text)) String.ofList_toList
  | integer n =>
    cases scalar with
    | integer low high =>
      have read : readIntBetween (-Int.pow 2 63) (Int.pow 2 63 - 1) (toString n).toList = some n :=
        readIntBetween_toString low (Int.le_sub_one_of_lt high)
      rw [readValue_of_plain, bareValue, read]
      intro c first
      rcases mem_toString (List.mem_of_mem_head? first) with rfl | digit
      · decide
      · refine ⟨?_, ?_⟩ <;> rintro rfl <;> cases digit
  | @truth truth word spells =>
    rw [readValue_of_plain, bareValue_of_spells spells]
    intro c first
    obtain ⟨-, others, -⟩ := letter_of_mem spells (List.mem_of_mem_head? first)
    simp only [List.mem_cons, not_or] at others
    exact ⟨others.2.2.2.1, others.2.2.2.2.1⟩

/-! ## Whole lines -/

/-- The paths that a line can give. -/
inductive ValidPath : List Tree → Prop
  | mk {base : String} {keys : List Tree} (named : IsBase base.toList)
      (valid : ∀ key ∈ keys, BracketKey key) : ValidPath (.string base :: keys)

/-- A blank line assigns nothing. -/
theorem readLine_of_blank (blank : AllBlank line) : readLine line = .ok none := by
  rw [readLine, trim_eq_nil_iff.2 blank]

/-- A comment assigns nothing. -/
theorem readLine_of_comment {lead : List Char} {mark : Char} (blank : AllBlank lead)
    (marks : mark = ';' ∨ mark = '#') : readLine (lead ++ mark :: text) = .ok none := by
  have visible : isBlank mark = false := by rcases marks with rfl | rfl <;> decide
  rw [readLine, trim_append blank, trim_cons visible]
  exact if_pos marks

/-- A line is taken apart at its first equals sign. -/
theorem readLine_of_trim {key rest : List Char} (trimmed : trim line = key ++ '=' :: rest)
    (some_ : key ≠ []) (starts : ∀ c ∈ key.head?, c ≠ ';' ∧ c ≠ '#') (free : '=' ∉ key) :
    readLine line = do
      let path ← readKey (trim key)
      let value ← readValue (trim rest)
      return some ⟨path, value⟩ := by
  obtain ⟨taken, dropped⟩ := cut_cons free rest
  obtain ⟨first, key, rfl⟩ := List.exists_cons_of_ne_nil some_
  rw [List.cons_append] at trimmed taken dropped
  rw [readLine, trimmed]
  simp only [not_or.2 (starts first rfl), if_false, taken, dropped]

/-- **A line that was put together is read again.** -/
theorem readLine_of_spelt (h : SpeltLine keys value line) (path : ValidPath keys)
    (scalar : Scalar value) : readLine line = .ok (some ⟨keys.map .named, value⟩) := by
  obtain @⟨base, keys, value, lead, brackets, before, after, chars, trail, inBrackets, given,
    leadSpace, beforeSpace, afterSpace, trailSpace⟩ := h
  obtain ⟨named, valid⟩ := path
  have keyBare := named.bare_append_brackets inBrackets
  have keySome : base.toList ++ brackets ≠ [] := List.append_ne_nil_of_left_ne_nil named.1 _
  have trimmed : trim
      (lead ++ (((base.toList ++ brackets) ++ (before ++ '=' :: (after ++ chars))) ++ trail)) =
      ((base.toList ++ brackets) ++ before) ++ '=' :: (after ++ chars) := by
    have split : before ++ '=' :: (after ++ chars) = (before ++ '=' :: after) ++ chars := by simp
    rw [trim_surround leadSpace.allBlank _ trailSpace.allBlank, List.append_assoc _ before, split]
    exact trim_eq_self (bare_append keyBare keySome given.bare given.ne_nil _)
  have starts : ∀ c ∈ ((base.toList ++ brackets) ++ before).head?, c ≠ ';' ∧ c ≠ '#' := by
    rw [List.append_assoc]
    exact named.ne_of_mem_head? _
  have free : '=' ∉ (base.toList ++ brackets) ++ before := by
    simp only [List.mem_append, not_or]
    exact ⟨⟨named.ne_of_mem (by decide), (inBrackets.ne_of_mem valid).1⟩,
      beforeSpace.ne_of_mem (by decide)⟩
  have keyTrimmed : trim ((base.toList ++ brackets) ++ before) = base.toList ++ brackets := by
    rw [trim_append_blank _ beforeSpace.allBlank, trim_eq_self keyBare]
  have valueTrimmed : trim (after ++ chars) = chars := by
    rw [trim_append afterSpace.allBlank, trim_eq_self given.bare]
  rw [readLine_of_trim trimmed (List.append_ne_nil_of_left_ne_nil keySome _) starts free,
    keyTrimmed, valueTrimmed, readKey_append named inBrackets valid, given.readValue scalar]
  rfl

theorem SpeltLine.oneLine (h : SpeltLine keys value line) (path : ValidPath keys)
    (scalar : Scalar value) : '\n' ∉ line := by
  obtain @⟨base, keys, value, lead, brackets, before, after, chars, trail, inBrackets, given,
    leadSpace, beforeSpace, afterSpace, trailSpace⟩ := h
  obtain ⟨named, valid⟩ := path
  have within {text : List Char} (space : Space text) : '\n' ∉ text :=
    fun member => (space _ member).2 rfl
  simp only [List.mem_append, List.mem_cons, not_or]
  exact ⟨within leadSpace, ⟨⟨named.ne_of_mem (by decide), (inBrackets.ne_of_mem valid).2⟩,
    within beforeSpace, by decide, within afterSpace, given.oneLine scalar⟩, within trailSpace⟩

end BuildManifest.Ini
