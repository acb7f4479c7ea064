import BuildManifest.Text.Blank

/-!
# Space around a text

Trimming takes off the blank characters around a text and nothing else.

## What is here

* `AllBlank` — a text of blank characters.
* `exists_trimStart`, `trimStart_append` — what trimming the front takes off.
* `trim_surround` — **trimming undoes adding space on both sides**.
* `exists_trim`, `trim_append_cons` — what trimming takes off, and **how far it goes**.
-/

set_option autoImplicit false

namespace BuildManifest.Text

variable {lead trail text : List Char}

/-- Nothing but blank characters, perhaps none. -/
def AllBlank (text : List Char) : Prop := ∀ c ∈ text, isBlank c = true

-- A statement about all characters in a list can be decided by trying all characters there are,
-- so the instances name the list or the option that they go through.
instance (text : List Char) : Decidable (AllBlank text) :=
  List.decidableBAll (fun c => isBlank c = true) text

instance (text : List Char) : Decidable (Bare text) :=
  @instDecidableAnd _ _ (Option.decidableForallMem _) (Option.decidableForallMem _)

theorem AllBlank.not_mem {c : Char} (blank : AllBlank text) (visible : isBlank c = false) :
    c ∉ text := by
  intro member
  rw [blank c member] at visible
  cases visible

/-- What is taken off the front is blank. -/
theorem exists_trimStart (text : List Char) :
    ∃ lead, AllBlank lead ∧ text = lead ++ trimStart text :=
  ⟨text.takeWhile isBlank, List.all_eq_true.1 List.all_takeWhile,
    List.takeWhile_append_dropWhile.symm⟩

theorem trimStart_append (blank : AllBlank lead) (text : List Char) :
    trimStart (lead ++ text) = trimStart text := List.dropWhile_append_of_pos blank

theorem trimStart_cons {c : Char} (visible : isBlank c = false) (text : List Char) :
    trimStart (c :: text) = c :: text := List.dropWhile_cons_of_neg (by simp [visible])

theorem trimEnd_append (text : List Char) (blank : AllBlank trail) :
    trimEnd (text ++ trail) = trimEnd text := by
  have reversed : ∀ c ∈ trail.reverse, isBlank c = true := fun c member =>
    blank c (List.mem_reverse.1 member)
  rw [trimEnd, trimEnd, List.reverse_append, List.dropWhile_append_of_pos reversed]

theorem trimEnd_cons {c : Char} (visible : isBlank c = false) (text : List Char) :
    trimEnd (c :: text) = c :: trimEnd text := by
  rw [trimEnd, trimEnd, List.reverse_cons, List.dropWhile_append]
  split
  · next none_ =>
    rw [List.isEmpty_iff.1 none_, List.dropWhile_cons_of_neg (by simp [visible])]
    rfl
  · rw [List.reverse_append]
    rfl

/-- A text that begins with no space keeps its first character. -/
theorem trim_cons {c : Char} (visible : isBlank c = false) (text : List Char) :
    trim (c :: text) = c :: trimEnd text := by
  rw [trim, trimStart_cons visible, trimEnd_cons visible]

theorem trimStart_eq_nil (blank : AllBlank text) : trimStart text = [] := by
  have nothing := trimStart_append blank []
  rwa [List.append_nil] at nothing

/-- **Trimming undoes adding space on both sides.** -/
theorem trim_surround (blank : AllBlank lead) (text : List Char) (blank' : AllBlank trail) :
    trim (lead ++ (text ++ trail)) = trim text := by
  rw [trim, trimStart_append blank, trim, trimStart, List.dropWhile_append, ← trimStart]
  cases left : trimStart text with
  | nil =>
    rw [List.isEmpty_nil, if_pos rfl, ← trimStart, trimStart_eq_nil blank']
  | cons first rest =>
    rw [List.isEmpty_cons, if_neg Bool.false_ne_true]
    exact trimEnd_append _ blank'

theorem trim_append (blank : AllBlank lead) (text : List Char) :
    trim (lead ++ text) = trim text := by
  rw [trim, trimStart_append blank, trim]

theorem trim_append_blank (text : List Char) (blank : AllBlank trail) :
    trim (text ++ trail) = trim text := trim_surround (List.forall_mem_nil _) text blank

/-- Whatever stands between two texts without space at their ends. -/
theorem bare_append {left right : List Char} (bare : Bare left) (some_ : left ≠ [])
    (bare' : Bare right) (some' : right ≠ []) (inner : List Char) :
    Bare (left ++ (inner ++ right)) := by
  refine ⟨fun c first => bare.1 c ?_, fun c last => bare'.2 c ?_⟩
  · obtain ⟨d, text, rfl⟩ := List.exists_cons_of_ne_nil some_
    exact first
  · rw [List.getLast?_append, List.getLast?_append, List.getLast?_eq_some_getLast some'] at last
    rw [List.getLast?_eq_some_getLast some']
    exact last

/-! ## What is taken off -/

variable {c : Char}

/-- What is taken off the end is blank. -/
theorem exists_trimEnd (text : List Char) :
    ∃ trail, AllBlank trail ∧ text = trimEnd text ++ trail := by
  obtain ⟨lead, blank, split⟩ := exists_trimStart text.reverse
  refine ⟨lead.reverse, fun c member => blank c (List.mem_reverse.1 member), ?_⟩
  rw [trimEnd, ← trimStart, ← List.reverse_append, ← split, List.reverse_reverse]

@[simp] theorem trim_trimStart (text : List Char) : trim (trimStart text) = trim text := by
  obtain ⟨lead, blank, split⟩ := exists_trimStart text
  rw [← trim_append blank, ← split]

@[simp] theorem trim_trimEnd (text : List Char) : trim (trimEnd text) = trim text := by
  obtain ⟨trail, blank, split⟩ := exists_trimEnd text
  rw [← trim_append_blank _ blank, ← split]

/-- What is taken off both ends is blank. -/
theorem exists_trim (text : List Char) :
    ∃ lead trail, AllBlank lead ∧ AllBlank trail ∧ text = lead ++ (trim text ++ trail) := by
  obtain ⟨lead, blank, split⟩ := exists_trimStart text
  obtain ⟨trail, blank', split'⟩ := exists_trimEnd (trimStart text)
  exact ⟨lead, trail, blank, blank', by rw [trim, ← split', ← split]⟩

theorem trim_eq_nil_iff : trim text = [] ↔ AllBlank text := by
  constructor
  · intro nothing
    obtain ⟨lead, trail, blank, blank', split⟩ := exists_trim text
    rw [split, nothing, List.nil_append]
    exact List.forall_mem_append.2 ⟨blank, blank'⟩
  · intro blank
    rw [trim, trimStart_eq_nil blank]
    rfl

theorem trimStart_append_cons (visible : isBlank c = false) (left right : List Char) :
    trimStart (left ++ c :: right) = trimStart left ++ c :: right := by
  simp only [trimStart, List.dropWhile_append]
  split
  · next none_ => simp [List.isEmpty_iff.1 none_, visible]
  · rfl

theorem trimEnd_append_cons (visible : isBlank c = false) (left right : List Char) :
    trimEnd (left ++ c :: right) = left ++ c :: trimEnd right := by
  have mirrored := trimStart_append_cons visible right.reverse left.reverse
  have reversed : (left ++ c :: right).reverse = right.reverse ++ c :: left.reverse := by simp
  rw [trimEnd, ← trimStart, reversed, mirrored]
  simp [trimEnd, trimStart]

/-- **Trimming goes as far as the first and the last character that is not blank.** -/
theorem trim_append_cons (visible : isBlank c = false) (left right : List Char) :
    trim (left ++ c :: right) = trimStart left ++ c :: trimEnd right := by
  rw [trim, trimStart_append_cons visible, trimEnd_append_cons visible]

end BuildManifest.Text
