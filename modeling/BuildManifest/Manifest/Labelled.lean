/-!
# Labelled values

Values under distinct labels, in the order of the labels.  Patches have labels, and so have the
defaults of a manifest and the requirements of a package.

## What is here

* `Labelled` — the entries together with the fact that their labels increase.
* `get?`, `insert`, `insertNew`, `ofList`, `labels` — look-up, insertion with and without
  replacement, and the labels alone.
* `get?_insert`, `mem_entries_iff` — what is found after an insertion, and that the entries are
  what is found.
* `Names` — sets of names, as labels without values.
-/

set_option autoImplicit false

namespace BuildManifest

/-- Values under labels that increase. -/
structure Labelled (α : Type) where
  /-- The labels and their values. -/
  entries : List (String × α) := []
  /-- The labels increase. -/
  increasing : entries.Pairwise fun a b => a.1 < b.1 := by exact List.Pairwise.nil

namespace Labelled

variable {α β : Type}

/-- No entries. -/
def empty : Labelled α := {}

instance : Inhabited (Labelled α) := ⟨empty⟩

instance [Repr α] : Repr (Labelled α) := ⟨fun labelled => reprPrec labelled.entries⟩

instance [DecidableEq α] : DecidableEq (Labelled α) := fun a b =>
  decidable_of_iff (a.entries = b.entries) <| by
    cases a; cases b; simp

/-- The value of a label among entries. -/
def findEntry : List (String × α) → String → Option α
  | [], _ => none
  | (present, value) :: rest, label => if present = label then some value else findEntry rest label

/-- The value of a label. -/
def get? (labelled : Labelled α) (label : String) : Option α := findEntry labelled.entries label

/-- Whether a label has a value. -/
def contains (labelled : Labelled α) (label : String) : Bool := (labelled.get? label).isSome

/-- The labels in order. -/
def labels (labelled : Labelled α) : List String := labelled.entries.map (·.1)

/-- Whether there are no entries. -/
def isEmpty (labelled : Labelled α) : Bool := labelled.entries.isEmpty

/-- Put an entry at its place among increasing labels, instead of the one of the same label. -/
def place (label : String) (value : α) : List (String × α) → List (String × α)
  | [] => [(label, value)]
  | (present, old) :: rest =>
    if label < present then (label, value) :: (present, old) :: rest
    else if label = present then (label, value) :: rest
    else (present, old) :: place label value rest

theorem mem_place {label : String} {value : α} {entry : String × α} {entries : List (String × α)}
    (h : entry ∈ place label value entries) : entry = (label, value) ∨ entry ∈ entries := by
  induction entries with
  | nil => simpa [place] using h
  | cons first rest ih =>
    obtain ⟨present, old⟩ := first
    simp only [place] at h
    split at h
    · simpa using h
    · split at h
      · rcases List.mem_cons.1 h with h | h
        · exact Or.inl h
        · exact Or.inr (List.mem_cons_of_mem _ h)
      · rcases List.mem_cons.1 h with h | h
        · exact Or.inr (h ▸ List.mem_cons_self)
        · exact (ih h).imp id (List.mem_cons_of_mem _)

/-- Placing keeps the labels increasing. -/
theorem increasing_place {label : String} {value : α} {entries : List (String × α)}
    (h : entries.Pairwise fun a b => a.1 < b.1) :
    (place label value entries).Pairwise fun a b => a.1 < b.1 := by
  induction entries with
  | nil => simp [place]
  | cons first rest ih =>
    obtain ⟨present, old⟩ := first
    obtain ⟨before, increasing⟩ := List.pairwise_cons.1 h
    simp only [place]
    split
    · next less =>
      refine List.pairwise_cons.2 ⟨fun entry member => ?_, h⟩
      rcases List.mem_cons.1 member with rfl | member
      · exact less
      · exact String.lt_trans less (before _ member)
    · next notLess =>
      split
      · next same =>
        exact List.pairwise_cons.2 ⟨fun entry member => same ▸ before _ member, increasing⟩
      · next different =>
        refine List.pairwise_cons.2 ⟨fun entry member => ?_, ih increasing⟩
        rcases mem_place member with rfl | member
        · exact String.not_le.1 fun le =>
            different (String.le_antisymm le (String.not_lt.1 notLess))
        · exact before _ member

/-- Give a label a value, in place of the one it may have. -/
def insert (labelled : Labelled α) (label : String) (value : α) : Labelled α :=
  ⟨place label value labelled.entries, increasing_place labelled.increasing⟩

/-- Give a label a value unless it has one. -/
def insertNew (labelled : Labelled α) (label : String) (value : α) : Labelled α :=
  if labelled.contains label then labelled else labelled.insert label value

/-- The entries of a list; of equal labels the last one counts. -/
def ofList (entries : List (String × α)) : Labelled α :=
  entries.foldl (fun done entry => done.insert entry.1 entry.2) empty

/-- Everything of `own`, and of `defaults` what has a label of its own. -/
def fill (own defaults : Labelled α) : Labelled α :=
  defaults.entries.foldl (fun done entry => done.insertNew entry.1 entry.2) own

/-! ## Looking up what was inserted -/

theorem findEntry_place (label wanted : String) (value : α) (entries : List (String × α)) :
    findEntry (place label value entries) wanted =
      if label = wanted then some value else findEntry entries wanted := by
  induction entries with
  | nil => rfl
  | cons first rest ih =>
    obtain ⟨present, old⟩ := first
    simp only [place]
    split
    · rfl
    · split
      · next same => subst same; simp only [findEntry]; split <;> rfl
      · next different =>
        simp only [findEntry, ih]
        by_cases here : present = wanted
        · rw [if_pos here, if_neg fun eq => different (eq.trans here.symm), if_pos here]
        · rw [if_neg here, if_neg here]

/-- **Insertion sets its label and no other.** -/
theorem get?_insert (labelled : Labelled α) (label wanted : String) (value : α) :
    (labelled.insert label value).get? wanted =
      if label = wanted then some value else labelled.get? wanted :=
  findEntry_place label wanted value labelled.entries

/-! ## Entries and look-up -/

theorem findEntry_eq_none {label : String} {entries : List (String × α)}
    (ne : ∀ entry ∈ entries, entry.1 ≠ label) : findEntry entries label = none := by
  induction entries with
  | nil => rfl
  | cons first rest ih =>
    obtain ⟨here, later⟩ := List.forall_mem_cons.1 ne
    rw [findEntry, if_neg here, ih later]

theorem mem_of_get? {labelled : Labelled α} {label : String} {value : α}
    (found : labelled.get? label = some value) : (label, value) ∈ labelled.entries := by
  rw [get?] at found
  generalize labelled.entries = entries at found ⊢
  induction entries with
  | nil => cases found
  | cons first rest ih =>
    obtain ⟨present, old⟩ := first
    rw [findEntry] at found
    split at found
    · next here =>
      cases found
      exact here ▸ List.mem_cons_self
    · exact List.mem_cons_of_mem _ (ih found)

/-- **The entries are what is found.** -/
theorem mem_entries_iff {labelled : Labelled α} {label : String} {value : α} :
    (label, value) ∈ labelled.entries ↔ labelled.get? label = some value := by
  refine ⟨fun member => ?_, mem_of_get?⟩
  obtain ⟨entries, increasing⟩ := labelled
  simp only [get?] at member ⊢
  induction entries with
  | nil => cases member
  | cons first rest ih =>
    obtain ⟨present, old⟩ := first
    obtain ⟨before, increasing⟩ := List.pairwise_cons.1 increasing
    rw [findEntry]
    rcases List.mem_cons.1 member with here | later
    · obtain ⟨rfl, rfl⟩ := Prod.mk.inj here
      exact if_pos rfl
    · rw [if_neg (String.ne_of_lt (before _ later))]
      exact ih increasing later

theorem mem_labels_iff {labelled : Labelled α} {label : String} :
    label ∈ labelled.labels ↔ (labelled.get? label).isSome = true := by
  rw [Option.isSome_iff_exists, labels, List.mem_map]
  constructor
  · rintro ⟨entry, member, rfl⟩
    exact ⟨entry.2, mem_entries_iff.1 member⟩
  · rintro ⟨value, found⟩
    exact ⟨_, mem_of_get? found, rfl⟩

/-- No label stands twice. -/
theorem nodup_labels (labelled : Labelled α) : labelled.labels.Nodup := by
  rw [labels, List.Nodup, List.pairwise_map]
  exact labelled.increasing.imp String.ne_of_lt

end Labelled

/-- A set of names in their order. -/
abbrev Names := Labelled Unit

/-- The set of the given names. -/
def Names.ofNames (names : List String) : Names :=
  Labelled.ofList (names.map fun name => (name, ()))

end BuildManifest
