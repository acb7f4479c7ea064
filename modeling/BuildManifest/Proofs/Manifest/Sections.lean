import BuildManifest.Manifest.OfTree
import BuildManifest.Proofs.Tree.Settled
import Mathlib.Data.List.Pairwise

/-!
# Reading sections

A section is written as a list of names or as a mapping from names.  Normalizing it gives its
canonical shape, provided that it can be read at all, and what is then read for a name is read
from the attributes of that name alone.

## What is here

* `PlainSection` — a section as authors write it.
* `get?_of_ofTree` — **what is read for a name**.
* `settled_of_plain` — **a plain section that can be read has its canonical shape once it is
  normalized**.
-/

set_option autoImplicit false

namespace BuildManifest

open Mapping (Distinct)

variable {entries : Mapping} {kind : SectionKind} {name : String} {key value : Tree}

/-! ## What is read for a name -/

theorem readEntry_name (plain : Text.isDigits name.toList = false) {one : String × Entry}
    (h : Section.readEntry (.string name) value = .ok one) : one.1 = name := by
  rw [Section.readEntry.eq_def] at h
  split at h
  · split at h
    · cases h
      rfl
    · cases h
  · cases h
    rfl
  · split at h
    · cases h
    · rw [Tree.isIndexKey, plain] at h
      cases h
      rfl

theorem readEntries_cons {rest : Mapping} {list : List (String × Entry)}
    (h : Section.readEntries kind ((key, value) :: rest) = .ok list) :
    ∃ one others, Section.readEntry key value = .ok one ∧
      Section.readEntries kind rest = .ok others ∧ list = one :: others := by
  rw [Section.readEntries] at h
  split at h
  · cases h
  · next one read =>
    obtain ⟨others, readRest, rfl⟩ := map_eq_ok_iff.1 h
    exact ⟨one, others, read, readRest, rfl⟩

/-- Every entry is read. -/
theorem exists_mem_of_readEntries {list : List (String × Entry)} {entry : Tree × Tree}
    (h : Section.readEntries kind entries = .ok list) (member : entry ∈ entries) :
    ∃ one ∈ list, Section.readEntry entry.1 entry.2 = .ok one := by
  induction entries generalizing list with
  | nil => exact nomatch member
  | cons first rest ih =>
    obtain ⟨key, value⟩ := first
    obtain ⟨one, others, read, readRest, rfl⟩ := readEntries_cons h
    rcases List.mem_cons.1 member with rfl | later
    · exact ⟨one, List.mem_cons_self, read⟩
    · obtain ⟨other, inside, read⟩ := ih readRest later
      exact ⟨other, List.mem_cons_of_mem _ inside, read⟩

/-- Everything that is read is read from an entry. -/
theorem exists_entry_of_readEntries {list : List (String × Entry)}
    (h : Section.readEntries kind entries = .ok list) {one : String × Entry}
    (member : one ∈ list) :
    ∃ entry ∈ entries, Section.readEntry entry.1 entry.2 = .ok one := by
  induction entries generalizing list with
  | nil =>
    cases h
    exact nomatch member
  | cons first rest ih =>
    obtain ⟨key, value⟩ := first
    obtain ⟨here, others, read, readRest, rfl⟩ := readEntries_cons h
    rcases List.mem_cons.1 member with rfl | later
    · exact ⟨_, List.mem_cons_self, read⟩
    · obtain ⟨entry, inside, read⟩ := ih readRest later
      exact ⟨entry, List.mem_cons_of_mem _ inside, read⟩

/-- Where entries are named, what is read for a name is read from the first entry of that name. -/
theorem findEntry_of_readEntries {list : List (String × Entry)}
    (names : ∀ key ∈ Mapping.keys entries, ∃ name, key = .string name ∧
      Text.isDigits name.toList = false)
    (h : Section.readEntries kind entries = .ok list) (name : String) :
    (Mapping.get? entries name = none ∧ Section.findEntry list name = none) ∨
    ∃ value entry, Mapping.get? entries name = some value ∧
      Section.findEntry list name = some entry ∧
      Section.readEntry (.string name) value = .ok (name, entry) := by
  induction entries generalizing list with
  | nil =>
    cases h
    exact .inl ⟨rfl, rfl⟩
  | cons first rest ih =>
    obtain ⟨key, value⟩ := first
    obtain ⟨given, rfl, plain⟩ := names key List.mem_cons_self
    obtain ⟨one, others, read, readRest, rfl⟩ := readEntries_cons h
    obtain ⟨present, entry⟩ := one
    obtain rfl : present = given := readEntry_name plain read
    rw [Mapping.get?, Mapping.find?_cons, Section.findEntry]
    by_cases here : present = name
    · subst here
      rw [if_pos ((Tree.same_iff_of_textual (Tree.textual_string present)).2 rfl), if_pos rfl]
      exact .inr ⟨value, entry, rfl, rfl, read⟩
    · have apart : ¬(Tree.string name).same (.string present) = true := fun same =>
        here (Tree.string.inj
          ((Tree.same_iff_of_textual (Tree.textual_string name)).1 same)).symm
      rw [if_neg apart, if_neg here]
      exact ih (fun key member => names key (List.mem_cons_of_mem _ member)) readRest

theorem ofMapping_of_readEntry {attributes : Mapping} {one : String × Entry}
    (h : Section.readEntry key (.mapping attributes) = .ok one) :
    Entry.ofMapping attributes = .ok one.2 := by
  rw [Section.readEntry] at h
  split at h
  · next entry read =>
    cases h
    exact read
  · cases h

/-- **What is read for a name** is read from the attributes that the section gives to it. -/
theorem get?_of_ofTree {value : Option Tree} (settled : Settled value) {result : Section}
    (h : Section.ofTree kind (value.getD .null) = .ok result) (name : String) :
    (entryOf value name = none ∧ result.get? name = none) ∨
    ∃ attributes entry, entryOf value name = some attributes ∧
      result.get? name = some entry ∧ Entry.ofMapping attributes = .ok entry := by
  cases settled with
  | absent =>
    cases h
    exact .inl ⟨rfl, rfl⟩
  | null =>
    cases h
    exact .inl ⟨rfl, rfl⟩
  | entries settled =>
    obtain ⟨list, read, rfl⟩ := map_eq_ok_iff.1 h
    rcases findEntry_of_readEntries settled.names read name with
      ⟨none_, absent⟩ | ⟨value, entry, some_, found, read⟩
    · refine .inl ⟨?_, absent⟩
      rw [entryOf, attributesOf, Option.bind_some, none_]
      rfl
    · rcases settled.get? name with none_ | ⟨attributes, eq, -⟩
      · rw [none_] at some_
        cases some_
      · rw [eq] at some_
        cases some_
        refine .inr ⟨attributes, entry, ?_, found, ofMapping_of_readEntry read⟩
        rw [entryOf, attributesOf, Option.bind_some, eq]
        rfl

/-! ## Sections as they are written -/

/-- The name that an entry is written with: its key, or the item under an index. -/
def writtenName? : Tree × Tree → Option String
  | (.string name, _) => some name
  | (.number (.int _), .string name) => some name
  | _ => none

/-- Entries as authors write them: every one has a name, which is no index, and no two of them
have the same. -/
structure PlainEntries (entries : Mapping) : Prop where
  /-- Every entry has a name that is no index. -/
  named : ∀ entry ∈ entries, ∃ name, writtenName? entry = some name ∧
    Text.isDigits name.toList = false
  /-- No two entries have the same name. -/
  distinct : entries.Pairwise fun a b => writtenName? a ≠ writtenName? b

instance (entries : Mapping) : Decidable (PlainEntries entries) :=
  decidable_of_iff
    ((∀ entry ∈ entries, ∃ name ∈ writtenName? entry, Text.isDigits name.toList = false) ∧
      entries.Pairwise fun a b => writtenName? a ≠ writtenName? b)
    ⟨fun h => ⟨h.1, h.2⟩, fun h => ⟨h.named, h.distinct⟩⟩

/-- What a section may be written as: nothing, or entries as authors write them. -/
def PlainShape : Tree → Prop
  | .null => True
  | .mapping entries => PlainEntries entries
  | _ => False

instance : (shape : Tree) → Decidable (PlainShape shape)
  | .null => inferInstanceAs (Decidable True)
  | .mapping entries => inferInstanceAs (Decidable (PlainEntries entries))
  | .bool _ => inferInstanceAs (Decidable False)
  | .number _ => inferInstanceAs (Decidable False)
  | .string _ => inferInstanceAs (Decidable False)
  | .sequence _ => inferInstanceAs (Decidable False)
  | .tagged _ _ => inferInstanceAs (Decidable False)

/-- A section as authors write it: none, a list of names, or a mapping from names. -/
def PlainSection : Option Tree → Prop
  | none => True
  | some value => PlainShape value.indexed

instance : (value : Option Tree) → Decidable (PlainSection value)
  | none => inferInstanceAs (Decidable True)
  | some value => inferInstanceAs (Decidable (PlainShape value.indexed))

/-- A section under construction: its keys are names, and its values are written out. -/
structure Written (entries : Mapping) : Prop where
  /-- The keys are names. -/
  names : ∀ key ∈ Mapping.keys entries, ∃ name, key = .string name ∧
    Text.isDigits name.toList = false
  /-- The values are written out. -/
  values : ∀ entry ∈ entries, ∃ value, entry.2 = Tree.expandEntry value

theorem written_insert (written : Written entries) (plain : Text.isDigits name.toList = false)
    (value : Tree) :
    Written (Mapping.insert entries (.string name) (Tree.expandEntry value)) := by
  refine ⟨fun key member => ?_, fun entry member => ?_⟩
  · rcases Mapping.mem_keys_insert member with old | rfl
    · exact written.names key old
    · exact ⟨name, rfl, plain⟩
  · rcases Mapping.value_of_mem_insert member with old | eq
    · exact written.values entry old
    · exact ⟨value, eq⟩

/-- One plain entry, whose name has not come up before, is written out under its name. -/
theorem written_add {declared : List String} {draft : Tree.SectionDraft} {entry : Tree × Tree}
    (written : Written draft.entries) (named : writtenName? entry = some name)
    (plain : Text.isDigits name.toList = false) (fresh : name ∉ draft.emitted)
    (undeclared : Tree.isIndexKey entry.1 = true → name ∉ declared) :
    Written (Tree.SectionDraft.add declared draft entry).entries ∧
      (Tree.SectionDraft.add declared draft entry).emitted = name :: draft.emitted := by
  obtain ⟨key, value⟩ := entry
  rw [writtenName?.eq_def] at named
  split at named
  · next given value eq =>
    cases eq
    cases named
    rw [Tree.SectionDraft.add]
    simp only [Tree.isIndexKey, plain, Bool.false_eq_true, if_false]
    exact ⟨written_insert written plain value, rfl⟩
  · next index given eq =>
    cases eq
    cases named
    have apart : (declared.contains name || draft.emitted.contains name) = false := by
      simp [undeclared rfl, fresh]
    rw [Tree.SectionDraft.add]
    simp only [Tree.isIndexKey, Tree.text?, Tree.untagged, if_true, apart, Bool.false_eq_true,
      if_false]
    exact ⟨written_insert written plain .null, trivial⟩
  · cases named

theorem written_foldl_add {declared : List String} {draft : Tree.SectionDraft}
    (written : Written draft.entries) (plain : PlainEntries entries)
    (fresh : ∀ entry ∈ entries, ∀ name, writtenName? entry = some name → name ∉ draft.emitted)
    (undeclared : ∀ entry ∈ entries, ∀ name, writtenName? entry = some name →
      Tree.isIndexKey entry.1 = true → name ∉ declared) :
    Written (entries.foldl (Tree.SectionDraft.add declared) draft).entries := by
  induction entries generalizing draft with
  | nil => exact written
  | cons first rest ih =>
    obtain ⟨name, named, digits⟩ := plain.named first List.mem_cons_self
    obtain ⟨apart, distinct⟩ := List.pairwise_cons.1 plain.distinct
    obtain ⟨written', emitted⟩ := written_add written named digits
      (fresh first List.mem_cons_self name named) (undeclared first List.mem_cons_self name named)
    refine ih written'
      ⟨fun entry member => plain.named entry (List.mem_cons_of_mem _ member), distinct⟩ ?_
      fun entry member => undeclared entry (List.mem_cons_of_mem _ member)
    intro entry member other given
    rw [emitted, List.mem_cons, not_or]
    refine ⟨?_, fresh entry (List.mem_cons_of_mem _ member) other given⟩
    rintro rfl
    exact apart entry member (named.trans given.symm)

/-- An item of a list has a name that is not declared as a key. -/
theorem not_declared (plain : PlainEntries entries) {entry : Tree × Tree} (member : entry ∈ entries)
    (named : writtenName? entry = some name) (index : Tree.isIndexKey entry.1 = true) :
    name ∉ Tree.declaredNames entries := by
  intro declared
  rw [Tree.declaredNames, List.mem_map] at declared
  obtain ⟨key, kept, eq⟩ := declared
  obtain ⟨inside, notIndex⟩ := List.mem_filter.1 kept
  obtain ⟨other, member', rfl⟩ := List.mem_map.1 inside
  have ne : entry ≠ other := by
    rintro rfl
    rw [index] at notIndex
    cases notIndex
  have symmetric : Std.Symm fun a b => writtenName? a ≠ writtenName? b := ⟨fun _ _ => Ne.symm⟩
  refine plain.distinct.forall member member' ne ?_
  obtain ⟨given, named', digits⟩ := plain.named other member'
  rw [named, named']
  rw [writtenName?.eq_def] at named'
  split at named'
  · cases named'
    exact congrArg some eq.symm
  · cases notIndex
  · cases named'

theorem written_normalizeSection (plain : PlainEntries entries) :
    Written (entries.foldl (Tree.SectionDraft.add (Tree.declaredNames entries)) {}).entries := by
  have empty : Written [] := ⟨fun _ member => (nomatch member), fun _ member => nomatch member⟩
  refine written_foldl_add empty plain (fun _ _ _ _ member => nomatch member) ?_
  intro entry member name named index
  exact not_declared plain member named index

/-- An entry that is written out and can be read has attributes, each at most once. -/
theorem keysOnce_of_readEntry {one : String × Entry}
    (h : Section.readEntry key (Tree.expandEntry value) = .ok one) :
    ∃ attributes, Tree.expandEntry value = .mapping attributes ∧ KeysOnce attributes := by
  have attributes (given : Mapping) (eq : Tree.expandEntry value = .mapping given) :
      ∃ attributes, Tree.expandEntry value = .mapping attributes ∧ KeysOnce attributes := by
    rw [eq] at h
    refine ⟨given, eq, fun one text key names => ?_⟩
    refine (Entry.pairwise_of_ofMapping text (ofMapping_of_readEntry h)).imp ?_
    rintro a b apart ⟨here, there⟩
    exact apart ⟨here ▸ names, there ▸ names⟩
  cases value with
  | mapping given => exact attributes _ rfl
  | null => exact attributes _ rfl
  | bool given => exact attributes _ rfl
  | number given => exact attributes _ rfl
  | string given => exact attributes _ rfl
  | sequence items => cases h
  | tagged tag content => cases h

theorem readEntry_of_mem {list : List (String × Entry)}
    (h : Section.readEntries kind entries = .ok list) {entry : Tree × Tree}
    (member : entry ∈ entries) : ∃ one, Section.readEntry entry.1 entry.2 = .ok one := by
  induction entries generalizing list with
  | nil => exact nomatch member
  | cons first rest ih =>
    obtain ⟨key, value⟩ := first
    obtain ⟨one, others, read, readRest, -⟩ := readEntries_cons h
    rcases List.mem_cons.1 member with rfl | later
    · exact ⟨one, read⟩
    · exact ih readRest later

/-- **A plain section that can be read** has its canonical shape once it is normalized. -/
theorem settled_of_plain {value : Option Tree} (plain : PlainSection value) {result : Section}
    (h : Section.ofTree kind ((value.map Tree.normalizeSection).getD .null) = .ok result) :
    Settled (value.map Tree.normalizeSection) := by
  cases value with
  | none => exact .absent
  | some tree =>
    rw [PlainSection] at plain
    rw [Option.map_some, Option.getD_some] at h
    rw [Option.map_some]
    rw [Tree.normalizeSection] at h ⊢
    generalize tree.indexed = shape at plain h
    cases shape with
    | null => exact .null
    | mapping entries =>
      obtain ⟨list, read, rfl⟩ := map_eq_ok_iff.1 h
      have written := written_normalizeSection plain
      refine .entries ⟨written.names, fun entry member => ?_,
        distinct_foldl_add _ _ _ Mapping.distinct_nil⟩
      obtain ⟨given, eq⟩ := written.values entry member
      obtain ⟨one, readOne⟩ := readEntry_of_mem read member
      rw [eq] at readOne ⊢
      exact keysOnce_of_readEntry readOne
    | _ => exact plain.elim

end BuildManifest
