import BuildManifest.Proofs.Location.Path
import BuildManifest.Proofs.Manifest.Rereading
import BuildManifest.Proofs.Text.Trimming
import BuildManifest.Resolve.Policy

/-!
# Policies as texts

A policy is shown as the text that it can be set with.  The keys of a list come back from their
text: they have no space at their ends and no commas, and the text has them in the order of the set.
Only the two keywords get in the way.  The list `all,` has one key, which is `all`, and the text of
the list is the word for all keys.

## What is here

* `Text.splitAt_intercalate` — pieces come back from a text with separators between them.
* `Names.mem_labels_ofNames`, `Names.ofNames_labels` — the names of a set, and the set of them.
* `IsItem`, `listed_intercalate` — what an item of a list looks like, and **lists of items come
  back**.
* `IsLoneKeyword`, `reread_iff` — **which policies come back from their texts**.
-/

set_option autoImplicit false

namespace BuildManifest

/-! ## Pieces of a text -/

namespace Text

variable {separator : Char} {piece text : List Char} {pieces : List (List Char)}

/-- No piece has a separator in it. -/
theorem not_mem_of_mem_splitAt (member : piece ∈ splitAt separator text) : separator ∉ piece := by
  induction text generalizing piece with
  | nil =>
    rw [splitAt, List.mem_singleton] at member
    exact member ▸ List.not_mem_nil
  | cons c rest ih =>
    rw [splitAt] at member
    split at member
    · rcases List.mem_cons.1 member with rfl | later
      · exact List.not_mem_nil
      · exact ih later
    · next other =>
      cases pieces : splitAt separator rest with
      | nil => exact absurd pieces (splitAt_ne_nil separator rest)
      | cons first others =>
        rw [pieces] at member
        rcases List.mem_cons.1 member with rfl | later
        · rw [List.mem_cons, not_or]
          exact ⟨Ne.symm other, ih (pieces ▸ List.mem_cons_self)⟩
        · exact ih (pieces ▸ List.mem_cons_of_mem _ later)

/-- **Pieces come back** from a text with separators between them. -/
theorem splitAt_intercalate (some_ : pieces ≠ []) (free : ∀ piece ∈ pieces, separator ∉ piece) :
    splitAt separator ([separator].intercalate pieces) = pieces := by
  induction pieces with
  | nil => exact absurd rfl some_
  | cons first rest ih =>
    obtain ⟨here, later⟩ := List.forall_mem_cons.1 free
    cases rest with
    | nil => rw [List.intercalate_singleton, splitAt_of_not_mem here]
    | cons next rest =>
      rw [List.intercalate_cons_cons, List.append_assoc, List.singleton_append, splitAt_append,
        splitAt_of_not_mem here, ih (List.cons_ne_nil _ _) later, List.singleton_append]

/-- There is no space at the ends of a text if there is none at the ends of its pieces. -/
theorem bare_intercalate (bare : ∀ piece ∈ pieces, piece ≠ [] ∧ Bare piece) (between : List Char) :
    Bare (between.intercalate pieces) := by
  induction pieces with
  | nil => exact ⟨nofun, nofun⟩
  | cons first rest ih =>
    obtain ⟨⟨some_, here⟩, later⟩ := List.forall_mem_cons.1 bare
    cases rest with
    | nil => exact List.intercalate_singleton ▸ here
    | cons next rest =>
      have more : between.intercalate (next :: rest) ≠ [] := by
        have next_ := (later next List.mem_cons_self).1
        cases rest with
        | nil => rwa [List.intercalate_singleton]
        | cons _ _ =>
          rw [List.intercalate_cons_cons, List.append_assoc]
          exact List.append_ne_nil_of_left_ne_nil next_ _
      rw [List.intercalate_cons_cons, List.append_assoc]
      exact bare_append here some_ (ih later) more between

end Text

/-! ## Sets of names -/

namespace Names

theorem mem_labels_insert {names : Names} {name wanted : String} :
    wanted ∈ (names.insert name ()).labels ↔ wanted = name ∨ wanted ∈ names.labels := by
  rw [Labelled.mem_labels_iff, Labelled.get?_insert, Labelled.mem_labels_iff]
  by_cases same : name = wanted
  · simp [same]
  · simp [same, Ne.symm same]

/-- **The names of a set** are those it was made of. -/
theorem mem_labels_ofNames {list : List String} {name : String} :
    name ∈ (ofNames list).labels ↔ name ∈ list := by
  have go (done : Names) :
      name ∈ ((list.map fun name => (name, ())).foldl
        (fun done entry => done.insert entry.1 entry.2) done).labels ↔
        name ∈ done.labels ∨ name ∈ list := by
    induction list generalizing done with
    | nil => simp
    | cons first rest ih =>
      rw [List.map_cons, List.foldl_cons, ih, mem_labels_insert, List.mem_cons, or_assoc,
        or_left_comm]
  exact (go .empty).trans (or_iff_right (List.not_mem_nil))

/-- A set is made of its names. -/
theorem ofNames_labels (names : Names) : ofNames names.labels = names := by
  have entries : names.labels.map (fun name => (name, ())) = names.entries := by
    rw [Labelled.labels, List.map_map]
    exact List.map_id _
  rw [ofNames, entries, Labelled.ofList_entries]

end Names

namespace OverridePolicy

variable {policy : OverridePolicy} {given item : String} {items : List String} {keys : Names}

/-! ## Items of lists -/

/-- What an item of a list looks like: it is not empty, has no space at its ends, and no comma. -/
structure IsItem (item : String) : Prop where
  /-- There is something. -/
  some_ : item.toList ≠ []
  /-- No space is around it. -/
  bare : Text.Bare item.toList
  /-- It does not end the item. -/
  free : ',' ∉ item.toList

theorem isItem_of_mem_listed {text : List Char} (member : item ∈ listed text) : IsItem item := by
  obtain ⟨inside, some_⟩ := List.mem_filter.1 member
  obtain ⟨piece, one, rfl⟩ := List.mem_map.1 inside
  refine ⟨?_, ?_, ?_⟩
  · intro nothing
    rw [String.toList_eq_nil_iff] at nothing
    simp [nothing] at some_
  · rw [String.toList_ofList]
    exact Text.bare_trim piece
  · rw [String.toList_ofList]
    obtain ⟨lead, trail, -, -, split⟩ := Text.exists_trim piece
    intro comma
    refine Text.not_mem_of_mem_splitAt one ?_
    rw [split]
    exact List.mem_append_right _ (List.mem_append_left _ comma)

/-- The text of a list. -/
theorem toList_intercalate (items : List String) :
    (String.intercalate "," items).toList = [','].intercalate (items.map String.toList) :=
  String.toList_intercalate

/-- **Lists of items come back** from their text. -/
theorem listed_intercalate (some_ : items ≠ []) (good : ∀ item ∈ items, IsItem item) :
    listed (String.intercalate "," items).toList = items := by
  have free : ∀ piece ∈ items.map String.toList, ',' ∉ piece :=
    List.forall_mem_map.2 fun item member => (good item member).free
  rw [toList_intercalate, listed,
    Text.splitAt_intercalate (mt List.map_eq_nil_iff.1 some_) free, List.map_map]
  have kept : items.map ((fun piece => String.ofList (Text.trim piece)) ∘ String.toList) =
      items := by
    refine (List.map_congr_left fun item member => ?_).trans (List.map_id items)
    rw [Function.comp, Text.trim_eq_self (good item member).bare, String.ofList_toList, id]
  rw [kept, List.filter_eq_self]
  intro item member
  have := (good item member).some_
  simpa [String.toList_eq_nil_iff] using this

theorem trimmed_intercalate (good : ∀ item ∈ items, IsItem item) :
    Text.trimmed (String.intercalate "," items) = String.intercalate "," items := by
  have bare : ∀ piece ∈ items.map String.toList, piece ≠ [] ∧ Text.Bare piece :=
    List.forall_mem_map.2 fun item member => ⟨(good item member).some_, (good item member).bare⟩
  rw [Text.trimmed, Text.trim_eq_self, String.ofList_toList]
  rw [toList_intercalate]
  exact Text.bare_intercalate bare _

/-- A text without commas is the text of a list only if it is its one item. -/
theorem intercalate_eq_iff {word : String} (some_ : items ≠ []) (good : ∀ item ∈ items, IsItem item)
    (one : IsItem word) : String.intercalate "," items = word ↔ items = [word] := by
  constructor
  · intro eq
    have read := listed_intercalate some_ good
    have alone : listed (String.intercalate "," [word]).toList = [word] :=
      listed_intercalate (List.cons_ne_nil _ _)
        fun item member => List.mem_singleton.1 member ▸ one
    rw [String.intercalate_singleton] at alone
    rw [← read, eq, alone]
  · rintro rfl
    exact String.intercalate_singleton

/-! ## Policies -/

/-- The lists whose text is a keyword. -/
def IsLoneKeyword (policy : OverridePolicy) : Prop :=
  policy = .only (.ofNames ["all"]) ∨ policy = .only (.ofNames ["none"])

instance (policy : OverridePolicy) : Decidable policy.IsLoneKeyword :=
  inferInstanceAs (Decidable (_ ∨ _))

theorem isItem_all : IsItem "all" := ⟨by decide, by decide, by decide⟩

theorem isItem_none : IsItem "none" := ⟨by decide, by decide, by decide⟩

/-- What a text may name: everything, nothing, or a list of items. -/
theorem cases_of_ofText? (read : ofText? given = some policy) :
    policy = .everything ∨ policy = .nothing ∨
      ∃ keys, policy = .only keys ∧ keys.labels ≠ [] ∧ ∀ key ∈ keys.labels, IsItem key := by
  rw [ofText?] at read
  split at read
  · exact .inl (Option.some.inj read).symm
  · split at read
    · exact .inr (.inl (Option.some.inj read).symm)
    · split at read
      · cases read
      · next some_ =>
        cases read
        refine .inr (.inr ⟨_, rfl, ?_, fun key member => ?_⟩)
        · obtain ⟨first, rest, eq⟩ := List.exists_cons_of_ne_nil some_
          exact List.ne_nil_of_mem (Names.mem_labels_ofNames.2 (eq ▸ List.mem_cons_self))
        · exact isItem_of_mem_listed (Names.mem_labels_ofNames.1 member)

/-- **What the text of a list names**: the list, unless the text is a keyword. -/
theorem ofText?_text_only (some_ : keys.labels ≠ []) (good : ∀ key ∈ keys.labels, IsItem key) :
    ofText? (text (.only keys)) = some (if keys.labels = ["all"] then .everything
      else if keys.labels = ["none"] then .nothing else .only keys) := by
  have trimmed : Text.trimmed (text (.only keys)) = String.intercalate "," keys.labels :=
    trimmed_intercalate good
  have shown : String.intercalate "," keys.labels ≠ "" := by
    intro nothing
    have read := listed_intercalate some_ good
    rw [nothing] at read
    exact some_ read.symm
  rw [ofText?, trimmed]
  simp only [intercalate_eq_iff some_ good isItem_all, intercalate_eq_iff some_ good isItem_none,
    shown, or_false, listed_intercalate some_ good]
  split
  · rfl
  · split
    · rfl
    · rw [Names.ofNames_labels]

theorem only_eq_iff {name : String} :
    keys.labels = [name] ↔ OverridePolicy.only keys = .only (.ofNames [name]) := by
  constructor
  · intro eq
    rw [← eq, Names.ofNames_labels]
  · intro eq
    rw [OverridePolicy.only.inj eq]
    rfl

/-- **Which policies come back from their texts.**  The text of a policy that was read from a text
names a policy.  It is the same one, and allows the same keys, exactly if the policy is no list with
a keyword as its only key.  The text of the list of `all` is the word for everything, and the text
of the list of `none` the one for nothing. -/
theorem reread_iff (read : ofText? given = some policy) :
    ∃ shown, ofText? policy.text = some shown ∧
      (shown = policy ↔ ¬policy.IsLoneKeyword) ∧
      ((∀ key, shown.allows key = policy.allows key) ↔ ¬policy.IsLoneKeyword) ∧
      (policy = .only (.ofNames ["all"]) → shown = .everything) ∧
      (policy = .only (.ofNames ["none"]) → shown = .nothing) := by
  rcases cases_of_ofText? read with rfl | rfl | ⟨keys, rfl, some_, good⟩
  · exact ⟨.everything, by decide, by decide, by simp [IsLoneKeyword], nofun, nofun⟩
  · exact ⟨.nothing, by decide, by decide, by simp [IsLoneKeyword], nofun, nofun⟩
  · refine ⟨_, ofText?_text_only some_ good, ?_⟩
    rw [IsLoneKeyword, ← only_eq_iff, ← only_eq_iff]
    split
    · next all =>
      obtain rfl : keys = .ofNames ["all"] := OverridePolicy.only.inj (only_eq_iff.1 all)
      -- The list allows `all` only, its text also the empty key.
      have other : ¬∀ key, allows .everything key = allows (.only (.ofNames ["all"])) key :=
        fun same => absurd (same "") (by decide)
      exact ⟨by simp [all], by simp [all, other], fun _ => rfl, by decide⟩
    · next notAll =>
      split
      · next none_ =>
        obtain rfl : keys = .ofNames ["none"] := OverridePolicy.only.inj (only_eq_iff.1 none_)
        have other : ¬∀ key, allows .nothing key = allows (.only (.ofNames ["none"])) key :=
          fun same => absurd (same "none") (by decide)
        exact ⟨by simp [none_], by simp [none_, other], by decide, fun _ => rfl⟩
      · next notNone =>
        exact ⟨by simp [notAll, notNone], by simp [notAll, notNone],
          fun all => absurd all notAll, fun none_ => absurd none_ notNone⟩

/-- A list with space and empty items comes back; `all,` allows one key, and its text all keys. -/
theorem reread_iff_loneKeyword :
    ofText? " projects,, core,all" = some (.only (.ofNames ["all", "core", "projects"])) ∧
      ofText? (text (.only (.ofNames ["all", "core", "projects"]))) =
        some (.only (.ofNames ["all", "core", "projects"])) ∧
      ofText? "all," = some (.only (.ofNames ["all"])) ∧
      allows (.only (.ofNames ["all"])) "projects" = false ∧
      ofText? (text (.only (.ofNames ["all"]))) = some .everything ∧
      allows .everything "projects" = true := by
  have list : ofText? " projects,, core,all" =
      some (.only (.ofNames ["all", "core", "projects"])) := by decide +kernel
  have lone : ofText? "all," = some (.only (.ofNames ["all"])) := by decide +kernel
  obtain ⟨shown, reads, same, -⟩ := reread_iff list
  obtain ⟨shown', reads', -, -, everything, -⟩ := reread_iff lone
  refine ⟨list, ?_, lone, by decide, ?_, rfl⟩
  · rw [reads, same.2 (by decide)]
  · rw [reads', everything rfl]

end OverridePolicy

end BuildManifest
