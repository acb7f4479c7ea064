import BuildManifest.Proofs.Manifest.Canonical
import BuildManifest.Proofs.Manifest.Sections
import BuildManifest.Proofs.Manifest.Unordered

/-!
# Normalizing keeps the meaning

Both the reader of a section and normalizing write the shorthands of an entry out: a name in a
list, a version, nothing at all, a download that is an address, and patches under their other
name.  They agree on all of them, so that a manifest reads the same before and after, with the
same names in the same order.  Names that a list and a mapping both give stay apart.

A section must not have a text in digits for a key.  Such a key counts as an index, and when the
list holds the same digits as a name, that name takes its place.

## What is here

* `readsLike_normalizeAttributes` — attributes read alike after normalizing.
* `Section.Agrees`, `Manifest.Agrees` — the same up to the order of attributes that are not
  interpreted.
* `Section.agrees_normalizeSection`, `Manifest.agrees_normalize` — **a section and a manifest read
  alike after normalizing**.
-/

set_option autoImplicit false

namespace BuildManifest

open BuildManifest.Tree (Carries carried expandEntry normalizeSection)

variable {attributes entries : Mapping} {key value : Tree} {declared seen next : List String}
  {kind : SectionKind}

/-! ## Attributes -/

namespace Entry

theorem slot?_string (name : String) (value : Tree) :
    slot? (.string name, value) = Attribute.ofName? name := rfl

/-- Patches are read under either of their names. -/
theorem readsLike_foldPatch : ReadsLike attributes (Tree.foldPatch attributes) := by
  rw [Tree.foldPatch]
  cases found : Mapping.get? attributes "patch" with
  | none => exact readsLike_refl _
  | some patch =>
    have inFront : attributes.Perm
        ((.string "patch", patch) :: Mapping.erase attributes (.string "patch")) :=
      (Mapping.perm_cons_eraseP (Tree.textual_string _) found).trans
        ((Mapping.erase_perm _ _).symm.cons _)
    dsimp only
    cases other : Mapping.get? (Mapping.erase attributes (.string "patch")) "patches" with
    | none =>
      rw [Mapping.insert_of_find?_eq_none other]
      refine (readsLike_of_perm inFront).trans (ReadsLike.trans ?_
        (readsLike_of_perm (List.perm_append_singleton _ _).symm))
      exact readsLike_replace (slot?_string ..) (slot?_string ..) fun _ reads => reads
    | some patches =>
      -- Both names at once cannot be read.
      intro entry from_
      have once := givesOnce_of_perm from_.once inFront
      have member := Mapping.mem_of_find? (Tree.textual_string "patches") other
      rcases (List.pairwise_cons.1 once).1 _ member with none_ | ne
      · cases none_
      · exact absurd rfl ne

/-- A download that is an address is read like a record of it. -/
theorem readsLike_expandDownload : ReadsLike attributes (Tree.expandDownload attributes) := by
  rw [Tree.expandDownload]
  split
  · next url found =>
    have textual := Tree.textual_string "download"
    refine (readsLike_of_perm (Mapping.perm_cons_eraseP textual found)).trans (ReadsLike.trans ?_
      (readsLike_of_perm (Mapping.insert_perm_cons_eraseP textual found).symm))
    exact readsLike_replace (slot?_string ..) (slot?_string ..) fun _ reads => reads
  · exact readsLike_refl _

/-- **Attributes read alike** after normalizing. -/
theorem readsLike_normalizeAttributes :
    ReadsLike attributes (Tree.normalizeAttributes attributes) :=
  readsLike_foldPatch.trans readsLike_expandDownload

end Entry

/-! ## Sections -/

namespace Section

/-- Two named entries have the same name, and agree. -/
def EntriesAgree (a b : String × Entry) : Prop := a.1 = b.1 ∧ a.2.Agrees b.2

theorem entriesAgree_refl (entry : String × Entry) : EntriesAgree entry entry := ⟨rfl, .refl _⟩

/-- A version is read like the attributes that give it. -/
theorem readEntry_version (key : Tree) (version : String) :
    readEntry key (.mapping [(.string "version", .string version)]) =
      .ok (key.keyText, Entry.ofVersion version) := rfl

/-- **What has a name is read alike** when it is written out. -/
theorem readEntry_expandEntry (named : key.isIndexKey = false) {one : String × Entry}
    (h : readEntry key value = .ok one) :
    ∃ other, readEntry key (expandEntry value) = .ok other ∧ EntriesAgree one other := by
  have scalar (text : String) (h : (Except.ok (if key.isIndexKey then (text, {}) else
      (key.keyText, Entry.ofVersion text)) : Except EntryFault _) = .ok one) :
      ∃ other, readEntry key (.mapping [(.string "version", .string text)]) = .ok other ∧
        EntriesAgree one other := by
    rw [named] at h
    cases h
    exact ⟨_, readEntry_version key text, entriesAgree_refl _⟩
  cases value with
  | mapping attributes =>
    rw [readEntry] at h
    split at h
    · next entry read =>
      cases h
      obtain ⟨result, from_, agrees⟩ :=
        Entry.readsLike_normalizeAttributes entry (Entry.ofMapping_eq_ok_iff.1 read)
      refine ⟨(key.keyText, result), ?_, rfl, agrees⟩
      rw [expandEntry, readEntry, Entry.ofMapping_eq_ok_iff.2 from_]
    · cases h
  | null =>
    cases h
    exact ⟨_, rfl, entriesAgree_refl _⟩
  | sequence items => cases h
  | tagged name content => cases h
  | _ => exact scalar _ h

/-- Only a text without tags is an item that can be read. -/
theorem readEntry_item (index : key.isIndexKey = true) {name : String}
    (text : value.text? = some name) {one : String × Entry} (h : readEntry key value = .ok one) :
    one = (name, {}) := by
  cases value with
  | string given =>
    cases text
    rw [readEntry.eq_def] at h
    simp only [Tree.scalarText?, index, if_true] at h
    exact (Except.ok.inj h).symm
  | tagged tag content => cases h
  | _ => cases text

/-- **An entry is read alike** however it is carried over. -/
theorem readEntry_of_carries {entry first : Tree × Tree}
    (carries : Carries declared seen entry first next) {one : String × Entry}
    (h : readEntry entry.1 entry.2 = .ok one) :
    ∃ other, readEntry first.1 first.2 = .ok other ∧ EntriesAgree one other := by
  cases carries with
  | stays index taken => exact ⟨one, h, entriesAgree_refl one⟩
  | named index text undeclared unseen =>
    rw [readEntry_item index text h]
    exact ⟨_, rfl, entriesAgree_refl _⟩
  | expands named => exact readEntry_expandEntry named h

theorem readEntries_carried {list : List (String × Entry)}
    (h : readEntries kind entries = .ok list) :
    ∃ others, readEntries kind (carried declared seen entries) = .ok others ∧
      List.Forall₂ EntriesAgree list others := by
  induction entries generalizing seen list with
  | nil =>
    cases h
    exact ⟨[], rfl, .nil⟩
  | cons entry rest ih =>
    obtain ⟨one, ones, read, readRest, rfl⟩ := readEntries_cons h
    obtain ⟨first, next, eq, carries⟩ := Tree.carried_cons declared seen entry rest
    obtain ⟨other, read', agrees⟩ := readEntry_of_carries carries read
    obtain ⟨others, readRest', agree⟩ := @ih next ones readRest
    refine ⟨other :: others, ?_, .cons agrees agree⟩
    rw [eq, readEntries, read']
    exact map_eq_ok_iff.2 ⟨others, readRest', rfl⟩

/-- Two sections have the same names in the same order, with entries that agree. -/
def Agrees (s t : Section) : Prop := List.Forall₂ EntriesAgree s.entries t.entries

theorem agrees_refl (s : Section) : s.Agrees s := List.forall₂_same.2 fun _ _ => entriesAgree_refl _

/-- A text in digits. -/
def isDigitText : Tree → Bool
  | .string text => Text.isDigits text.toList
  | _ => false

/-- No key of a section is a text in digits. -/
def NoDigitKeys (value : Tree) : Prop :=
  ∀ key ∈ Mapping.keys value.topEntries, isDigitText key = false

instance (value : Tree) : Decidable (NoDigitKeys value) :=
  inferInstanceAs (Decidable (∀ key ∈ Mapping.keys value.topEntries, _))

/-- **A section reads alike after normalizing.** -/
theorem agrees_normalizeSection (keyed : value.wellKeyed = true) (plain : NoDigitKeys value)
    {read : Section} (h : ofTree kind value = .ok read) :
    ∃ again, ofTree kind (normalizeSection value) = .ok again ∧ read.Agrees again := by
  by_cases shape : ∃ entries, value.indexed = .mapping entries
  · obtain ⟨entries, eq⟩ := shape
    have apart := (Tree.wellKeyed_mapping_iff.1 (eq ▸ Tree.wellKeyed_indexed keyed)).1
    have plain' : ∀ name, .string name ∈ Mapping.keys entries →
        Text.isDigits name.toList = false := by
      intro name member
      cases value with
      | sequence items =>
        cases eq
        obtain ⟨position, -, isInt⟩ := Mapping.le_of_mem_keys_indexedFrom member
        cases isInt
      | mapping given =>
        cases eq
        exact plain _ member
      | _ => cases eq
    rw [ofTree, eq] at h
    obtain ⟨list, readList, rfl⟩ := map_eq_ok_iff.1 h
    obtain ⟨others, readOthers, agree⟩ := readEntries_carried readList
    refine ⟨ofList others, ?_, agree⟩
    rw [← Tree.normalizeSection_indexed, eq, Tree.normalizeSection_mapping, Tree.canonicalEntries,
      Mapping.ofList_of_apart
        (Tree.apart_carried apart (Tree.declares_declaredNames entries) fun name member _ =>
          plain' name member)]
    exact map_eq_ok_iff.2 ⟨others, readOthers, rfl⟩
  · rw [Tree.normalizeSection_of_indexed fun entries eq => shape ⟨entries, eq⟩]
    exact ⟨read, h, agrees_refl read⟩

end Section

/-! ## Manifests -/

namespace Manifest

/-- Two manifests agree in both sections and are otherwise the same. -/
structure Agrees (a b : Manifest) : Prop where
  /-- The sections agree. -/
  sections : ∀ kind : SectionKind, (a.sectionOf kind).Agrees (b.sectionOf kind)
  /-- Everything else is the same. -/
  others : { a with projects := b.projects, libraries := b.libraries } = b

/-- **A manifest reads alike after normalizing.** -/
theorem agrees_normalize {tree : Tree} (keyed : tree.wellKeyed = true)
    (plain : ∀ kind : SectionKind, Section.NoDigitKeys (tree.fieldOrNull kind.name))
    {format : Option Dialect} {manifest : Manifest} (h : ofTree tree format = .ok manifest) :
    ∃ again, ofTree tree.normalize format = .ok again ∧ manifest.Agrees again := by
  cases tree with
  | mapping root =>
    obtain ⟨core, readCore, h⟩ := bind_eq_ok_iff.1 h
    obtain ⟨api, readApi, h⟩ := bind_eq_ok_iff.1 h
    obtain ⟨projects, readProjects, h⟩ := bind_eq_ok_iff.1 h
    obtain ⟨libraries, readLibraries, h⟩ := bind_eq_ok_iff.1 h
    obtain ⟨includes, readIncludes, h⟩ := bind_eq_ok_iff.1 h
    obtain ⟨overrides, readOverrides, h⟩ := bind_eq_ok_iff.1 h
    obtain ⟨defaults, readDefaults, h⟩ := bind_eq_ok_iff.1 h
    cases h
    have sections (kind : SectionKind) {read : Section}
        (h : Section.ofTree kind ((Tree.mapping root).fieldOrNull kind.name) = .ok read) :
        ∃ again, Section.ofTree kind ((Tree.mapping root).normalize.fieldOrNull kind.name) =
          .ok again ∧ read.Agrees again := by
      rw [Tree.fieldOrNull_normalize_section]
      exact Section.agrees_normalizeSection (Tree.wellKeyed_fieldOrNull keyed _) (plain kind) h
    have other {α : Type} (read : Tree → Except ManifestError α) {name : String} {result : α}
        (plain : name ∉ Tree.entrySections)
        (h : read ((Tree.mapping root).fieldOrNull name) = .ok result) :
        read ((Tree.mapping root).normalize.fieldOrNull name) = .ok result := by
      rwa [Tree.fieldOrNull, Tree.field?_normalize_other _ plain]
    obtain ⟨projects', readProjects', agreeProjects⟩ := sections .projects readProjects
    obtain ⟨libraries', readLibraries', agreeLibraries⟩ := sections .libraries readLibraries
    refine ⟨_, bind_eq_ok_iff.2 ⟨core, other Manifest.readCore (by decide) readCore,
      bind_eq_ok_iff.2 ⟨api, other Manifest.readApi (by decide) readApi,
      bind_eq_ok_iff.2 ⟨projects', readProjects', bind_eq_ok_iff.2 ⟨libraries', readLibraries',
      bind_eq_ok_iff.2 ⟨includes, other readReferences (by decide) readIncludes,
      bind_eq_ok_iff.2 ⟨overrides, other readReferences (by decide) readOverrides,
      bind_eq_ok_iff.2 ⟨defaults, other Manifest.readDefaults (by decide) readDefaults,
      rfl⟩⟩⟩⟩⟩⟩⟩, fun kind => ?_, rfl⟩
    cases kind with
    | projects => exact agreeProjects
    | libraries => exact agreeLibraries
  | null =>
    cases h
    exact ⟨_, rfl, fun kind => Section.agrees_refl _, rfl⟩
  | _ => cases h

/-- The two shorthands of `views` and the two of `ctools` are read before and after. -/
theorem agrees_normalize_shorthands :
    ∃ manifest again, ofTree (Tree.ofSection .projects Tree.shorthands) none = .ok manifest ∧
      ofTree (Tree.ofSection .projects Tree.shorthands).normalize none = .ok again ∧
      again.projects.names = ["views", "views", "ctools", "ctools", "token"] ∧
      manifest.Agrees again := by
  have ok : (ofTree (Tree.ofSection .projects Tree.shorthands) none).toOption.isSome = true := by
    decide
  obtain ⟨manifest, read⟩ := isSome_toOption_iff.1 ok
  obtain ⟨again, readAgain, agrees⟩ := agrees_normalize (by decide)
    (fun kind => by cases kind <;> decide) read
  have names : (ofTree (Tree.ofSection .projects Tree.shorthands).normalize none).toOption.map
      (·.projects.names) = some ["views", "views", "ctools", "ctools", "token"] := by decide
  rw [readAgain] at names
  exact ⟨manifest, again, read, readAgain, Option.some.inj names, agrees⟩

end Manifest

end BuildManifest
