import BuildManifest.Proofs.Manifest.Fitting
import BuildManifest.Proofs.Resolve.Merged
import BuildManifest.Tree.Equal

/-!
# What is merged can be read

Manifests that can be read, each on its own, can be read when they are merged, as long as no entry
gets its patches under both of their words: normalization folds `patch` into `patches` in the
entries that go by a name, but not under an index, and not in the defaults.  There the manifests
have to agree on one word.

## What is here

* `SectionFits`, `DefaultsFit` — sections and defaults that can be laid on each other.
* `Mergeable` — a manifest that can be read, and can be laid on others.
* `exists_loadManifest_of_gatherManifests` — **what is merged from such manifests can be read**.
-/

set_option autoImplicit false

namespace BuildManifest

open Load
open Mapping (Once)

variable {entries lower upper attributes : Mapping} {kind : SectionKind}
  {key present value base top : Tree} {refused : String} {entry : Tree × Tree}

/-! ## Entries of a section -/

/-- The word for patches that may not be used under a key.  Under names it is `patch`, which
normalization takes away. -/
def refusedUnder (refused : String) (key : Tree) : String :=
  if key.isIndexKey then refused else "patch"

/-- An entry that can be read and laid on others: attributes, nothing, or a scalar. -/
def EntryFits (refused : String) (key : Tree) : Tree → Prop
  | .mapping attributes => AttributesFit (refusedUnder refused key) attributes
  | .null => True
  | value => value.scalarText?.isSome = true

theorem refusedUnder_of_name (named : key.isIndexKey = false) :
    refusedUnder refused key = "patch" := by
  rw [refusedUnder, named]
  rfl

theorem entryFits_of_same (same : key.same present = true) (fits : EntryFits refused key value) :
    EntryFits refused present value := by
  have index := Tree.isIndexKey_of_same same
  cases value with
  | mapping attributes =>
    rw [EntryFits, refusedUnder, index]
    exact fits
  | _ => exact fits

/-- **An entry on an entry.** -/
theorem entryFits_merge (below : EntryFits refused key base) (above : EntryFits refused key top) :
    EntryFits refused key (base.merge top) := by
  refine Tree.merge_induction _ below above fun lower upper eq eq' => ?_
  rw [eq] at below
  rw [eq'] at above
  exact attributesFit_mergeEntries below above

/-- Entries that can be read and laid on others. -/
def EntriesFit (refused : String) (entries : Mapping) : Prop :=
  ∀ entry ∈ entries, EntryFits refused entry.1 entry.2

theorem entriesFit_insert (fit : EntriesFit refused entries) (fits : EntryFits refused key value) :
    EntriesFit refused (Mapping.insert entries key value) := by
  intro entry member
  rcases Mapping.mem_insert member with old | ⟨rfl, -⟩ | ⟨present, _, rfl, same, -⟩
  · exact fit entry old
  · exact fits
  · exact entryFits_of_same same fits

/-! ### Writing out the entries -/

theorem foldPatch_eq_self (fit : AttributesFit "patch" attributes) :
    Tree.foldPatch attributes = attributes := by
  have absent : Mapping.get? attributes "patch" = none := by
    refine (Mapping.find?_eq_none_iff (Tree.textual_string _)).2 fun member => ?_
    obtain ⟨pair, inside, eq⟩ := List.mem_map.1 member
    obtain ⟨name, eq', ne, -⟩ := fit.fits pair inside
    exact ne (Tree.string.inj (eq'.symm.trans eq))
  rw [Tree.foldPatch, absent]

theorem attributesFit_normalizeAttributes (fit : AttributesFit "patch" attributes) :
    AttributesFit "patch" (Tree.normalizeAttributes attributes) := by
  rw [Tree.normalizeAttributes, foldPatch_eq_self fit, Tree.expandDownload]
  split
  · next url _ =>
    refine attributesFit_insert fit (by decide) ⟨⟨Download.ofUrl url, rfl⟩, ?_⟩
    exact List.forall_mem_singleton.2 ⟨"url", rfl⟩
  · exact fit

/-- Folding leaves no `patch` behind that does not stand beside `patches`. -/
theorem patches_mem_of_patch_mem
    (member : .string "patch" ∈ Mapping.keys (Tree.foldPatch attributes)) :
    .string "patches" ∈ Mapping.keys (Tree.foldPatch attributes) := by
  have rigid := Tree.rigid_of_textual (Tree.textual_string "patches")
  rw [Tree.foldPatch] at member ⊢
  split at member
  · next absent =>
    exact absurd member ((Mapping.find?_eq_none_iff (Tree.textual_string _)).1 absent)
  · dsimp only
    split <;> exact Mapping.mem_keys_insert_self rigid

/-- Attributes written out under a name do not use the word `patch`. -/
theorem patch_not_mem_of_expandEntry {entry : Entry}
    (expanded : Tree.expandEntry value = .mapping attributes) (plain : PlainNames attributes)
    (h : Entry.ofMapping attributes = .ok entry) :
    .string "patch" ∉ Mapping.keys attributes := by
  obtain ⟨apart, -⟩ := (Entry.exists_ofMapping_iff plain).1 ⟨entry, h⟩
  -- Both words in one entry are one attribute given twice.
  have both (patch : .string "patch" ∈ Mapping.keys attributes)
      (patches : .string "patches" ∈ Mapping.keys attributes) : False := by
    obtain ⟨a, inside, eq⟩ := List.mem_map.1 patch
    obtain ⟨b, inside', eq'⟩ := List.mem_map.1 patches
    have ne : a ≠ b := by
      rintro rfl
      exact absurd (eq.symm.trans eq') (by simp)
    have symmetric : Std.Symm fun a b => Entry.givenName? a ≠ Entry.givenName? b :=
      ⟨fun _ _ => Ne.symm⟩
    refine apart.forall inside inside' ne ?_
    rw [Entry.givenName?, Entry.givenName?, eq, eq']
    rfl
  cases value with
  | mapping given =>
    obtain rfl : Tree.normalizeAttributes given = attributes := Tree.mapping.inj expanded
    intro member
    have grown {key : Tree} (h : key ∈ Mapping.keys (Tree.foldPatch given)) :
        key ∈ Mapping.keys (Tree.normalizeAttributes given) := by
      rw [Tree.normalizeAttributes, Tree.expandDownload]
      split
      · exact Mapping.mem_keys_insert_of_mem h
      · exact h
    have folded : .string "patch" ∈ Mapping.keys (Tree.foldPatch given) := by
      rw [Tree.normalizeAttributes, Tree.expandDownload] at member
      split at member
      · exact (Mapping.mem_keys_insert member).resolve_right (by simp)
      · exact member
    exact both member (grown (patches_mem_of_patch_mem folded))
  | null =>
    cases expanded
    exact List.not_mem_nil
  | sequence items => cases expanded
  | tagged tag content => cases expanded
  | _ =>
    cases expanded
    simp [Mapping.keys]

theorem entryFits_expandEntry (named : key.isIndexKey = false)
    (fits : EntryFits refused key value) : EntryFits refused key (Tree.expandEntry value) := by
  have version (text : String) :
      EntryFits refused key (.mapping [(.string "version", .string text)]) := by
    rw [EntryFits, refusedUnder_of_name named]
    exact attributesFit_insert attributesFit_nil (by decide) ⟨⟨some text, rfl⟩, trivial⟩
  cases value with
  | mapping attributes =>
    rw [EntryFits, refusedUnder_of_name named] at fits
    rw [Tree.expandEntry, EntryFits, refusedUnder_of_name named]
    exact attributesFit_normalizeAttributes fits
  | null => exact attributesFit_nil
  | sequence items => cases fits
  | tagged tag content => cases fits
  | bool given => exact version _
  | number given => exact version _
  | string given => exact version _

theorem entriesFit_add {declared : List String} {draft : Tree.SectionDraft}
    (fit : EntriesFit refused draft.entries) (fits : EntryFits refused entry.1 entry.2) :
    EntriesFit refused (Tree.SectionDraft.add declared draft entry).entries := by
  obtain ⟨key, value⟩ := entry
  rw [Tree.SectionDraft.add]
  split
  · split
    · split
      · exact entriesFit_insert fit fits
      · exact entriesFit_insert fit attributesFit_nil
    · exact entriesFit_insert fit fits
  · next named =>
    exact entriesFit_insert fit (entryFits_expandEntry (Bool.eq_false_iff.2 named) fits)

theorem entriesFit_foldl_add {declared : List String} {draft : Tree.SectionDraft}
    (done : EntriesFit refused draft.entries) (fit : EntriesFit refused entries) :
    EntriesFit refused (entries.foldl (Tree.SectionDraft.add declared) draft).entries := by
  induction entries generalizing draft with
  | nil => exact done
  | cons first rest ih =>
    exact ih (entriesFit_add done (fit first List.mem_cons_self))
      fun entry member => fit entry (List.mem_cons_of_mem _ member)

/-! ## Sections -/

/-- A section that can be read and laid on others. -/
inductive SectionFits (refused : String) : Tree → Prop
  | null : SectionFits refused .null
  | entries {entries : Mapping} (fit : EntriesFit refused entries) :
      SectionFits refused (.mapping entries)

/-- **A section on a section.** -/
theorem sectionFits_merge (below : SectionFits refused base) (above : SectionFits refused top) :
    SectionFits refused (base.merge top) := by
  refine Tree.merge_induction _ below above fun lower upper eq eq' => ?_
  subst eq eq'
  cases below with
  | entries fit =>
    cases above with
    | entries fit' =>
      refine .entries (Mapping.forall_mem_mergeEntries (EntryFits refused) ?_ fit fit')
      exact fun _ same below above => entryFits_merge below (entryFits_of_same same above)

theorem closed_sectionFits (refused : String) (kind : SectionKind) :
    Closed kind.name (SectionFits refused) := by
  refine .of_section kind .null sectionFits_merge (fun fits => ?_) fun fits => ?_
  · cases fits with
    | null => exact .null
    | entries fit =>
      exact .entries fun entry member => fit entry ((entriesCoreFirst_perm _).mem_iff.1 member)
  · cases fits with
    | null => exact .null
    | entries fit => exact .entries (entriesFit_foldl_add (fun _ member => nomatch member) fit)

theorem exists_readEntries_iff : (∃ list, Section.readEntries kind entries = .ok list) ↔
    ∀ entry ∈ entries, ∃ one, Section.readEntry entry.1 entry.2 = .ok one := by
  constructor
  · rintro ⟨list, read⟩ entry member
    exact readEntry_of_mem read member
  · intro reads
    induction entries with
    | nil => exact ⟨[], rfl⟩
    | cons first rest ih =>
      obtain ⟨key, value⟩ := first
      obtain ⟨one, read⟩ := reads _ List.mem_cons_self
      obtain ⟨list, readRest⟩ := ih fun entry member => reads entry (List.mem_cons_of_mem _ member)
      refine ⟨one :: list, ?_⟩
      rw [Section.readEntries, read, readRest]
      rfl

/-- **A section that fits can be read.** -/
theorem SectionFits.exists_ofTree (fits : SectionFits refused value)
    (word : refused = "patch" ∨ refused = "patches") (kind : SectionKind) :
    ∃ result, Section.ofTree kind value = .ok result := by
  cases fits with
  | null => exact ⟨{}, rfl⟩
  | @entries entries fit =>
    refine exists_map_eq_ok_iff.2 (exists_readEntries_iff.2 fun entry member => ?_)
    obtain ⟨key, value⟩ := entry
    have fits := fit _ member
    cases value with
    | mapping attributes =>
      have words : refusedUnder refused key = "patch" ∨ refusedUnder refused key = "patches" := by
        rw [refusedUnder]
        split
        · exact word
        · exact .inl rfl
      obtain ⟨entry, read⟩ := AttributesFit.exists_ofMapping fits words
      refine ⟨(key.keyText, entry), ?_⟩
      rw [Section.readEntry, read]
    | null => exact ⟨_, rfl⟩
    | sequence items => cases fits
    | tagged tag content => cases fits
    | _ => exact ⟨_, rfl⟩

/-! ### Sections of a manifest alone -/

/-- The entries that go by a name are written out. -/
def WrittenOut (entries : Mapping) : Prop :=
  ∀ entry ∈ entries, entry.1.isIndexKey = false → ∃ given, entry.2 = Tree.expandEntry given

theorem writtenOut_insert (written : WrittenOut entries)
    (h : key.isIndexKey = false → ∃ given, value = Tree.expandEntry given) :
    WrittenOut (Mapping.insert entries key value) := by
  intro entry member named
  rcases Mapping.mem_insert member with old | ⟨rfl, -⟩ | ⟨present, _, rfl, same, -⟩
  · exact written entry old named
  · exact h named
  · exact h ((Tree.isIndexKey_of_same same).symm.trans named)

theorem writtenOut_add {declared : List String} {draft : Tree.SectionDraft}
    (written : WrittenOut draft.entries) :
    WrittenOut (Tree.SectionDraft.add declared draft entry).entries := by
  obtain ⟨key, value⟩ := entry
  rw [Tree.SectionDraft.add]
  split
  · next index =>
    have kept : WrittenOut (Mapping.insert draft.entries key value) :=
      writtenOut_insert written fun named => absurd (index.symm.trans named) (by decide)
    split
    · split
      · exact kept
      · exact writtenOut_insert written fun _ => ⟨.null, rfl⟩
    · exact kept
  · exact writtenOut_insert written fun _ => ⟨value, rfl⟩

theorem writtenOut_foldl_add {declared : List String} {draft : Tree.SectionDraft}
    (written : WrittenOut draft.entries) :
    WrittenOut (entries.foldl (Tree.SectionDraft.add declared) draft).entries := by
  induction entries generalizing draft with
  | nil => exact written
  | cons first rest ih => exact ih (writtenOut_add written)

/-- The attributes under a key are plain, and do not use the refused word under an index. -/
structure EntryAgrees (refused : String) (entry : Tree × Tree) : Prop where
  /-- They are plain. -/
  plain : PlainAttributes entry.2.topEntries
  /-- Under an index they do not use the refused word. -/
  word : entry.1.isIndexKey = true → .string refused ∉ Mapping.keys entry.2.topEntries

instance (refused : String) (entry : Tree × Tree) : Decidable (EntryAgrees refused entry) :=
  decidable_of_iff (PlainAttributes entry.2.topEntries ∧
      (entry.1.isIndexKey = true → .string refused ∉ Mapping.keys entry.2.topEntries))
    ⟨fun h => ⟨h.1, h.2⟩, fun h => ⟨h.plain, h.word⟩⟩

theorem entryFits_of_readEntry {one : String × Entry} (agrees : EntryAgrees refused entry)
    (written : entry.1.isIndexKey = false → ∃ given, entry.2 = Tree.expandEntry given)
    (read : Section.readEntry entry.1 entry.2 = .ok one) :
    EntryFits refused entry.1 entry.2 := by
  obtain ⟨key, value⟩ := entry
  cases value with
  | mapping attributes =>
    have reads := ofMapping_of_readEntry read
    refine attributesFit_of_ofMapping reads agrees.plain ?_
    rw [refusedUnder]
    split
    · next index => exact agrees.word index
    · next named =>
      obtain ⟨given, expanded⟩ := written (Bool.eq_false_iff.2 named)
      exact patch_not_mem_of_expandEntry expanded.symm agrees.plain.names reads
  | null => trivial
  | sequence items => cases read
  | tagged tag content => cases read
  | _ => rfl

/-- **A section that can be read fits**, where its entries agree. -/
theorem sectionFits_of_ofTree {result : Section}
    (agree : ∀ entry ∈ value.normalizeSection.topEntries, EntryAgrees refused entry)
    (h : Section.ofTree kind value.normalizeSection = .ok result) :
    SectionFits refused value.normalizeSection := by
  rw [Tree.normalizeSection] at agree h ⊢
  cases shape : value.indexed with
  | mapping entries =>
    rw [shape] at agree h
    obtain ⟨list, read, -⟩ := map_eq_ok_iff.1 h
    refine .entries fun entry member => ?_
    obtain ⟨one, readOne⟩ := readEntry_of_mem read member
    have written : WrittenOut (entries.foldl
        (Tree.SectionDraft.add (Tree.declaredNames entries)) {}).entries :=
      writtenOut_foldl_add fun _ member => absurd member List.not_mem_nil
    exact entryFits_of_readEntry (agree entry member) (written entry member) readOne
  | null => exact .null
  | sequence items => cases value <;> simp [Tree.indexed] at shape
  | _ =>
    rw [shape] at h
    cases h

/-! ## Defaults -/

/-- Defaults of a section that can be read and laid on others: attributes or nothing, whether or
not they are tagged. -/
def DefaultFits (refused : String) (value : Tree) : Prop :=
  match value.untagged with
  | .mapping attributes => AttributesFit refused attributes
  | .null => True
  | _ => False

theorem defaultFits_merge (below : DefaultFits refused base) (above : DefaultFits refused top) :
    DefaultFits refused (base.merge top) := by
  refine Tree.merge_induction _ below above fun lower upper eq eq' => ?_
  rw [eq] at below
  rw [eq'] at above
  exact attributesFit_mergeEntries below above

/-- Defaults that can be read and laid on others. -/
inductive DefaultsFit (refused : String) : Tree → Prop
  | null : DefaultsFit refused .null
  | sections {sections : Mapping} (fit : ∀ entry ∈ sections, DefaultFits refused entry.2) :
      DefaultsFit refused (.mapping sections)

theorem closed_defaultsFit (refused : String) : Closed "defaults" (DefaultsFit refused) := by
  refine .of_not_section (by decide) .null fun below above => ?_
  refine Tree.merge_induction _ below above fun lower upper eq eq' => ?_
  subst eq eq'
  cases below with
  | sections fit =>
    cases above with
    | sections fit' =>
      refine .sections (Mapping.forall_mem_mergeEntries (fun _ value => DefaultFits refused value)
        ?_ fit fit')
      exact fun _ _ below above => defaultFits_merge below above

theorem exists_readSectionDefaults_iff (done : Labelled Entry) :
    (∃ defaults, Manifest.readSectionDefaults done entries = .ok defaults) ↔
      ∀ entry ∈ entries, ∃ one, Entry.ofTree entry.2 = .ok one := by
  induction entries generalizing done with
  | nil => simp [Manifest.readSectionDefaults]
  | cons first rest ih =>
    obtain ⟨key, value⟩ := first
    rw [List.forall_mem_cons, Manifest.readSectionDefaults]
    cases Entry.ofTree value with
    | error fault => simp
    | ok entry => simp [ih]

/-- **Defaults that fit can be read.** -/
theorem DefaultsFit.exists_readDefaults (fits : DefaultsFit refused value)
    (word : refused = "patch" ∨ refused = "patches") :
    ∃ defaults, Manifest.readDefaults value = .ok defaults := by
  cases fits with
  | null => exact ⟨_, rfl⟩
  | sections fit =>
    refine (exists_readSectionDefaults_iff _).2 fun entry member => ?_
    have fits := fit entry member
    rw [DefaultFits] at fits
    rw [Entry.ofTree]
    generalize entry.2.untagged = content at fits
    cases content with
    | mapping attributes => exact AttributesFit.exists_ofMapping fits word
    | null => exact ⟨{}, rfl⟩
    | _ => exact fits.elim

/-- The defaults of a section are plain and do not use the refused word. -/
structure DefaultAgrees (refused : String) (entry : Tree × Tree) : Prop where
  /-- They are plain. -/
  plain : PlainAttributes entry.2.untagged.topEntries
  /-- They do not use the refused word. -/
  word : .string refused ∉ Mapping.keys entry.2.untagged.topEntries

instance (refused : String) (entry : Tree × Tree) : Decidable (DefaultAgrees refused entry) :=
  decidable_of_iff (PlainAttributes entry.2.untagged.topEntries ∧
      .string refused ∉ Mapping.keys entry.2.untagged.topEntries)
    ⟨fun h => ⟨h.1, h.2⟩, fun h => ⟨h.plain, h.word⟩⟩

/-- **Defaults that can be read fit**, where they agree. -/
theorem defaultsFit_of_readDefaults {defaults : Labelled Entry}
    (agree : ∀ entry ∈ value.topEntries, DefaultAgrees refused entry)
    (h : Manifest.readDefaults value = .ok defaults) : DefaultsFit refused value := by
  cases value with
  | mapping sections =>
    refine .sections fun entry member => ?_
    obtain ⟨one, read⟩ := (exists_readSectionDefaults_iff _).1 ⟨defaults, h⟩ entry member
    obtain ⟨plain, word⟩ := agree entry member
    rw [Entry.ofTree] at read
    rw [DefaultFits]
    generalize entry.2.untagged = content at read plain word
    cases content with
    | mapping attributes => exact attributesFit_of_ofMapping read plain word
    | null => trivial
    | _ => cases read
  | null => exact .null
  | _ => cases h

/-! ## Versions -/

theorem closed_core : Closed "core" fun value => ∃ core, Manifest.readCore value = .ok core := by
  refine .of_not_section (by decide) ⟨none, rfl⟩ fun below above => ?_
  refine Tree.merge_induction (fun value => ∃ core, Manifest.readCore value = .ok core) below above
    fun lower upper eq _ => ?_
  obtain ⟨_, read⟩ := below
  rw [eq] at read
  cases read

theorem closed_api : Closed "api" fun value => ∃ api, Manifest.readApi value = .ok api := by
  refine .of_not_section (by decide) ⟨none, rfl⟩ fun below above => ?_
  refine Tree.merge_induction (fun value => ∃ api, Manifest.readApi value = .ok api) below above
    fun lower upper eq _ => ?_
  obtain ⟨_, read⟩ := below
  rw [eq] at read
  cases read

/-! ## Manifests -/

/-- A manifest that can be read on its own and laid on others, where `refused` is the word for
patches that is not used in defaults and under indices. -/
structure Mergeable (refused : String) (read : Tree) (dialect : Dialect) : Prop where
  /-- It can be read on its own. -/
  readable : ∃ manifest, Manifest.ofTree read.normalize (some dialect) = .ok manifest
  /-- The entries of its sections agree. -/
  sections : ∀ kind : SectionKind,
    ∀ entry ∈ (read.normalize.fieldOrNull kind.name).topEntries, EntryAgrees refused entry
  /-- Its defaults agree. -/
  defaults : ∀ entry ∈ (read.normalize.fieldOrNull "defaults").topEntries,
    DefaultAgrees refused entry

instance (refused : String) (read : Tree) (dialect : Dialect) :
    Decidable (Mergeable refused read dialect) :=
  decidable_of_iff
    ((Manifest.ofTree read.normalize (some dialect)).toOption.isSome = true ∧
      ((∀ entry ∈ (read.normalize.fieldOrNull "projects").topEntries, EntryAgrees refused entry) ∧
        ∀ entry ∈ (read.normalize.fieldOrNull "libraries").topEntries,
          EntryAgrees refused entry) ∧
      ∀ entry ∈ (read.normalize.fieldOrNull "defaults").topEntries, DefaultAgrees refused entry)
    ⟨fun h => ⟨isSome_toOption_iff.1 h.1, fun | .projects => h.2.1.1 | .libraries => h.2.1.2,
        h.2.2⟩,
      fun h => ⟨isSome_toOption_iff.2 h.readable, ⟨h.sections .projects, h.sections .libraries⟩,
        h.defaults⟩⟩

variable {gathered : Gathered}

/-- **What is merged from mergeable manifests can be read.** -/
theorem exists_ofTree_merged (formed : gathered.WellFormed) (consumed : Consumed gathered.merged)
    (word : refused = "patch" ∨ refused = "patches") (all : gathered.All (Mergeable refused))
    (format : Option Dialect) :
    ∃ manifest, Manifest.ofTree gathered.merged format = .ok manifest := by
  have core := closed_core.merged formed <| all.imp fun _ _ mergeable => by
    obtain ⟨manifest, read⟩ := mergeable.readable
    exact ⟨_, (Manifest.readFrom_of_ofTree read).core⟩
  have api := closed_api.merged formed <| all.imp fun _ _ mergeable => by
    obtain ⟨manifest, read⟩ := mergeable.readable
    exact ⟨_, (Manifest.readFrom_of_ofTree read).api⟩
  have defaults := (closed_defaultsFit refused).merged formed <| all.imp fun _ _ mergeable => by
    obtain ⟨manifest, read⟩ := mergeable.readable
    exact defaultsFit_of_readDefaults mergeable.defaults (Manifest.readFrom_of_ofTree read).defaults
  have sections (kind : SectionKind) := (closed_sectionFits refused kind).merged formed <|
    all.imp fun _ _ mergeable => by
      obtain ⟨manifest, read⟩ := mergeable.readable
      have readSection := (Manifest.readFrom_of_ofTree read).sections kind
      have agree := mergeable.sections kind
      rw [Tree.fieldOrNull_normalize_section] at readSection agree ⊢
      exact sectionFits_of_ofTree agree readSection
  have includes : gathered.merged.fieldOrNull "includes" = .null := by
    rw [Tree.fieldOrNull, consumed.includes]
    rfl
  have overrides : gathered.merged.fieldOrNull "overrides" = .null := by
    rw [Tree.fieldOrNull, consumed.overrides]
    rfl
  refine Manifest.exists_ofTree consumed.rooted format core.value api.value
    (fun kind => (sections kind).value.exists_ofTree word kind) ?_ ?_
    (defaults.value.exists_readDefaults word)
  · exact ⟨[], includes ▸ rfl⟩
  · exact ⟨[], overrides ▸ rfl⟩

/-- **Merging does not make manifests unreadable.**  Whoever answers the requests: if the
manifests of a source can be gathered, each of them can be read on its own, and they can be laid on
each other, then the source can be loaded, by the same requests. -/
theorem exists_loadManifest_of_gatherManifests {σ : Type} (fetcher : Fetcher σ) {nesting : Nat}
    {source : Source} {before after : Session} {world last : σ} {location : Location}
    (gathers : fetcher.run (gatherManifests nesting source) before world =
      ((.ok (gathered, location), after), last))
    (word : refused = "patch" ∨ refused = "patches") (all : gathered.All (Mergeable refused)) :
    ∃ manifest, fetcher.run (loadManifest .everything nesting source) before world =
      ((.ok manifest, after), last) := by
  have consumed : Consumed gathered.merged := consumed_of_ends (fetcher.ends_run gathers)
  obtain ⟨manifest, read⟩ := exists_ofTree_merged (wellFormed_of_run fetcher gathers) consumed word
    all (some gathered.dialect)
  exact ⟨manifest, (run_loadManifest_ok_iff fetcher).2 ⟨gathered, location, gathers, read⟩⟩

/-- A site over a base, both with patches in an entry and in the defaults. -/
def patchedFiles : List (String × String) :=
  [("/m/site", "core: 8.x\nincludes: [base]\nprojects: {views: {patch: {fix: {url: a}}}}\n" ++
      "defaults: {projects: {patches: {late: {url: b}}}}\n"),
    ("/m/base", "projects: {views: {patches: [c], download: {url: d}}}\n" ++
      "defaults: {projects: {patches: {late: e, soon: f}}}\n")]

theorem exists_loadManifest_of_gatherManifests_patched : ∃ manifest after,
    (Fetcher.ofFiles patchedFiles).run (loadManifest .everything 9 (.path "/m/site")) {} () =
      ((.ok manifest, after), ()) := by
  have mergeable : ((Fetcher.ofFiles patchedFiles).run (gatherManifests 9 (.path "/m/site")) {}
      ()).1.1.toOption.any fun found => found.1.All (Mergeable "patch") := by decide +kernel
  obtain ⟨⟨⟨result, after⟩, _⟩, gathers⟩ : ∃ outcome, (Fetcher.ofFiles patchedFiles).run
      (gatherManifests 9 (.path "/m/site")) {} () = outcome := ⟨_, rfl⟩
  rw [gathers] at mergeable
  cases result with
  | error error => cases mergeable
  | ok found =>
    obtain ⟨manifest, loaded⟩ := exists_loadManifest_of_gatherManifests _ gathers (.inl rfl)
      (of_decide_eq_true mergeable)
    exact ⟨manifest, after, loaded⟩

end BuildManifest
