import BuildManifest.Proofs.Resolve.Merged
import BuildManifest.Proofs.Tree.Merging

/-!
# No entry is lost

An entry has its name from its key or, in a list, from the item under an index.  An item that is a
text becomes a key before manifests are merged, so that two lists do not collide.  An item that is
a number or a truth value keeps its index, and gives way to whatever another manifest has there;
so does an entry with attributes under an index.

## What is here

* `GoesByName` — an entry whose name is, or becomes, its key.
* `keyed_of_names` — what is read from a normalized section has its name as a key.
* `mem_names_loadManifest` — **no name of such entries is lost**, in whichever of the loaded
  manifests it stands.
-/

set_option autoImplicit false

namespace BuildManifest

open Load

variable {entries base top : Mapping} {kind : SectionKind} {name : String} {key value : Tree}
  {entry : Tree × Tree} {list : List (String × Entry)} {given : Tree}

/-! ## Entries that are read -/

theorem name_of_readEntry (noIndex : key.isIndexKey = false) {one : String × Entry}
    (h : Section.readEntry key value = .ok one) : one.1 = key.keyText := by
  rw [Section.readEntry.eq_def] at h
  split at h
  · split at h
    · cases h
      rfl
    · cases h
  · cases h
    rfl
  · split at h
    · cases h
    · rw [noIndex] at h
      cases h
      rfl

/-! ## Names that are keys -/

/-- A section that is empty, or written out as entries. -/
inductive Sectional : Tree → Prop
  | null : Sectional .null
  | entries (entries : Mapping) : Sectional (.mapping entries)

/-- The name is the text of a key, one that is no index and gives way to no other key. -/
def Keyed (entries : Mapping) (name : String) : Prop :=
  ∃ key ∈ Mapping.keys entries, key.isIndexKey = false ∧ key.Rigid ∧ key.keyText = name

/-- The section has a key of that name. -/
inductive HasKeyed (name : String) : Tree → Prop
  | entries {entries : Mapping} (keyed : Keyed entries name) : HasKeyed name (.mapping entries)

theorem keyed_string (member : .string name ∈ Mapping.keys entries)
    (noIndex : Text.isDigits name.toList = false) : Keyed entries name :=
  ⟨_, member, noIndex, Tree.rigid_of_textual (Tree.textual_string name), rfl⟩

theorem keyed_insert (keyed : Keyed entries name) (key value : Tree) :
    Keyed (Mapping.insert entries key value) name := by
  obtain ⟨present, member, rest⟩ := keyed
  exact ⟨present, Mapping.mem_keys_insert_of_mem member, rest⟩

/-- **A name that is a key** is read from the section. -/
theorem mem_names_of_hasKeyed (has : HasKeyed name given) {result : Section}
    (h : Section.ofTree kind given = .ok result) : name ∈ result.names := by
  cases has with
  | entries keyed =>
    obtain ⟨list, read, rfl⟩ := map_eq_ok_iff.1 h
    obtain ⟨key, member, noIndex, -, rfl⟩ := keyed
    obtain ⟨entry, inside, rfl⟩ := List.mem_map.1 member
    obtain ⟨one, found, readOne⟩ := exists_mem_of_readEntries read inside
    rw [← name_of_readEntry noIndex readOne]
    exact List.mem_map_of_mem found

/-! ## Normalizing keeps the keys -/

theorem mem_keys_foldl_add_of_draft (declared : List String) {draft : Tree.SectionDraft}
    (member : key ∈ Mapping.keys draft.entries) :
    key ∈ Mapping.keys (entries.foldl (Tree.SectionDraft.add declared) draft).entries := by
  induction entries generalizing draft with
  | nil => exact member
  | cons first rest ih =>
    refine ih ?_
    obtain ⟨key, value, eq⟩ := add_eq_insert declared draft first
    rw [eq]
    exact Mapping.mem_keys_insert_of_mem member

theorem add_of_key (declared : List String) (draft : Tree.SectionDraft)
    (noIndex : key.isIndexKey = false) (value : Tree) :
    Tree.SectionDraft.add declared draft (key, value) =
      ⟨Mapping.insert draft.entries key (Tree.expandEntry value),
        key.keyText :: draft.emitted⟩ := by
  simp only [Tree.SectionDraft.add, noIndex, Bool.false_eq_true, if_false]

/-- A key that is no index is carried over. -/
theorem mem_keys_foldl_add_of_mem (declared : List String) {draft : Tree.SectionDraft}
    (noIndex : key.isIndexKey = false) (rigid : key.Rigid) (member : key ∈ Mapping.keys entries) :
    key ∈ Mapping.keys (entries.foldl (Tree.SectionDraft.add declared) draft).entries := by
  induction entries generalizing draft with
  | nil => exact nomatch member
  | cons first rest ih =>
    obtain ⟨present, value⟩ := first
    rcases List.mem_cons.1 member with rfl | later
    · rw [List.foldl_cons, add_of_key declared draft noIndex]
      exact mem_keys_foldl_add_of_draft declared (Mapping.mem_keys_insert_self rigid)
    · exact ih later

theorem keyed_normalizeSection (keyed : Keyed entries name) :
    Keyed (entries.foldl (Tree.SectionDraft.add (Tree.declaredNames entries)) {}).entries name := by
  obtain ⟨key, member, noIndex, rigid, text⟩ := keyed
  exact ⟨key, mem_keys_foldl_add_of_mem _ noIndex rigid member, noIndex, rigid, text⟩

theorem keyed_of_perm {others : Mapping} (perm : others.Perm entries) (keyed : Keyed entries name) :
    Keyed others name := by
  obtain ⟨key, member, rest⟩ := keyed
  exact ⟨key, ((perm.map _).mem_iff).2 member, rest⟩

/-! ## Merging keeps the keys -/

theorem closed_sectional (kind : SectionKind) : Closed kind.name Sectional :=
  .of_section kind .null
    (fun below above => Tree.merge_induction _ below above fun _ _ _ _ => .entries _)
    (fun h => by cases h <;> constructor) fun h => by cases h <;> constructor

/-- **A name that is a key is not lost in a merge.** -/
theorem kept_hasKeyed (kind : SectionKind) (name : String) :
    Kept kind.name Sectional (HasKeyed name) := by
  refine .of_section kind (fun below above has => ?_) (fun below above has => ?_) ?_ ?_
  · obtain ⟨key, member, rest⟩ := has
    cases above with
    | null => exact .entries ⟨key, member, rest⟩
    | entries top =>
      rw [Tree.merge]
      exact .entries ⟨key, Mapping.mem_keys_mergeEntries_of_base member, rest⟩
  · obtain ⟨key, member, noIndex, rigid, text⟩ := has
    cases below with
    | null => exact .entries ⟨key, member, noIndex, rigid, text⟩
    | entries base =>
      rw [Tree.merge]
      exact .entries ⟨key, Mapping.mem_keys_mergeEntries_of_top rigid member, noIndex, rigid, text⟩
  · rintro _ ⟨keyed⟩
    exact .entries (keyed_of_perm (entriesCoreFirst_perm _) keyed)
  · rintro _ ⟨keyed⟩
    exact .entries (keyed_normalizeSection keyed)

/-! ## What a manifest names itself -/

/-- An entry whose name is, or becomes, its key: an item that is a text, or a key that is no index
and gives way to no other. -/
inductive GoesByName : Tree × Tree → Prop
  | item {index : Tree} {name : String} (isIndex : index.isIndexKey = true)
      (noIndex : Text.isDigits name.toList = false) : GoesByName (index, .string name)
  | key {key value : Tree} (noIndex : key.isIndexKey = false) (rigid : key.Rigid) :
      GoesByName (key, value)

/-- All entries of a section go by their names. -/
def GoByNames (section_ : Tree) : Prop :=
  ∀ entries, section_.indexed = .mapping entries → ∀ entry ∈ entries, GoesByName entry

/-- What is known of a section under construction. -/
structure Tracked (declared : List String) (draft : Tree.SectionDraft) : Prop where
  /-- An entry under an index is named by a key, there or further on. -/
  indexed : ∀ entry ∈ draft.entries, entry.1.isIndexKey = false ∧ entry.1.Rigid ∨
    entry.1.isIndexKey = true ∧ ∃ name, entry.2 = .string name ∧
      (name ∈ declared ∨ name ∈ draft.emitted)
  /-- The names that have been given an entry are keys. -/
  emitted : ∀ name ∈ draft.emitted, Keyed draft.entries name

theorem Tracked.empty (declared : List String) : Tracked declared {} :=
  ⟨fun _ member => (nomatch member), fun _ member => nomatch member⟩

theorem tracked_add {declared : List String} {draft : Tree.SectionDraft}
    (tracked : Tracked declared draft) (named : GoesByName entry) :
    Tracked declared (Tree.SectionDraft.add declared draft entry) := by
  cases named with
  | @item index name isIndex noIndex =>
    rw [Tree.SectionDraft.add]
    simp only [isIndex, if_true, Tree.text?, Tree.untagged]
    split
    · next known =>
      refine ⟨fun entry member => ?_,
        fun other member => keyed_insert (tracked.emitted _ member) _ _⟩
      rcases Mapping.mem_insert_of_rigid (Tree.rigid_of_isIndexKey isIndex) member with old | rfl
      · exact tracked.indexed entry old
      · exact .inr ⟨isIndex, name, rfl, by simpa using known⟩
    · have rigid := Tree.rigid_of_textual (Tree.textual_string name)
      refine ⟨fun entry member => ?_, fun other member => ?_⟩
      · rcases Mapping.mem_insert_of_rigid rigid member with old | rfl
        · refine (tracked.indexed entry old).imp_right ?_
          rintro ⟨index, given, eq, known⟩
          exact ⟨index, given, eq, known.imp_right (List.mem_cons_of_mem _)⟩
        · exact .inl ⟨noIndex, rigid⟩
      · rcases List.mem_cons.1 member with rfl | old
        · exact keyed_string (Mapping.mem_keys_insert_self rigid) noIndex
        · exact keyed_insert (tracked.emitted _ old) _ _
  | @key key value noIndex rigid =>
    rw [add_of_key declared draft noIndex]
    refine ⟨fun entry member => ?_, fun other member => ?_⟩
    · rcases Mapping.mem_insert_of_rigid rigid member with old | rfl
      · refine (tracked.indexed entry old).imp_right ?_
        rintro ⟨index, given, eq, known⟩
        exact ⟨index, given, eq, known.imp_right (List.mem_cons_of_mem _)⟩
      · exact .inl ⟨noIndex, rigid⟩
    · rcases List.mem_cons.1 member with rfl | old
      · exact ⟨key, Mapping.mem_keys_insert_self rigid, noIndex, rigid, rfl⟩
      · exact keyed_insert (tracked.emitted _ old) _ _

theorem tracked_foldl_add {declared : List String} {draft : Tree.SectionDraft}
    (tracked : Tracked declared draft) (named : ∀ entry ∈ entries, GoesByName entry) :
    Tracked declared (entries.foldl (Tree.SectionDraft.add declared) draft) := by
  induction entries generalizing draft with
  | nil => exact tracked
  | cons first rest ih =>
    exact ih (tracked_add tracked (named first List.mem_cons_self))
      fun entry member => named entry (List.mem_cons_of_mem _ member)

/-- A name that is declared as a key is a key. -/
theorem keyed_of_declared (named : ∀ entry ∈ entries, GoesByName entry)
    (declared : name ∈ Tree.declaredNames entries) : Keyed entries name := by
  obtain ⟨key, kept, rfl⟩ := List.mem_map.1 declared
  obtain ⟨inside, noIndex⟩ := List.mem_filter.1 kept
  obtain ⟨entry, member, rfl⟩ := List.mem_map.1 inside
  have noIndex : entry.1.isIndexKey = false := by simpa using noIndex
  cases named entry member with
  | item isIndex => exact absurd (isIndex.symm.trans noIndex) (by decide)
  | key _ rigid => exact ⟨_, inside, noIndex, rigid, rfl⟩

theorem name_of_readEntry_item (index : key.isIndexKey = true) {one : String × Entry}
    (h : Section.readEntry key (.string name) = .ok one) : one.1 = name := by
  rw [Section.readEntry.eq_def] at h
  simp only [Tree.scalarText?, index, if_true] at h
  cases h
  rfl

/-- **What is read from a normalized section has its name as a key**, if the entries of the
section go by their names. -/
theorem keyed_of_names (named : GoByNames given) {result : Section}
    (h : Section.ofTree kind given.normalizeSection = .ok result)
    (member : name ∈ result.names) : HasKeyed name given.normalizeSection := by
  rw [Tree.normalizeSection] at h ⊢
  cases shape : given.indexed with
  | mapping entries =>
    rw [shape] at h
    obtain ⟨list, read, rfl⟩ := map_eq_ok_iff.1 h
    obtain ⟨one, inside, rfl⟩ := List.mem_map.1 member
    obtain ⟨entry, member, readOne⟩ := exists_entry_of_readEntries read inside
    have goes := named entries shape
    have tracked := tracked_foldl_add (.empty (Tree.declaredNames entries)) goes
    refine .entries ?_
    rcases tracked.indexed entry member with ⟨noIndex, rigid⟩ | ⟨index, name, eq, known⟩
    · exact ⟨entry.1, List.mem_map_of_mem member, noIndex, rigid,
        (name_of_readEntry noIndex readOne).symm⟩
    · rw [eq] at readOne
      rw [name_of_readEntry_item index readOne]
      rcases known with declared | emitted
      · exact keyed_normalizeSection (keyed_of_declared goes declared)
      · exact tracked.emitted name emitted
  | null =>
    rw [shape] at h
    cases h
    exact absurd member List.not_mem_nil
  | sequence items => cases given <;> simp [Tree.indexed] at shape
  | _ =>
    rw [shape] at h
    cases h

/-- The names that a manifest has in a section when it is read alone. -/
def ownNames (kind : SectionKind) (read : Tree) (dialect : Dialect) : List String :=
  match Manifest.ofTree read.normalize (some dialect) with
  | .ok manifest => (manifest.sectionOf kind).names
  | .error _ => []

/-- **A name that a manifest has itself** is a key of its normalized section. -/
theorem keyed_of_ownNames {read : Tree} {dialect : Dialect}
    (named : GoByNames (read.fieldOrNull kind.name)) (member : name ∈ ownNames kind read dialect) :
    HasKeyed name (read.normalize.fieldOrNull kind.name) := by
  rw [ownNames] at member
  split at member
  · next manifest readable =>
    have here := (Manifest.readFrom_of_ofTree readable).sections kind
    rw [Tree.fieldOrNull_normalize_section] at here ⊢
    exact keyed_of_names named here member
  · exact nomatch member

/-! ### Plain sections -/

variable {value : Option Tree}

/-- The entries of a plain section go by their names. -/
theorem goByNames_of_plain (plain : PlainSection value) : GoByNames (value.getD .null) := by
  intro entries eq entry member
  cases value with
  | none => cases eq
  | some tree =>
    have eq : tree.indexed = .mapping entries := eq
    rw [PlainSection, eq] at plain
    obtain ⟨name, written, noIndex⟩ := plain.named entry member
    obtain ⟨key, value⟩ := entry
    rw [writtenName?.eq_def] at written
    split at written
    · next eq =>
      cases eq
      cases written
      exact .key noIndex (Tree.rigid_of_textual (Tree.textual_string name))
    · next eq =>
      cases eq
      cases written
      exact .item rfl noIndex
    · cases written

theorem sectional_of_plain (plain : PlainSection value) :
    Sectional (value.getD .null).normalizeSection := by
  cases value with
  | none => exact .null
  | some tree =>
    rw [PlainSection] at plain
    rw [Option.getD_some, Tree.normalizeSection]
    generalize tree.indexed = shape at plain
    cases shape with
    | null => exact .null
    | mapping entries => exact .entries _
    | _ => exact plain.elim

/-! ## Loading -/

/-- **No name is lost.**  Whoever answers the requests: where a source can be loaded, the same
requests gather its manifests, and if each of them has a list or a mapping for a section, or
nothing, then a name that one of them has itself, in a section whose entries go by their names, is
a name of the loaded manifest. -/
theorem mem_names_loadManifest {σ : Type} (fetcher : Fetcher σ) {nesting : Nat} {source : Source}
    {before after : Session} {world last : σ} {manifest : Manifest}
    (loaded : fetcher.run (loadManifest .everything nesting source) before world =
      ((.ok manifest, after), last)) :
    ∃ gathered location, fetcher.run (gatherManifests nesting source) before world =
        ((.ok (gathered, location), after), last) ∧
      ∀ kind : SectionKind,
        gathered.All (fun read _ => Sectional (read.normalize.fieldOrNull kind.name)) →
        gathered.All fun read dialect => GoByNames (read.fieldOrNull kind.name) →
          ∀ name ∈ ownNames kind read dialect, name ∈ (manifest.sectionOf kind).names := by
  obtain ⟨gathered, location, gathers, decodes⟩ := (run_loadManifest_ok_iff fetcher).1 loaded
  refine ⟨gathered, location, gathers, fun kind sectional => ?_⟩
  have keeps := Kept.merged (kept_hasKeyed kind) (closed_sectional kind)
    (by cases kind <;> decide) (by cases kind <;> decide)
    (wellFormed_of_run fetcher gathers) sectional
  refine keeps.imp fun read dialect keeps named name member => ?_
  exact mem_names_of_hasKeyed (keeps name (keyed_of_ownNames named member))
    ((Manifest.readFrom_of_ofTree decodes).sections kind)

theorem mem_names_loadManifest_site : ∃ manifest after,
    (Fetcher.ofFiles siteFiles).run (loadManifest .everything 9 (.path "/m/site")) {} () =
      ((.ok manifest, after), ()) ∧
    "ctools" ∈ (manifest.sectionOf .projects).names := by
  have ok : ((Fetcher.ofFiles siteFiles).run (loadManifest .everything 9 (.path "/m/site")) {}
      ()).1.1.toOption.isSome = true := by decide +kernel
  have found : (((Fetcher.ofFiles siteFiles).run (gatherManifests 9 (.path "/m/site")) {}
      ()).1.1.toOption.all fun found => found.1.All PlainManifest ∧
        ¬found.1.All fun read dialect => "ctools" ∉ ownNames .projects read dialect) = true := by
    decide +kernel
  obtain ⟨⟨⟨result, after⟩, _⟩, loaded⟩ : ∃ outcome, (Fetcher.ofFiles siteFiles).run
      (loadManifest .everything 9 (.path "/m/site")) {} () = outcome := ⟨_, rfl⟩
  rw [loaded] at ok
  obtain ⟨manifest, rfl⟩ := isSome_toOption_iff.1 ok
  obtain ⟨gathered, location, gathers, names⟩ := mem_names_loadManifest _ loaded
  rw [gathers] at found
  obtain ⟨plain, some_⟩ := of_decide_eq_true found
  refine ⟨manifest, after, loaded, by_contra fun missing => some_ ?_⟩
  have sectional := plain.imp fun read _ (plain : PlainManifest read _) =>
    (Tree.fieldOrNull_normalize_section read .projects).symm ▸
      sectional_of_plain (plain.sections .projects)
  refine ((names .projects sectional).and plain).imp fun read dialect h member => missing ?_
  exact h.1 (goByNames_of_plain (h.2.sections .projects)) "ctools" member

end BuildManifest
