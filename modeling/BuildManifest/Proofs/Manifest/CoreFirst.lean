import BuildManifest.Proofs.Manifest.Sections
import BuildManifest.Proofs.Tree.Clean
import BuildManifest.Proofs.Tree.CanonicalMerge
import BuildManifest.Proofs.Tree.Spelling

/-!
# The core project in front

Merging moves the first entry of the projects that is the platform's core to the front, going by
what the entry looks like before it is read.  Where the projects are clean, an entry looks like the
core exactly if it reads as the core, or if it is an item of a list that goes by that name.  So the
core project is read first, if there is one.

## What is here

* `LooksLikeCore`, `isCore_iff_of_readEntry` — **which entries read as the core**.
* `Orderly`, `orderly_normalizeSection` — projects as merging has them.
* `Section.CoreFirst`, `coreFirst_of_ofTree` — **settled projects are read with the core in front**.
-/

set_option autoImplicit false

namespace BuildManifest

open Mapping (Apart keys)

theorem word_coreProject : Word Tree.coreProject := ⟨by decide, by decide, by decide⟩

theorem word_core : Word "core" := ⟨by decide, by decide, by decide⟩

variable {entries attributes : Mapping} {key value : Tree} {entry : Tree × Tree}

/-! ## What reads as the core -/

namespace Entry

/-- The kind of an entry is the text under its key. -/
theorem kind_eq_some_iff {result : Entry} {kind : String} (word : Word kind)
    (clean : (Tree.mapping attributes).Clean) (read : ofMapping attributes = .ok result) :
    result.kind = some kind ↔ Mapping.get? attributes "type" = some (.string kind) := by
  have text : Attribute.kind ∈ Attribute.texts := by decide
  have names : (Tree.string "type").Names .kind := rfl
  constructor
  · intro given
    by_contra missing
    have absent : ∀ pair ∈ attributes, ¬pair.1.Names .kind := by
      rintro ⟨key, value⟩ member named
      obtain ⟨cleanKey, cleanValue⟩ := (Tree.clean_mapping_iff.1 clean).2 _ member
      obtain rfl : key = .string "type" := (Tree.text?_eq_some_iff cleanKey).1 named
      have scalar : value.optionalScalar? = some (some kind) :=
        (textOf_of_mem text read member names).trans (congrArg some given)
      obtain rfl : value = .string kind := by
        refine (Tree.scalarText?_eq_word_iff word).1 ?_
        cases value with
        | null => cases scalar
        | _ => simpa [Tree.optionalScalar?] using scalar
      refine missing (Mapping.find?_of_mem (Tree.textual_string _) ?_ member)
      exact Mapping.distinct_of_apart (Tree.clean_mapping_iff.1 clean).1 _ (Tree.textual_string _)
    cases given.symm.trans (textOf_of_not_mem text read absent)
  · intro found
    have member := Mapping.mem_of_find? (Tree.textual_string "type") found
    exact (Option.some.inj (textOf_of_mem text read member names)).symm

end Entry

namespace Tree

/-- The entry is the core as it stands, or it is an item that names the core project. -/
def LooksLikeCore (entry : Tree × Tree) : Prop :=
  isCoreEntry entry.1 entry.2 = true ∨ itemName? entry = some coreProject

theorem isCoreEntry_iff (cleanKey : Clean key) (cleanValue : Clean value) :
    isCoreEntry key value = true ↔ key = .string coreProject ∨
      ∃ attributes, value = .mapping attributes ∧
        Mapping.get? attributes "type" = some (.string "core") := by
  rw [isCoreEntry, Bool.or_eq_true, beq_iff_eq, beq_iff_eq, text?_eq_some_iff cleanKey]
  refine or_congr Iff.rfl ?_
  cases value with
  | mapping attributes =>
    have inside {kind : Tree} (found : Mapping.get? attributes "type" = some kind) :
        kind.text? = some "core" ↔ kind = .string "core" :=
      text?_eq_some_iff (hereditary_clean.get? cleanValue found)
    cases found : Mapping.get? attributes "type" with
    | none => simp [entries?, untagged, found]
    | some kind => simp [entries?, untagged, found, inside found]
  | tagged tag content => cases cleanValue.untagged
  | _ => simp [entries?, untagged]

theorem coreProject_not_index (index : key.isIndexKey = true) : key ≠ .string coreProject := by
  rintro rfl
  revert index
  decide

end Tree

/-- **Which entries read as the core.** -/
theorem isCore_iff_of_readEntry (cleanKey : key.Clean) (cleanValue : value.Clean)
    {one : String × Entry} (read : Section.readEntry key value = .ok one) :
    one.2.isCore one.1 = true ↔ Tree.LooksLikeCore (key, value) := by
  have named : key.keyText = Tree.coreProject ↔ key = .string Tree.coreProject :=
    Tree.keyText_eq_word_iff word_coreProject
  rw [Tree.LooksLikeCore, Tree.isCoreEntry_iff cleanKey cleanValue, Tree.itemName?_eq_some_iff,
    Tree.text?_eq_some_iff cleanValue, Entry.isCore, Bool.or_eq_true, beq_iff_eq, beq_iff_eq]
  rw [Section.readEntry.eq_def] at read
  split at read
  · next attributes =>
    split at read
    · next entry readAttributes =>
      cases read
      simp [named, Entry.kind_eq_some_iff word_core cleanValue readAttributes]
    · cases read
  · cases read
    simp [named]
  · next _ notMapping _ =>
    split at read
    · cases read
    · next text scalar =>
      have listed : text = Tree.coreProject ↔ value = .string Tree.coreProject := by
        rw [← Tree.scalarText?_eq_word_iff word_coreProject, scalar, Option.some.injEq]
      have noMapping : ¬∃ attributes, value = .mapping attributes ∧
          Mapping.get? attributes "type" = some (.string "core") := by
        rintro ⟨attributes, rfl, -⟩
        exact notMapping attributes rfl
      rw [or_iff_left noMapping]
      split at read
      · next index =>
        cases read
        simp [listed, index, Tree.coreProject_not_index index]
      · next plain =>
        cases read
        simp [named, plain, Entry.ofVersion]

/-! ## Sections -/

namespace Tree

variable {declared seen next : List String} {first : Tree × Tree}

theorem keysOnce_of_clean (clean : (mapping attributes).Clean) : KeysOnce attributes :=
  fun _ _ key names => Mapping.distinct_of_apart (clean_mapping_iff.1 clean).1 key names.textual

/-- An entry that is written out is the core if it was before. -/
theorem isCoreEntry_expandEntry (clean : Clean value) (key : Tree) :
    isCoreEntry key (expandEntry value) = isCoreEntry key value := by
  have version (text : String) : isCoreEntry key (.mapping [(.string "version", .string text)]) =
      isCoreEntry key .null := rfl
  cases value with
  | mapping attributes =>
    have kind : Mapping.get? (normalizeAttributes attributes) "type" =
        Mapping.get? attributes "type" := by
      have text : Attribute.kind ∈ Attribute.texts := by decide
      exact find?_normalizeAttributes (keysOnce_of_clean clean) text rfl
    rw [expandEntry, isCoreEntry, isCoreEntry, entries?, untagged, entries?, untagged,
      Option.bind_some, Option.bind_some, kind]
    · rintro _ _ ⟨⟩
    · rintro _ _ ⟨⟩
  | null => rfl
  | sequence items => rfl
  | tagged tag content => rfl
  | _ => exact version _

/-- The core stays the core when it is carried over. -/
theorem Carries.isCoreEntry (carries : Carries declared seen entry first next)
    (clean : Clean entry.1 ∧ Clean entry.2) (core : isCoreEntry entry.1 entry.2 = true) :
    isCoreEntry first.1 first.2 = true := by
  cases carries with
  | stays index taken => exact core
  | @named key value name index text undeclared unseen =>
    obtain rfl := (text?_eq_some_iff clean.2).1 text
    rcases (isCoreEntry_iff clean.1 clean.2).1 core with eq | ⟨_, ⟨⟩, _⟩
    exact absurd eq (coreProject_not_index index)
  | @expands key value named => exact (isCoreEntry_expandEntry clean.2 key).trans core

/-- What looks like the core did so before it was carried over. -/
theorem Carries.looksLikeCore (carries : Carries declared seen entry first next)
    (clean : Clean entry.1 ∧ Clean entry.2) (core : LooksLikeCore first) : LooksLikeCore entry := by
  cases carries with
  | stays index taken => exact core
  | @named key value name index text undeclared unseen =>
    refine .inr (itemName?_eq_some_iff.2 ⟨index, text.trans ?_⟩)
    rcases core with entry | item
    · rcases (isCoreEntry_iff (hereditary_clean.text _) hereditary_clean.nothing).1 entry with
        eq | ⟨_, ⟨⟩, missing⟩
      · exact congrArg some (string.inj eq)
      · cases missing
    · cases (itemName?_eq_some_iff.1 item).2
  | @expands key value named =>
    rcases core with entry | item
    · exact .inl ((isCoreEntry_expandEntry clean.2 key).symm.trans entry)
    · cases named.symm.trans (itemName?_eq_some_iff.1 item).1

/-- Projects as merging has them.  An item that names the core project is not the only one of that
name, and no item is a name in digits. -/
structure Orderly (value : Tree) : Prop where
  /-- They are clean. -/
  clean : value.Clean
  /-- They are no list. -/
  mapped : ∀ items, value ≠ .sequence items
  /-- The core project, where it is listed, is there under its name as well. -/
  declared : coreProject ∈ itemNames value.topEntries → .string coreProject ∈ keys value.topEntries
  /-- No item is a name in digits. -/
  plain : ∀ name ∈ itemNames value.topEntries, Text.isDigits name.toList = false

theorem orderly_null : Orderly .null := ⟨⟨rfl, rfl⟩, nofun, nofun, nofun⟩

theorem orderly_merge {base top : Tree} (below : Orderly base) (above : Orderly top) :
    Orderly (base.merge top) := by
  refine ⟨hereditary_clean.merge below.clean above.clean, ?_, ?_, ?_⟩
  · exact merge_induction (fun tree => ∀ items, tree ≠ .sequence items) below.mapped above.mapped
      fun _ _ _ _ => nofun
  · refine merge_induction (fun tree => coreProject ∈ itemNames tree.topEntries →
      .string coreProject ∈ keys tree.topEntries) below.declared above.declared ?_
    rintro lower upper rfl rfl listed
    rcases mem_itemNames_mergeEntries listed with here | here
    · exact Mapping.mem_keys_mergeEntries_of_base (below.declared here)
    · exact Mapping.mem_keys_mergeEntries_of_top (rigid_of_textual (textual_string _))
        (above.declared here)
  · refine merge_induction (fun tree => ∀ name ∈ itemNames tree.topEntries,
      Text.isDigits name.toList = false) below.plain above.plain ?_
    rintro lower upper rfl rfl name listed
    exact (mem_itemNames_mergeEntries listed).elim (below.plain name) (above.plain name)

theorem orderly_projectsCoreFirst (orderly : Orderly value) : Orderly value.projectsCoreFirst := by
  cases value with
  | mapping entries =>
    have perm := entriesCoreFirst_perm entries
    have listed {name : String} (member : name ∈ itemNames (entriesCoreFirst entries)) :
        name ∈ itemNames entries := ((perm.filterMap _).mem_iff).1 member
    exact ⟨hereditary_clean.projectsCoreFirst orderly.clean, nofun,
      fun member => (perm.map _).mem_iff.2 (orderly.declared (listed member)),
      fun name member => orderly.plain name (listed member)⟩
  | _ => exact orderly

/-- **Projects are orderly once they have their canonical shape**, if they are clean and list no
name in digits. -/
theorem orderly_normalizeSection (clean : Clean value)
    (plain : ∀ name ∈ itemNames value.indexed.topEntries, Text.isDigits name.toList = false) :
    Orderly value.normalizeSection := by
  by_cases shape : ∃ entries, value.indexed = .mapping entries
  · obtain ⟨entries, eq⟩ := shape
    have cleanIndexed := hereditary_clean.indexed clean
    rw [eq] at plain cleanIndexed
    have canonical := hereditary_clean.normalizeSection clean
    rw [← normalizeSection_indexed, eq, normalizeSection_mapping] at canonical ⊢
    have items := forall_itemNames_canonicalEntries entries (Text.isDigits ·.toList = false) ?_
    · refine ⟨canonical, nofun, fun listed => ?_, items⟩
      have declared := declared_of_mem_itemNames (clean_mapping_iff.1 cleanIndexed).1 listed
        (items _ listed)
      obtain ⟨key, inside, -, text⟩ := mem_declaredNames_iff.1 declared
      rwa [← (keyText_eq_word_iff word_coreProject).1 text]
    · intro first member name item
      obtain ⟨entry, inside, _, _, -, carries⟩ := mem_carried member
      refine plain name (mem_itemNames_iff.2 ⟨entry, inside, ?_⟩)
      cases carries with
      | stays index taken => exact item
      | named index text undeclared unseen => cases (itemName?_eq_some_iff.1 item).2
      | expands named => cases named.symm.trans (itemName?_eq_some_iff.1 item).1
  · rw [normalizeSection_of_indexed fun entries eq => shape ⟨entries, eq⟩]
    cases value with
    | sequence items => exact absurd ⟨_, rfl⟩ shape
    | mapping entries => exact absurd ⟨_, rfl⟩ shape
    | _ => exact ⟨clean, nofun, nofun, nofun⟩

theorem Orderly.normalizeSection (orderly : Orderly value) : Orderly value.normalizeSection := by
  refine orderly_normalizeSection orderly.clean ?_
  cases value with
  | sequence items => exact absurd rfl (orderly.mapped items)
  | _ => exact orderly.plain

/-- What looks like the core is the core as it stands, or it is declared. -/
theorem Orderly.exists_isCoreEntry (orderly : Orderly (.mapping entries))
    (looks : ∃ entry ∈ entries, LooksLikeCore entry) :
    ∃ entry ∈ entries, isCoreEntry entry.1 entry.2 = true := by
  obtain ⟨entry, member, core | item⟩ := looks
  · exact ⟨entry, member, core⟩
  · have declared := orderly.declared (mem_itemNames_iff.2 ⟨entry, member, item⟩)
    obtain ⟨named, member, eq⟩ := List.mem_map.1 declared
    refine ⟨named, member, ?_⟩
    rw [isCoreEntry, eq]
    rfl

/-- No two orderly entries are carried over to one key, so that they stay in their order. -/
theorem Orderly.canonicalEntries_eq (orderly : Orderly (.mapping entries)) :
    canonicalEntries entries = carried (declaredNames entries) [] entries := by
  have apart := (clean_mapping_iff.1 orderly.clean).1
  exact Mapping.ofList_of_apart (apart_carried apart (declares_declaredNames _)
    fun name _ ⟨entry, member, item⟩ =>
      orderly.plain name (mem_itemNames_iff.2 ⟨entry, member, item⟩))

/-- The core project goes to the front if there is one. -/
theorem exists_cons_of_entriesCoreFirst
    (core : ∃ entry ∈ entries, isCoreEntry entry.1 entry.2 = true) : ∃ first rest,
      entriesCoreFirst entries = first :: rest ∧ isCoreEntry first.1 first.2 = true := by
  rw [entriesCoreFirst]
  split
  · next first found =>
    exact ⟨first, _, rfl, by simpa using List.find?_some found⟩
  · next none_ =>
    obtain ⟨entry, member, isCore⟩ := core
    exact absurd isCore (List.find?_eq_none.1 none_ entry member)

end Tree

/-- The core project is the first one, if it is there. -/
def Section.CoreFirst (projects : Section) : Prop :=
  (∃ one ∈ projects.entries, one.2.isCore one.1 = true) →
    ∃ first ∈ projects.entries.head?, first.2.isCore first.1 = true

/-- **Settled projects are read with the core in front.** -/
theorem Section.coreFirst_of_ofTree {kind : SectionKind} {projects : Section}
    (orderly : Tree.Orderly value)
    (read : ofTree kind value.projectsCoreFirst.normalizeSection = .ok projects) :
    projects.CoreFirst := by
  rintro ⟨one, member, core⟩
  cases value with
  | mapping entries =>
    have perm := entriesCoreFirst_perm entries
    have reordered : Tree.Orderly (.mapping (Tree.entriesCoreFirst entries)) :=
      Tree.orderly_projectsCoreFirst orderly
    have inside := (Tree.clean_mapping_iff.1 reordered.clean).2
    rw [Tree.projectsCoreFirst, Tree.normalizeSection_mapping,
      reordered.canonicalEntries_eq] at read
    obtain ⟨list, readList, rfl⟩ := map_eq_ok_iff.1 read
    -- What reads as the core looked like it, so some entry is the core as it stands.
    have looks : ∃ entry ∈ entries, Tree.LooksLikeCore entry := by
      obtain ⟨first, carried, readFirst⟩ := exists_entry_of_readEntries readList member
      obtain ⟨entry, given, _, _, -, carries⟩ := Tree.mem_carried carried
      obtain ⟨cleanKey, cleanValue⟩ := Tree.hereditary_clean.carries carries (inside entry given)
      exact ⟨entry, perm.mem_iff.1 given, carries.looksLikeCore (inside entry given)
        ((isCore_iff_of_readEntry cleanKey cleanValue readFirst).1 core)⟩
    obtain ⟨head, rest, eq, isCore⟩ :=
      Tree.exists_cons_of_entriesCoreFirst (orderly.exists_isCoreEntry looks)
    rw [eq] at readList inside
    obtain ⟨first, next, eq', carries⟩ := Tree.carried_cons (Tree.declaredNames (head :: rest)) []
      head rest
    rw [eq'] at readList
    obtain ⟨front, others, readFront, -, rfl⟩ := readEntries_cons readList
    have cleanHead := inside head List.mem_cons_self
    obtain ⟨cleanKey, cleanValue⟩ := Tree.hereditary_clean.carries carries cleanHead
    exact ⟨front, rfl, (isCore_iff_of_readEntry cleanKey cleanValue readFront).2
      (.inl (carries.isCoreEntry cleanHead isCore))⟩
  | sequence items => exact absurd rfl (orderly.mapped items)
  | null =>
    cases read
    exact absurd member List.not_mem_nil
  | _ => cases read

end BuildManifest
