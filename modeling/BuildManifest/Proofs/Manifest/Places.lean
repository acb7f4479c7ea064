import BuildManifest.Proofs.Manifest.Fields
import BuildManifest.Proofs.Manifest.Sections
import BuildManifest.Proofs.Manifest.Unordered
import BuildManifest.Proofs.Tree.Carried
import BuildManifest.Proofs.Tree.Paths

/-!
# Where the texts of a manifest stand

The version of the platform, the attributes of an entry that are texts and the fields of a download
that are texts are each read from one place of the tree.  Giving the tree its canonical shape moves
none of them.

## What is here

* `TextPlace` — such a place, the keys that lead to it, and what a manifest has there.
* `exists_readFrom` — the entry that is read from the attributes under a key.
* `holds_of_valueAt?` — **a manifest has the text of the scalar that stands at a place**.
-/

set_option autoImplicit false

namespace BuildManifest

open Mapping (find? Apart Distinct)

/-- A key of a section that is no digits, or an index. -/
inductive EntryKey : Tree → Prop
  | index (n : Int) : EntryKey (.number (.int n))
  | name {text : String} (plain : Text.isDigits text.toList = false) : EntryKey (.string text)

/-- The places of a tree that the texts of a manifest are read from. -/
inductive TextPlace where
  /-- The version of the platform. -/
  | core
  /-- An attribute of the entry under a key. -/
  | entry (kind : SectionKind) (key : Tree) (one : Attribute)
  /-- A field of the download of the entry under a key. -/
  | download (kind : SectionKind) (key : Tree) (field : String)

namespace TextPlace

/-- The keys that lead to a place. -/
def path : TextPlace → List Tree
  | core => [.string "core"]
  | entry kind key one => [.string kind.name, key, .string one.name]
  | download kind key field => [.string kind.name, key, .string "download", .string field]

/-- What stands there is a text, under a key that an entry can have. -/
def Valid : TextPlace → Prop
  | core => True
  | entry _ key one => EntryKey key ∧ one ∈ Attribute.texts
  | download _ key field => EntryKey key ∧ field ∈ Download.texts

/-- What a manifest has there. -/
def Holds (manifest : Manifest) (text : String) : TextPlace → Prop
  | core => manifest.core = some text
  | entry kind key one =>
    ∃ entry, (key.keyText, entry) ∈ (manifest.sectionOf kind).entries ∧ entry.textOf one = some text
  | download kind key field =>
    ∃ entry download, (key.keyText, entry) ∈ (manifest.sectionOf kind).entries ∧
      entry.download = some download ∧ download.textOf field = some text

end TextPlace

variable {tree key value : Tree} {entries attributes others : Mapping} {kind : SectionKind}
  {name text : String} {one : Attribute} {entry : Entry} {format : Option Dialect}
  {manifest : Manifest}

/-! ## Keys and scalars -/

theorem EntryKey.rigid (h : EntryKey key) : key.Rigid := by
  cases h with
  | index n => exact Tree.rigid_of_isIndexKey rfl
  | name plain => exact Tree.rigid_of_textual (Tree.textual_string _)

theorem TextPlace.Valid.rigid {place : TextPlace} (h : place.Valid) :
    ∀ key ∈ place.path, key.Rigid := by
  have named (name : String) : (Tree.string name).Rigid :=
    Tree.rigid_of_textual (Tree.textual_string name)
  cases place with
  | core => simpa [path] using named _
  | entry kind key one => simpa [path] using ⟨named _, h.1.rigid, named _⟩
  | download kind key field => simpa [path] using ⟨named _, h.1.rigid, named _, named _⟩

theorem optionalScalar?_of_scalarText? (scalar : value.scalarText? = some text) :
    value.optionalScalar? = some (some text) := by
  cases value with
  | null => cases scalar
  | _ =>
    rw [Tree.optionalScalar?, scalar]
    · rfl
    · exact nofun

/-! ## Attributes in their canonical shape -/

/-- Giving attributes their canonical shape changes only patches and a download that is no
record. -/
theorem get?_normalizeAttributes_other (distinct : Distinct attributes)
    (patch : name ≠ "patch") (patches : name ≠ "patches")
    (record : name = "download" → value.isMapping = true)
    (found : Mapping.get? attributes name = some value) :
    Mapping.get? (Tree.normalizeAttributes attributes) name = some value := by
  have textual := Tree.textual_string name
  have folded : Mapping.get? (Tree.foldPatch attributes) name = some value := by
    rw [Mapping.get?, find?_foldPatch_other textual (distinct _ textual)
      (by simpa using Ne.symm patch) (by simpa using Ne.symm patches)]
    exact found
  rw [Tree.normalizeAttributes, Tree.expandDownload]
  split
  · next url bare =>
    refine (Mapping.find?_insert_other textual fun same => ?_).trans folded
    obtain rfl := Tree.string.inj same
    rw [folded] at bare
    cases bare
    cases record rfl
  · exact folded

theorem mem_canonicalEntries (apart : Apart entries) (named : EntryKey key)
    (member : (key, .mapping attributes) ∈ entries) :
    ∃ others, (key, .mapping others) ∈ Tree.canonicalEntries entries ∧
      (others = attributes ∨ others = Tree.normalizeAttributes attributes) := by
  obtain ⟨before, after, rfl⟩ := List.append_of_mem member
  have apart := Tree.pairwise_carried [] apart (Tree.declares_declaredNames _)
  rw [Tree.canonicalEntries]
  generalize Tree.declaredNames (before ++ (key, .mapping attributes) :: after) = declared
    at apart ⊢
  obtain ⟨next, eq⟩ := Tree.carried_append declared [] before ((key, .mapping attributes) :: after)
  obtain ⟨first, next', eq', carries⟩ :=
    Tree.carried_cons declared next (key, .mapping attributes) after
  rw [eq, eq'] at apart ⊢
  obtain ⟨others, rfl, shape⟩ : ∃ others, first = (key, .mapping others) ∧
      (others = attributes ∨ others = Tree.normalizeAttributes attributes) := by
    cases carries with
    | stays index taken => exact ⟨attributes, rfl, .inl rfl⟩
    | named index text => cases text
    | expands named => exact ⟨Tree.normalizeAttributes attributes, rfl, .inr rfl⟩
  refine ⟨others, Mapping.mem_insertAll named.rigid fun entry later => ?_, shape⟩
  refine Bool.eq_false_iff.2 fun same => ?_
  -- Only a name in digits can be the key of a later entry.
  obtain ⟨name, eq, digits, -⟩ :=
    (List.pairwise_cons.1 (List.pairwise_append.1 apart).2.1).1 entry later same
  obtain rfl : key = .string name := eq
  cases named with
  | name plain =>
    rw [digits] at plain
    cases plain

/-! ## What is read from a place -/

/-- An entry is read from the attributes under its key, or from their canonical shape. -/
theorem exists_readFrom (keyed : tree.wellKeyed = true)
    (h : Manifest.ofTree tree.normalize format = .ok manifest) (named : EntryKey key)
    (found : tree.valueAt? [.string kind.name, key] = some (.mapping attributes)) :
    ∃ entry others, (key.keyText, entry) ∈ (manifest.sectionOf kind).entries ∧
      Entry.ReadFrom others entry ∧
      (others = attributes ∨ others = Tree.normalizeAttributes attributes) := by
  obtain ⟨entries, inRoot, inSection⟩ := Option.bind_eq_some_iff.1 found
  obtain ⟨current, inEntries, same⟩ := Option.bind_eq_some_iff.1 inSection
  obtain rfl : current = .mapping attributes := Option.some.inj same
  obtain ⟨root, rfl⟩ := Tree.isMapping_iff.1 (Tree.isMapping_of_valueAt? found)
  obtain ⟨entries, rfl⟩ := Tree.isMapping_iff.1 (Tree.isMapping_of_valueAt? inSection)
  have section_ := (Manifest.readFrom_of_ofTree h).sections kind
  have here : Tree.fieldOrNull (.mapping root) kind.name = .mapping entries :=
    congrArg (Option.getD · Tree.null) inRoot
  rw [Tree.fieldOrNull_normalize_section, here, Tree.normalizeSection_mapping] at section_
  obtain ⟨list, read, sectionEq⟩ := map_eq_ok_iff.1 section_
  obtain ⟨present, member, same⟩ := Mapping.exists_mem_of_find? inEntries
  obtain rfl := named.rigid present same
  have apart := (Tree.wellKeyed_mapping_iff.1 (Tree.wellKeyed_of_find? keyed inRoot)).1
  obtain ⟨others, inCanonical, shape⟩ := mem_canonicalEntries apart named member
  obtain ⟨one, inList, readOne⟩ := exists_mem_of_readEntries read inCanonical
  have readFrom := Entry.readFrom_of_ofMapping (ofMapping_of_readEntry readOne)
  obtain ⟨name, entry⟩ := one
  obtain rfl : name = present.keyText := by
    rw [Section.readEntry] at readOne
    split at readOne <;> cases readOne
    rfl
  rw [← sectionEq]
  exact ⟨entry, others, inList, readFrom, shape⟩

/-- An entry has what stands under the name of an attribute below its key. -/
theorem exists_readsAs (keyed : tree.wellKeyed = true)
    (h : Manifest.ofTree tree.normalize format = .ok manifest) (named : EntryKey key)
    (known : Attribute.ofName? one.name = some one) (patches : one ≠ .patches)
    (record : one = .download → value.isMapping = true)
    (found : tree.valueAt? [.string kind.name, key, .string one.name] = some value) :
    ∃ entry, (key.keyText, entry) ∈ (manifest.sectionOf kind).entries ∧
      one.ReadsAs value entry := by
  obtain ⟨entries, inRoot, inSection⟩ := Option.bind_eq_some_iff.1 found
  obtain ⟨current, inEntries, inAttributes⟩ := Option.bind_eq_some_iff.1 inSection
  obtain ⟨attributes, rfl⟩ := Tree.isMapping_iff.1 (Tree.isMapping_of_valueAt? inAttributes)
  have above : tree.valueAt? [.string kind.name, key] = some (.mapping attributes) := by
    rw [Tree.valueAt?, inRoot, Option.bind_some, Tree.valueAt?, inEntries]
    rfl
  obtain ⟨current, given, same⟩ := Option.bind_eq_some_iff.1 inAttributes
  obtain rfl : current = value := Option.some.inj same
  obtain ⟨entry, others, member, from_, shape⟩ := exists_readFrom keyed h named above
  have given' : Mapping.get? others one.name = some current := by
    rcases shape with rfl | rfl
    · exact given
    · have distinct := Mapping.distinct_of_apart
        (Tree.wellKeyed_mapping_iff.1 (Tree.wellKeyed_of_valueAt? keyed above)).1
      refine get?_normalizeAttributes_other distinct ?_ ?_ (fun name => record ?_) given
      · cases one <;> decide
      · cases one <;> first | decide | exact absurd rfl patches
      · cases one <;> first | rfl | exact absurd name (by decide)
  have read := from_.fields one
  rw [Entry.given?_of_mem from_.once (Mapping.mem_of_find? (Tree.textual_string _) given') known]
    at read
  exact ⟨entry, member, read⟩

theorem textOf_of_readsAs (text_ : one ∈ Attribute.texts) (reads : one.ReadsAs value entry)
    (scalar : value.scalarText? = some text) : entry.textOf one = some text := by
  have optional := optionalScalar?_of_scalarText? scalar
  have eq {field : Option String} (read : readText value = .ok field) : field = some text := by
    have given := Entry.optionalScalar?_of_readText read
    rw [optional] at given
    exact (Option.some.inj given).symm
  cases one with
  | download => exact absurd text_ (by decide)
  | patches => exact absurd text_ (by decide)
  | workingCopy => exact absurd text_ (by decide)
  | _ => exact eq reads

/-- A record has what stands under the name of a field. -/
theorem value_of_get? {names : List String} (record : Fields.areRecord names attributes = true)
    (known : name ∈ names) (found : Mapping.get? attributes name = some value) :
    Fields.value names attributes name = value := by
  have member := Mapping.mem_of_find? (Tree.textual_string _) found
  rw [Fields.areRecord, Bool.and_eq_true, List.all_eq_true, List.all_eq_true] at record
  have short := of_decide_eq_true (record.2 name known)
  have inside : value ∈ Fields.values names attributes name :=
    List.mem_filterMap.2 ⟨_, member, by simp [Fields.standsFor]⟩
  rw [Fields.value]
  generalize Fields.values names attributes name = values at short inside
  match values, short, inside with
  | [one], _, inside => exact (List.mem_singleton.1 inside).symm

/-- A download has what stands under the name of a text field. -/
theorem textOf_of_ofRecord? {download : Download}
    (read : Download.ofRecord? attributes = some download) (text_ : name ∈ Download.texts)
    (found : Mapping.get? attributes name = some value) (scalar : value.scalarText? = some text) :
    download.textOf name = some text := by
  rw [Download.ofRecord?] at read
  split at read
  · next record =>
    have field := value_of_get? record
      ((by decide : ∀ name ∈ Download.texts, name ∈ Download.fieldNames) name text_) found
    have optional := optionalScalar?_of_scalarText? scalar
    rw [← field] at optional
    obtain ⟨kind, -, read⟩ := Option.bind_eq_some_iff.1 read
    obtain ⟨url, readUrl, read⟩ := Option.bind_eq_some_iff.1 read
    obtain ⟨branch, readBranch, read⟩ := Option.bind_eq_some_iff.1 read
    obtain ⟨tag, readTag, read⟩ := Option.bind_eq_some_iff.1 read
    obtain ⟨revision, readRevision, read⟩ := Option.bind_eq_some_iff.1 read
    cases read
    rw [Download.texts] at text_
    simp only [List.mem_cons, List.not_mem_nil, or_false] at text_
    rcases text_ with rfl | rfl | rfl | rfl
    · exact Option.some.inj (readUrl.symm.trans optional)
    · exact Option.some.inj (readBranch.symm.trans optional)
    · exact Option.some.inj (readTag.symm.trans optional)
    · exact Option.some.inj (readRevision.symm.trans optional)
  · cases read

/-- The platform has the version that stands under its name. -/
theorem core_of_valueAt? (h : Manifest.ofTree tree.normalize format = .ok manifest)
    (found : tree.valueAt? [.string "core"] = some value) (scalar : value.scalarText? = some text) :
    manifest.core = some text := by
  have read := (Manifest.readFrom_of_ofTree h).core
  obtain ⟨current, inRoot, same⟩ := Option.bind_eq_some_iff.1 found
  obtain rfl : current = value := Option.some.inj same
  obtain ⟨root, rfl⟩ := Tree.isMapping_iff.1 (Tree.isMapping_of_valueAt? found)
  have here : Tree.fieldOrNull (.mapping root) "core" = current :=
    congrArg (Option.getD · Tree.null) inRoot
  rw [Tree.fieldOrNull, Tree.field?_normalize_other _ (by decide), ← Tree.fieldOrNull, here,
    Manifest.readCore, optionalScalar?_of_scalarText? scalar] at read
  exact (Except.ok.inj read).symm

/-- The download of an entry has what stands under the name of a text field in its record. -/
theorem exists_download_of_valueAt? {field : String} (keyed : tree.wellKeyed = true)
    (h : Manifest.ofTree tree.normalize format = .ok manifest) (named : EntryKey key)
    (text_ : field ∈ Download.texts)
    (found : tree.valueAt? [.string kind.name, key, .string "download", .string field] = some value)
    (scalar : value.scalarText? = some text) :
    ∃ entry download, (key.keyText, entry) ∈ (manifest.sectionOf kind).entries ∧
      entry.download = some download ∧ download.textOf field = some text := by
  obtain ⟨fields, above, below⟩ : ∃ fields,
      tree.valueAt? [.string kind.name, key, .string "download"] = some fields ∧
        fields.valueAt? [.string field] = some value := by
    rw [← Option.bind_eq_some_iff, ← Tree.valueAt?_append]
    exact found
  obtain ⟨fields, rfl⟩ := Tree.isMapping_iff.1 (Tree.isMapping_of_valueAt? below)
  obtain ⟨current, given, same⟩ := Option.bind_eq_some_iff.1 below
  obtain rfl : current = value := Option.some.inj same
  have known : Attribute.ofName? Attribute.download.name = some .download := rfl
  obtain ⟨entry, member, reads⟩ := exists_readsAs keyed h named known (by decide) (fun _ => rfl)
    above
  obtain ⟨download, read, eq⟩ := map_eq_ok_iff.1 reads
  refine ⟨entry, download, member, eq.symm, ?_⟩
  rw [Download.ofTree] at read
  split at read
  · cases read
  · split at read
    · next record =>
      cases read
      exact textOf_of_ofRecord? record text_ given scalar
    · cases read

/-- **A manifest has the text of the scalar that stands at a place.** -/
theorem holds_of_valueAt? {place : TextPlace} (keyed : tree.wellKeyed = true)
    (h : Manifest.ofTree tree.normalize format = .ok manifest) (valid : place.Valid)
    (found : tree.valueAt? place.path = some value) (scalar : value.scalarText? = some text) :
    place.Holds manifest text := by
  cases place with
  | core => exact core_of_valueAt? h found scalar
  | entry kind key one =>
    obtain ⟨named, text_⟩ := valid
    have known : Attribute.ofName? one.name = some one := Attribute.ofName?_name text_
    obtain ⟨entry, member, reads⟩ := exists_readsAs keyed h named known
      (fun eq => absurd text_ (by rw [eq]; decide)) (fun eq => absurd text_ (by rw [eq]; decide))
      found
    exact ⟨entry, member, textOf_of_readsAs text_ reads scalar⟩
  | download kind key field =>
    exact exists_download_of_valueAt? keyed h valid.1 valid.2 found scalar

end BuildManifest
