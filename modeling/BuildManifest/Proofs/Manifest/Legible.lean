import BuildManifest.Proofs.Manifest.Fields
import BuildManifest.Proofs.Manifest.Sections
import BuildManifest.Proofs.Manifest.Unordered

/-!
# Manifests that a text can give

A manifest can hold more than a text can say: a download of a kind whose name has blanks around it,
a checkout without an address, an attribute that is not interpreted under the name of one that is.
Reading gives none of that.

## What is here

* `Download.Legible`, `Entry.Legible`, `Reference.Legible`, `Manifest.Legible` — what reading can
  give.
* `Manifest.legible_of_ofTree` — **what is read is legible**, whatever it is read from.
-/

set_option autoImplicit false

namespace BuildManifest

variable {entries : Mapping} {tree value : Tree}

/-! ## Downloads -/

/-- The kind goes by its own name. -/
def DownloadKind.Legible (kind : DownloadKind) : Prop := ofText kind.text = kind

instance (kind : DownloadKind) : Decidable kind.Legible :=
  inferInstanceAs (Decidable (DownloadKind.ofText kind.text = kind))

/-- The word that a text comes down to. -/
def DownloadKind.wordOf (text : String) : String := (Text.trimmed text).map Char.toLower

theorem DownloadKind.ofText_eq (text : String) :
    ofText text = if fileWords.contains (wordOf text) then .file else .checkout (wordOf text) := rfl

/-- Trimming and lower case are for good. -/
theorem DownloadKind.wordOf_wordOf (text : String) : wordOf (wordOf text) = wordOf text := by
  refine String.toList_injective ?_
  have bare := Text.bare_map Text.isBlank_toLower (Text.bare_trim text.toList)
  simp only [wordOf, Text.trimmed, String.toList_map, String.toList_ofList]
  rw [Text.trim_eq_self bare, List.map_map]
  exact congrArg (List.map · _) (funext Text.toLower_toLower)

/-- **The word for a kind names it again.** -/
theorem DownloadKind.legible_ofText (text : String) : (ofText text).Legible := by
  rw [Legible, ofText_eq text]
  by_cases file : fileWords.contains (wordOf text) = true
  · rw [if_pos file]
    decide +kernel
  · rw [if_neg file, DownloadKind.text, ofText_eq, wordOf_wordOf, if_neg file]

/-- The kind of the download goes by its own name. -/
def Download.Legible (download : Download) : Prop := ∀ kind ∈ download.kind, kind.Legible

theorem Download.legible_of_ofTree {download : Download} (h : ofTree tree = .ok download) :
    download.Legible := by
  have record {entries : Mapping} (h : ofRecord? entries = some download) : download.Legible := by
    rw [ofRecord?] at h
    split at h
    · simp only [Option.bind_eq_bind, Option.bind_eq_some_iff] at h
      obtain ⟨kind, -, url, -, branch, -, tag, -, revision, -, h⟩ := h
      cases h
      intro kind' member
      obtain ⟨text, -, rfl⟩ := Option.map_eq_some_iff.1 member
      exact DownloadKind.legible_ofText text
    · cases h
  rw [ofTree] at h
  split at h
  · cases h
  · split at h
    · next given read =>
      cases h
      rw [ofUntagged?.eq_def] at read
      split at read
      · cases read
        exact nofun
      · exact record read
      · split at read
        · exact record read
        · cases read
      · cases read
    · cases h

/-! ## Entries -/

/-- What reading can give as an entry. -/
structure Entry.Legible (entry : Entry) : Prop where
  /-- The kind of its download goes by its own name. -/
  download : ∀ download ∈ entry.download, download.Legible
  /-- Attributes that are not interpreted have plain names, none of an interpreted one, and no
  tags. -/
  extra : ∀ pair ∈ entry.extra, ∃ name, pair.1 = .string name ∧
    Attribute.ofName? name = none ∧ pair.2.hasTag = false
  /-- No two of them have one name. -/
  apart : entry.extra.Pairwise fun a b => a.1 ≠ b.1

theorem Entry.legible_empty : Entry.Legible {} := ⟨nofun, nofun, List.Pairwise.nil⟩

theorem Entry.legible_ofVersion (version : String) : (ofVersion version).Legible :=
  ⟨nofun, nofun, List.Pairwise.nil⟩

theorem Entry.legible_of_ofMapping {entry : Entry} (h : ofMapping entries = .ok entry) :
    entry.Legible := by
  have from_ := readFrom_of_ofMapping h
  refine ⟨fun download member => ?_, fun pair member => ?_, from_.extra ▸ from_.apart⟩
  · have read : readDownload _ = .ok entry.download := from_.fields .download
    rw [member, readDownload.eq_def] at read
    split at read
    · cases read
    · obtain ⟨given, read, same⟩ := map_eq_ok_iff.1 read
      cases same
      exact Download.legible_of_ofTree read
  · rw [from_.extra] at member
    obtain ⟨given, inside, eq⟩ := List.mem_filterMap.1 member
    obtain ⟨inside, unknown⟩ := List.mem_filter.1 inside
    obtain ⟨name, text, untagged⟩ := from_.named given inside
    rw [text] at eq
    cases eq
    have unknown : Attribute.ofName? name = none := by
      simpa [slot?, text] using unknown
    exact ⟨name, rfl, unknown, untagged unknown⟩

theorem Entry.legible_of_ofTree {entry : Entry} (h : ofTree tree = .ok entry) :
    entry.Legible := by
  rw [ofTree] at h
  split at h
  · cases h
    exact legible_empty
  · exact legible_of_ofMapping h
  · cases h

/-! ## Sections, references and defaults -/

/-- Every entry of the section is one that reading can give. -/
def Section.Legible (s : Section) : Prop := ∀ one ∈ s.entries, one.2.Legible

theorem Section.legible_of_readEntry {key : Tree} {one : String × Entry}
    (h : readEntry key value = .ok one) : one.2.Legible := by
  rw [readEntry.eq_def] at h
  split at h
  · split at h
    · next given =>
      rw [← Except.ok.inj h]
      exact Entry.legible_of_ofMapping given
    · cases h
  · rw [← Except.ok.inj h]
    exact Entry.legible_empty
  · split at h
    · cases h
    · next text _ =>
      rw [← Except.ok.inj h]
      split
      · exact Entry.legible_empty
      · exact Entry.legible_ofVersion text

theorem Section.legible_of_ofTree {kind : SectionKind} {s : Section}
    (h : ofTree kind tree = .ok s) : s.Legible := by
  rw [ofTree] at h
  split at h
  · rw [← Except.ok.inj h]
    exact fun _ member => nomatch member
  · obtain ⟨list, read, rfl⟩ := map_eq_ok_iff.1 h
    intro one member
    obtain ⟨entry, -, read⟩ := exists_entry_of_readEntries read member
    exact legible_of_readEntry read
  · cases h

/-- A checkout has an address, and a kind that goes by its own name. -/
def Reference.Legible : Reference → Prop
  | .plain _ => True
  | .checkout _ download => download.url.isSome = true ∧ download.Legible

theorem Reference.legible_of_ofTree {reference : Reference} (h : ofTree tree = .ok reference) :
    reference.Legible := by
  rw [ofTree.eq_def] at h
  split at h
  · cases h
    trivial
  · rw [ofMapping] at h
    split at h
    · cases h
    · split at h
      · cases h
      · split at h
        · cases h
        · next download read =>
          split at h
          · cases h
          · next given =>
            cases h
            exact ⟨by simpa [Option.isSome_iff_ne_none] using given,
              Download.legible_of_ofTree read⟩
  · cases h

theorem Reference.legible_of_listOfTree {references : List Reference}
    (h : listOfTree tree = .ok references) : ∀ one ∈ references, one.Legible := by
  have all {items : List Tree} {references : List Reference}
      (h : readAll items = .ok references) : ∀ one ∈ references, one.Legible := by
    induction items generalizing references with
    | nil =>
      cases h
      exact nofun
    | cons item rest ih =>
      obtain ⟨first, read, h⟩ := bind_eq_ok_iff.1 h
      obtain ⟨others, readRest, h⟩ := bind_eq_ok_iff.1 h
      cases h
      exact List.forall_mem_cons.2 ⟨legible_of_ofTree read, ih readRest⟩
  rw [listOfTree.eq_def] at h
  split at h
  · cases h
    exact nofun
  · cases h
    exact List.forall_mem_singleton.2 trivial
  · exact all h
  · exact all h
  · cases h

namespace Manifest

theorem legible_of_readReferences {references : List Reference}
    (h : readReferences tree = .ok references) : ∀ one ∈ references, one.Legible := by
  rw [readReferences] at h
  split at h
  · next read =>
    cases h
    exact Reference.legible_of_listOfTree read
  · cases h

/-- The defaults of every section are read as an entry. -/
theorem forall_mem_of_readDefaults {good : Entry → Prop} {defaults : Labelled Entry}
    (h : readDefaults tree = .ok defaults)
    (each : ∀ entries, tree = .mapping entries → ∀ pair ∈ entries, ∀ entry,
      Entry.ofTree pair.2 = .ok entry → good entry) : ∀ one ∈ defaults.entries, good one.2 := by
  have all {done defaults : Labelled Entry} {entries : Mapping}
      (each : ∀ pair ∈ entries, ∀ entry, Entry.ofTree pair.2 = .ok entry → good entry)
      (before : ∀ one ∈ done.entries, good one.2)
      (h : readSectionDefaults done entries = .ok defaults) :
      ∀ one ∈ defaults.entries, good one.2 := by
    induction entries generalizing done with
    | nil =>
      cases h
      exact before
    | cons first rest ih =>
      obtain ⟨key, value⟩ := first
      obtain ⟨here, later⟩ := List.forall_mem_cons.1 each
      rw [readSectionDefaults] at h
      split at h
      · next entry read =>
        refine ih later (fun one member => ?_) h
        rcases Labelled.mem_place member with rfl | old
        · exact here _ read
        · exact before one old
      · cases h
  have nothing : ∀ one ∈ (Labelled.empty : Labelled Entry).entries, good one.2 :=
    fun _ member => nomatch member
  rw [readDefaults.eq_def] at h
  split at h
  · rwa [← Except.ok.inj h]
  · next entries => exact all (each entries rfl) nothing h
  · cases h

theorem legible_of_readDefaults {defaults : Labelled Entry}
    (h : readDefaults tree = .ok defaults) : ∀ one ∈ defaults.entries, one.2.Legible :=
  forall_mem_of_readDefaults h fun _ _ _ _ _ read => Entry.legible_of_ofTree read

theorem lt_of_readApi {version : Nat} (h : readApi tree = .ok (some version)) :
    version < versionBound := by
  have below {bound : Nat} {text : List Char} (h : Text.readNatBelow bound text = some version) :
      version < bound := by
    simpa using (Option.filter_eq_some_iff.1 h).2
  rw [readApi.eq_def] at h
  split at h
  · cases h
  · split at h
    · next given read =>
      cases h
      rw [apiVersion?.eq_def] at read
      split at read
      · simpa using (Option.filter_eq_some_iff.1 read).2
      · exact below read
      · cases read
    · cases h

/-- What reading can give as a manifest. -/
structure Legible (manifest : Manifest) : Prop where
  /-- The version of the format is a number that can be read. -/
  api : ∀ version ∈ manifest.api, version < versionBound
  /-- Every entry is one that can be read. -/
  sections : ∀ kind, (manifest.sectionOf kind).Legible
  /-- Every reference is one that can be read. -/
  includes : ∀ one ∈ manifest.includes, one.Legible
  /-- Every reference is one that can be read. -/
  overrides : ∀ one ∈ manifest.overrides, one.Legible
  /-- The defaults of every section are ones that can be read. -/
  defaults : ∀ one ∈ manifest.defaults.entries, one.2.Legible

/-- **What is read is legible**, whatever it is read from. -/
theorem legible_of_ofTree {format : Option Dialect} {manifest : Manifest}
    (h : ofTree tree format = .ok manifest) : manifest.Legible := by
  have from_ := readFrom_of_ofTree h
  refine ⟨fun version member => ?_, fun kind => Section.legible_of_ofTree (from_.sections kind),
    legible_of_readReferences from_.includes, legible_of_readReferences from_.overrides,
    legible_of_readDefaults from_.defaults⟩
  have read := from_.api
  rw [member] at read
  exact lt_of_readApi read

end Manifest

end BuildManifest
