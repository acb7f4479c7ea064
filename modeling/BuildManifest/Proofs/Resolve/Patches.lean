import BuildManifest.Proofs.Manifest.Labels
import BuildManifest.Proofs.Resolve.Decodable

/-!
# Which patches an entry gets

The patches of an entry are those of the manifests that give it some, laid one over the other.
Manifests that give them label by label lose none of them, and of two patches of one label the
upper one counts, except that a record does not take away a checksum it does not give.  A manifest
that gives them as a whole, as a list or a bare address, discards those below it, and its own are
discarded by the patches above it, whatever their labels are.

## What is here

* `Manifest.patchOf`, `ownPatches` — the patch of a label, and the patches that a manifest has
  itself.
* `PatchedSection`, `measured_patches` — what one step of merging makes of the patches of an entry.
* `get_fold_eq_none_iff` — no label is lost.
* `patchOf_loadManifest` — **the loaded manifest has the patches of its manifests, laid one over
  the other**.
-/

set_option autoImplicit false

namespace BuildManifest

open Load
open Mapping (Once)

variable {attributes rest : Mapping} {section_ base top value : Tree} {kind : SectionKind}
  {name label : String}

/-! ## The patches of an entry -/

namespace Entry

variable {entry next result : Entry} {seen : List Attribute} {one : Attribute}

theorem patches_withAttribute_other (ne : one ≠ .patches)
    (h : entry.withAttribute value one = .ok next) : next.patches = entry.patches := by
  cases one with
  | patches => exact absurd rfl ne
  | _ =>
    obtain ⟨_, -, rfl⟩ := map_eq_ok_iff.1 h
    rfl

theorem patches_withExtra (h : entry.withExtra name value = .ok next) :
    next.patches = entry.patches := by
  rw [withExtra] at h
  split at h
  · cases h
  · cases h
    rfl

/-- Where `patch` is refused, patches are read from `patches`, if they have not been read before. -/
theorem patches_of_readAttributes (fit : AttributesFit "patch" attributes)
    (h : readAttributes entry seen attributes = .ok result) :
    Mapping.get? attributes "patches" = none ∧ result.patches = entry.patches ∨
    ∃ value, Mapping.get? attributes "patches" = some value ∧
      Patch.allOfTree value = .ok result.patches := by
  induction attributes generalizing entry seen with
  | nil =>
    cases h
    exact .inl ⟨rfl, rfl⟩
  | cons first rest ih =>
    obtain ⟨key, value⟩ := first
    obtain ⟨given, rfl, ne, -⟩ := fit.fits _ List.mem_cons_self
    have others : AttributesFit "patch" rest :=
      ⟨fun other => (Mapping.once_cons.1 (fit.once other)).2,
        fun pair member => fit.fits pair (List.mem_cons_of_mem _ member)⟩
    rw [Mapping.get?, Mapping.find?_cons, ← Mapping.get?]
    by_cases same : given = "patches"
    · subst same
      have absent : Mapping.get? rest "patches" = none :=
        (Mapping.find?_eq_none_iff (Tree.textual_string _)).2
          ((Mapping.once_cons.1 (fit.once "patches")).1 rfl)
      rw [if_pos ((Tree.same_iff_of_textual (Tree.textual_string _)).2 rfl)]
      -- Nothing that follows is read as patches, so these stay.
      refine .inr ⟨value, rfl, ?_⟩
      rcases readAttributes_cons h with
        ⟨_, one, next, ⟨⟩, known, -, read, h⟩ | ⟨_, _, ⟨⟩, unknown, -, -⟩
      · cases known
        obtain ⟨patches, given, rfl⟩ := map_eq_ok_iff.1 read
        rcases ih others h with ⟨-, eq⟩ | ⟨_, found, -⟩
        · rw [eq]
          exact given
        · rw [absent] at found
          cases found
      · cases unknown
    · rw [if_neg fun eq => same (Tree.string.inj
        ((Tree.same_iff_of_textual (Tree.textual_string _)).1 eq)).symm]
      rcases readAttributes_cons h with
        ⟨_, one, next, ⟨⟩, known, -, read, h⟩ | ⟨_, next, ⟨⟩, -, read, h⟩
      · have ne : one ≠ .patches := by
          rintro rfl
          have canonical := Attribute.ofName?_eq_some_iff.1 known
          rw [canonicalName, if_neg ne] at canonical
          exact same canonical
        rw [← patches_withAttribute_other ne read]
        exact ih others h
      · rw [← patches_withExtra read]
        exact ih others h

theorem allOfTree_of_ofMapping (fit : AttributesFit "patch" attributes)
    (h : ofMapping attributes = .ok entry) :
    Patch.allOfTree (fieldValue attributes "patches") = .ok entry.patches := by
  rcases patches_of_readAttributes fit (readAttributes_of_ofMapping h) with
    ⟨none_, eq⟩ | ⟨value, found, read⟩
  · rw [fieldValue, none_, eq]
    rfl
  · rw [fieldValue, found]
    exact read

end Entry

/-! ## The patches in a section -/

/-- The patches that a section gives to a name, before they are read. -/
def Tree.patchesOf (section_ : Tree) (name : String) : Tree :=
  fieldValue ((entryOf (some section_) name).getD []) "patches"

theorem mem_topEntries_of_entryOf (h : entryOf (some section_) name = some attributes) :
    (.string name, .mapping attributes) ∈ section_.topEntries := by
  obtain ⟨value, found, eq⟩ : ∃ value, (attributesOf (some section_)).bind (Mapping.get? · name) =
      some value ∧ value = .mapping attributes := by
    rw [entryOf] at h
    generalize (attributesOf (some section_)).bind (Mapping.get? · name) = found at h
    rw [attributesOf.eq_def] at h
    split at h
    · cases h
      exact ⟨_, rfl, rfl⟩
    · cases h
  subst eq
  cases section_ with
  | mapping entries => exact Mapping.mem_of_find? (Tree.textual_string name) found
  | _ => cases found

theorem attributesFit_of_entryOf (fits : SectionFits "patch" section_)
    (h : entryOf (some section_) name = some attributes) : AttributesFit "patch" attributes := by
  have member := mem_topEntries_of_entryOf h
  cases fits with
  | null => exact nomatch member
  | entries fit =>
    have fits := fit _ member
    rw [EntryFits, refusedUnder, ite_self] at fits
    exact fits

theorem patchesFit_fieldValue (fit : AttributesFit "patch" attributes) :
    PatchesFit (fieldValue attributes "patches") := by
  rw [fieldValue]
  cases found : Mapping.get? attributes "patches" with
  | none => exact Tree.plainPatches_null.fits
  | some value =>
    obtain ⟨name, eq, -, fits⟩ :=
      fit.fits _ (Mapping.mem_of_find? (Tree.textual_string "patches") found)
    obtain rfl := Tree.string.inj eq
    obtain ⟨reads, named⟩ : Attribute.patches.Fits value := fits
    exact ⟨reads, named⟩

theorem fieldValue_normalizeAttributes (fit : AttributesFit "patch" attributes) :
    fieldValue (Tree.normalizeAttributes attributes) "patches" =
      fieldValue attributes "patches" := by
  rw [Tree.normalizeAttributes, foldPatch_eq_self fit, Tree.expandDownload]
  split
  · rw [fieldValue, Mapping.get?, Mapping.find?_insert_other (Tree.textual_string _) (by simp)]
    rfl
  · rfl

/-- A section in its canonical shape that can be read and laid on others, with the patches of a
name. -/
structure PatchedSection (name : String) (section_ : Tree) : Prop where
  /-- It is in its canonical shape. -/
  settled : Settled (some section_)
  /-- It can be read and laid on others. -/
  fits : SectionFits "patch" section_
  /-- The patches of the name can be read and laid on others. -/
  patches : (section_.patchesOf name).PlainPatches

/-- **One section on another.** -/
theorem patchesOf_merge (below : PatchedSection name base) (above : PatchedSection name top) :
    (base.merge top).patchesOf name = (base.patchesOf name).merge (top.patchesOf name) := by
  have layers := entryOf_layered below.settled above.settled name
  rw [Mapping.layered] at layers
  rw [Tree.patchesOf, Tree.patchesOf, Tree.patchesOf, layers]
  cases found : entryOf (some top) name with
  | none => exact (Tree.merge_null_right _).symm
  | some attributes =>
    cases entryOf (some base) name with
    | none => exact (Tree.merge_null_left _).symm
    | some others =>
      exact fieldValue_mergeEntries ((attributesFit_of_entryOf above.fits found).once "patches")

theorem patchedSection_merge (below : PatchedSection name base) (above : PatchedSection name top) :
    PatchedSection name (base.merge top) := by
  refine ⟨settled_layered below.settled above.settled,
    sectionFits_merge below.fits above.fits, ?_⟩
  rw [patchesOf_merge below above]
  exact Tree.plainPatches_merge below.patches above.patches

theorem settled_settledUnder (kind : SectionKind) (settled : Settled (some section_)) :
    Settled (some (Tree.settledUnder (.string kind.name) section_)) := by
  cases kind with
  | projects => exact settled_normalizeSection (settled_projectsCoreFirst settled)
  | libraries => exact settled_normalizeSection settled

/-- Settling normalizes the attributes of a name. -/
theorem entryOf_settledUnder (kind : SectionKind) (settled : Settled (some section_))
    (name : String) : entryOf (some (Tree.settledUnder (.string kind.name) section_)) name =
      (entryOf (some section_) name).map Tree.normalizeAttributes := by
  cases kind with
  | projects =>
    rw [← entryOf_projectsCoreFirst settled name]
    exact entryOf_normalizeSection (settled_projectsCoreFirst settled) name
  | libraries => exact entryOf_normalizeSection settled name

/-- **Settling a section** does not change the patches of a name. -/
theorem patchesOf_settledUnder (kind : SectionKind) (h : PatchedSection name section_) :
    (Tree.settledUnder (.string kind.name) section_).patchesOf name =
      section_.patchesOf name := by
  rw [Tree.patchesOf, entryOf_settledUnder kind h.settled, Tree.patchesOf]
  cases found : entryOf (some section_) name with
  | none => rfl
  | some attributes => exact fieldValue_normalizeAttributes (attributesFit_of_entryOf h.fits found)

theorem closed_patchedSection (kind : SectionKind) (name : String) :
    Closed kind.name (PatchedSection name) where
  null := ⟨.null, .null, Tree.plainPatches_null⟩
  merge := patchedSection_merge
  settled h := by
    refine ⟨settled_settledUnder kind h.settled,
      (closed_sectionFits "patch" kind).settled h.fits, ?_⟩
    rw [patchesOf_settledUnder kind h]
    exact h.patches

/-- **What one step of merging makes of the patches of a name.** -/
theorem measured_patches (kind : SectionKind) (name : String) :
    Measured kind.name (PatchedSection name) PatchLayer.merge .unset
      fun section_ => (section_.patchesOf name).patchLayer where
  null := rfl
  lay_nothing := PatchLayer.merge_unset_left
  merge below above := by
    rw [patchesOf_merge below above]
    exact Tree.patchLayer_merge below.patches above.patches
  settled h := by rw [patchesOf_settledUnder kind h]

/-- **What is read for a name** has the patches that the section gives to it. -/
theorem patches_of_ofTree (h : PatchedSection name section_) {result : Section}
    (read : Section.ofTree kind section_ = .ok result) (label : String) :
    (result.get? name).bind (·.patches.get? label) = (section_.patchesOf name).patchAt label := by
  rcases get?_of_ofTree h.settled read name with
    ⟨none_, absent⟩ | ⟨attributes, entry, found, present, readEntry⟩
  · rw [absent, Tree.patchesOf, none_]
    rfl
  · have reads := Entry.allOfTree_of_ofMapping (attributesFit_of_entryOf h.fits found) readEntry
    rw [present, Tree.patchesOf, found, Tree.patchAt, Option.getD_some, reads]
    rfl

/-! ## The patches of a manifest -/

/-- The patch of a label of an entry. -/
def Manifest.patchOf (manifest : Manifest) (kind : SectionKind) (name label : String) :
    Option Patch :=
  ((manifest.sectionOf kind).get? name).bind (·.patches.get? label)

/-- The patches that a manifest gives to an entry itself, as it is read on its own. -/
def ownPatches (kind : SectionKind) (name : String) (read : Tree) (dialect : Dialect) :
    PatchLayer :=
  match Manifest.ofTree read.normalize (some dialect) with
  | .ok manifest =>
    .ofShape ((read.normalize.fieldOrNull kind.name).patchesOf name) (manifest.patchOf kind name)
  | .error _ => .unset

/-- The attributes under a key are plain, and so are the labels of their patches. -/
structure PlainEntry (entry : Tree × Tree) : Prop where
  /-- The attributes are plain. -/
  attributes : PlainAttributes entry.2.topEntries
  /-- The labels are given in one way only, none of them twice. -/
  labels : PlainLabels (fieldValue entry.2.topEntries "patches").topEntries

instance (entry : Tree × Tree) : Decidable (PlainEntry entry) :=
  decidable_of_iff (PlainAttributes entry.2.topEntries ∧
      PlainLabels (fieldValue entry.2.topEntries "patches").topEntries)
    ⟨fun h => ⟨h.1, h.2⟩, fun h => ⟨h.attributes, h.labels⟩⟩

/-- A manifest that can be read on its own and is written plainly, down to the labels of its
patches. -/
structure PlainlyWritten (read : Tree) (dialect : Dialect) : Prop where
  /-- It can be read, and writes its sections plainly. -/
  plain : PlainManifest read dialect
  /-- Its entries are plain. -/
  entries : ∀ kind : SectionKind,
    ∀ entry ∈ (read.normalize.fieldOrNull kind.name).topEntries, PlainEntry entry

instance (read : Tree) (dialect : Dialect) : Decidable (PlainlyWritten read dialect) :=
  decidable_of_iff (PlainManifest read dialect ∧
      (∀ entry ∈ (read.normalize.fieldOrNull "projects").topEntries, PlainEntry entry) ∧
      ∀ entry ∈ (read.normalize.fieldOrNull "libraries").topEntries, PlainEntry entry)
    ⟨fun h => ⟨h.1, fun | .projects => h.2.1 | .libraries => h.2.2⟩,
      fun h => ⟨h.plain, h.entries .projects, h.entries .libraries⟩⟩

variable {read : Tree} {dialect : Dialect} {manifest : Manifest}

theorem PlainlyWritten.patchedSection (plainly : PlainlyWritten read dialect)
    (rooted : read.Rooted) (kind : SectionKind) (name : String) :
    PatchedSection name (read.normalize.fieldOrNull kind.name) := by
  obtain ⟨manifest, readable⟩ := plainly.plain.readable
  have settled : Settled (some (read.normalize.fieldOrNull kind.name)) := by
    have shaped := (shaped_normalize plainly.plain rooted kind).settled
    rw [Tree.fieldOrNull]
    cases found : read.normalize.field? kind.name with
    | none => exact .null
    | some value =>
      rw [found] at shaped
      exact shaped
  have fits : SectionFits "patch" (read.normalize.fieldOrNull kind.name) := by
    have readSection := (Manifest.readFrom_of_ofTree readable).sections kind
    have entries := plainly.entries kind
    rw [Tree.fieldOrNull_normalize_section] at readSection entries settled ⊢
    -- A section in its canonical shape has no indices, so no word is refused under one.
    refine sectionFits_of_ofTree (fun entry member => ⟨(entries entry member).attributes,
      fun index => ?_⟩) readSection
    generalize (read.fieldOrNull kind.name).normalizeSection = section_ at settled member
    cases settled with
    | null => exact absurd member List.not_mem_nil
    | entries settled =>
      obtain ⟨name, eq, noIndex⟩ := settled.names _ (List.mem_map_of_mem member)
      rw [eq, Tree.isIndexKey, noIndex] at index
      cases index
  refine ⟨settled, fits, ?_⟩
  rw [Tree.patchesOf]
  cases found : entryOf (some (read.normalize.fieldOrNull kind.name)) name with
  | none => exact Tree.plainPatches_null
  | some attributes =>
    exact ⟨patchesFit_fieldValue (attributesFit_of_entryOf fits found),
      (plainly.entries kind _ (mem_topEntries_of_entryOf found)).labels⟩

theorem patchOf_of_ofTree {tree : Tree} {format : Option Dialect}
    (h : PatchedSection name (tree.fieldOrNull kind.name))
    (readable : Manifest.ofTree tree format = .ok manifest) (label : String) :
    manifest.patchOf kind name label =
      ((tree.fieldOrNull kind.name).patchesOf name).patchLayer.get label := by
  rw [Tree.get_patchLayer]
  exact patches_of_ofTree h ((Manifest.readFrom_of_ofTree readable).sections kind) label

theorem PlainlyWritten.ownPatches_eq (plainly : PlainlyWritten read dialect)
    (rooted : read.Rooted) (kind : SectionKind) (name : String) :
    ownPatches kind name read dialect =
      ((read.normalize.fieldOrNull kind.name).patchesOf name).patchLayer := by
  obtain ⟨manifest, readable⟩ := plainly.plain.readable
  have patches := patchOf_of_ofTree (plainly.patchedSection rooted kind name) readable
  rw [ownPatches, readable]
  simp only [Tree.get_patchLayer] at patches
  exact congrArg (PatchLayer.ofShape _) (funext patches)

/-! ## The patches of a merged manifest -/

variable {gathered : Gathered}

/-- **The patches of a merged manifest** are those of its manifests, laid one over the other. -/
theorem patchOf_merged (formed : gathered.WellFormed) (all : gathered.All PlainlyWritten)
    {format : Option Dialect} (readable : Manifest.ofTree gathered.merged format = .ok manifest)
    (kind : SectionKind) (name label : String) :
    manifest.patchOf kind name label =
      (gathered.fold PatchLayer.merge .unset (ownPatches kind name)).get label := by
  have known := formed.rooted.and all
  have closed := closed_patchedSection kind name
  have good : gathered.All fun read _ =>
      PatchedSection name (read.normalize.fieldOrNull kind.name) :=
    known.imp fun _ _ h => h.2.patchedSection h.1 kind name
  have owns := known.imp fun _ _ h => h.2.ownPatches_eq h.1 kind name
  rw [patchOf_of_ofTree (closed.merged formed good).value readable, Gathered.fold_congr owns]
  refine congrArg (PatchLayer.get · label) ?_
  exact (measured_patches kind name).merged closed (by cases kind <;> decide)
    (by cases kind <;> decide) formed good

theorem get_foldOver_eq_none_iff {own : Tree → Dialect → PatchLayer} {list : List Gathered}
    {layer : PatchLayer} (apart : ¬layer.IsWhole)
    (others : ∀ one ∈ list, ¬(one.fold PatchLayer.merge .unset own).IsWhole) (label : String) :
    ¬(Gathered.foldOver PatchLayer.merge .unset own layer list).IsWhole ∧
      ((Gathered.foldOver PatchLayer.merge .unset own layer list).get label = none ↔
        layer.get label = none ∧
          ∀ one ∈ list, (one.fold PatchLayer.merge .unset own).get label = none) := by
  induction list generalizing layer with
  | nil =>
    rw [Gathered.foldOver]
    exact ⟨apart, by simp⟩
  | cons first rest ih =>
    have here := others first List.mem_cons_self
    have ih := ih (PatchLayer.not_isWhole_merge apart here)
      fun one member => others one (List.mem_cons_of_mem _ member)
    rw [PatchLayer.get_merge apart here, Patch.layered_eq_none_iff, and_assoc] at ih
    rw [Gathered.foldOver, List.forall_mem_cons]
    exact ih

/-- **No label is lost**: where no manifest gives patches as a whole, a label is missing exactly if
every manifest lacks it. -/
theorem get_fold_eq_none_iff {own : Tree → Dialect → PatchLayer}
    (apart : gathered.All fun read dialect => ¬(own read dialect).IsWhole) (label : String) :
    ¬(gathered.fold PatchLayer.merge .unset own).IsWhole ∧
      ((gathered.fold PatchLayer.merge .unset own).get label = none ↔
        gathered.All fun read dialect => (own read dialect).get label = none) := by
  induction apart with
  | @node read dialect includes overrides here _ _ below above =>
    obtain ⟨lower, under⟩ := get_foldOver_eq_none_iff (show ¬PatchLayer.unset.IsWhole from id)
      (fun one member => (below one member).1) label
    obtain ⟨upper, atop⟩ := get_foldOver_eq_none_iff (PatchLayer.not_isWhole_merge lower here)
      (fun one member => (above one member).1) label
    rw [Gathered.fold]
    refine ⟨upper, ?_⟩
    rw [atop, PatchLayer.get_merge lower here, Patch.layered_eq_none_iff, under]
    constructor
    · rintro ⟨⟨⟨-, lacking⟩, itself⟩, lacking'⟩
      exact .node itself (fun one member => (below one member).2.1 (lacking one member))
        fun one member => (above one member).2.1 (lacking' one member)
    · rintro ⟨itself, lacking, lacking'⟩
      exact ⟨⟨⟨rfl, fun one member => (below one member).2.2 (lacking one member)⟩, itself⟩,
        fun one member => (above one member).2.2 (lacking' one member)⟩

/-! ## Loading from a source -/

/-- **The patches of a loaded manifest.**  Whoever answers the requests: where a source can be
loaded, the same requests gather its manifests, and if these are written plainly, then the loaded
manifest has the patches that they have themselves, laid one over the other; and if none of them
gives the patches of an entry as a whole, then a label of that entry has no patch exactly if no
manifest gives it one. -/
theorem patchOf_loadManifest {σ : Type} (fetcher : Fetcher σ) {nesting : Nat} {source : Source}
    {before after : Session} {world last : σ}
    (loaded : fetcher.run (loadManifest .everything nesting source) before world =
      ((.ok manifest, after), last)) :
    ∃ gathered location, fetcher.run (gatherManifests nesting source) before world =
        ((.ok (gathered, location), after), last) ∧
      (gathered.All PlainlyWritten → ∀ kind name label,
        manifest.patchOf kind name label =
          (gathered.fold PatchLayer.merge .unset (ownPatches kind name)).get label ∧
        ((gathered.All fun read dialect => ¬(ownPatches kind name read dialect).IsWhole) →
          (manifest.patchOf kind name label = none ↔ gathered.All fun read dialect =>
            (ownPatches kind name read dialect).get label = none))) := by
  obtain ⟨gathered, location, gathers, readable⟩ := (run_loadManifest_ok_iff fetcher).1 loaded
  refine ⟨gathered, location, gathers, fun all kind name label => ?_⟩
  have eq := patchOf_merged (wellFormed_of_run fetcher gathers) all readable kind name label
  refine ⟨eq, fun apart => ?_⟩
  rw [eq]
  exact (get_fold_eq_none_iff apart label).2

/-- A site over a base: one entry with labels in both, one with lists in both. -/
def overlaidFiles : List (String × String) :=
  [("/m/site", "core: 8.x\nincludes: [base]\nprojects:\n  views: {patch: {fix: {url: c}, 7: d}}\n" ++
      "  token: {patch: [x]}\n"),
    ("/m/base", "projects:\n  views: {patches: {fix: {url: a, md5: m}, late: b}}\n" ++
      "  token: {patch: [y, z]}\n")]

theorem patchOf_loadManifest_overlaid : ∃ gathered location manifest after,
    (Fetcher.ofFiles overlaidFiles).run (gatherManifests 9 (.path "/m/site")) {} () =
      ((.ok (gathered, location), after), ()) ∧
    (Fetcher.ofFiles overlaidFiles).run (loadManifest .everything 9 (.path "/m/site")) {} () =
      ((.ok manifest, after), ()) ∧
    gathered.All PlainlyWritten ∧
    (gathered.All fun read dialect => ¬(ownPatches .projects "views" read dialect).IsWhole) ∧
    manifest.patchOf .projects "views" "fix" = some (.detailed "c" (some "m")) ∧
    manifest.patchOf .projects "views" "late" = some (.bare "b") ∧
    manifest.patchOf .projects "token" "0" = some (.bare "x") ∧
    manifest.patchOf .projects "token" "1" = none := by
  have ok : ((Fetcher.ofFiles overlaidFiles).run (loadManifest .everything 9 (.path "/m/site")) {}
      ()).1.1.toOption.isSome = true := by decide +kernel
  have found : (((Fetcher.ofFiles overlaidFiles).run (gatherManifests 9 (.path "/m/site")) {}
      ()).1.1.toOption.all fun found =>
        let views := found.1.fold PatchLayer.merge .unset (ownPatches .projects "views")
        let token := found.1.fold PatchLayer.merge .unset (ownPatches .projects "token")
        found.1.All PlainlyWritten ∧
        (found.1.All fun read dialect => ¬(ownPatches .projects "views" read dialect).IsWhole) ∧
        views.get "fix" = some (.detailed "c" (some "m")) ∧
        views.get "late" = some (.bare "b") ∧
        token.get "0" = some (.bare "x") ∧ token.get "1" = none) = true := by decide +kernel
  obtain ⟨⟨⟨result, after⟩, ⟨⟩⟩, loaded⟩ : ∃ outcome, (Fetcher.ofFiles overlaidFiles).run
      (loadManifest .everything 9 (.path "/m/site")) {} () = outcome := ⟨_, rfl⟩
  rw [loaded] at ok
  obtain ⟨manifest, rfl⟩ := isSome_toOption_iff.1 ok
  obtain ⟨gathered, location, gathers, patches⟩ := patchOf_loadManifest _ loaded
  rw [gathers] at found
  obtain ⟨plain, apart, fix, late, zero, one⟩ := of_decide_eq_true found
  have patches := fun name label => (patches plain .projects name label).1
  exact ⟨gathered, location, manifest, after, gathers, loaded, plain, apart,
    (patches "views" "fix").trans fix, (patches "views" "late").trans late,
    (patches "token" "0").trans zero, (patches "token" "1").trans one⟩

end BuildManifest
