import BuildManifest.Proofs.Check.Refilled
import BuildManifest.Proofs.Manifest.Attributes
import BuildManifest.Proofs.Tree.Paths

/-!
# What defaults fill in

Defaults fill what an entry leaves open, and replace nothing that it sets.  For attributes, for the
fields of a download and for patches this is one rule: what the entry has, or else what the defaults
have.  Attributes that are not interpreted are filled along their paths.  There the rule has one
exception: a mapping of the entry, be it empty, is not replaced by a default that is none
(`applyDefaults_keeps_mapping`).

## What is here

* `Labelled.get?_fill`, `Entry.valueAt?_fillExtra` — what is found after filling.
* `Entry.FilledFrom` — what an entry is that was filled from defaults.
* `Entry.filledFrom_fill` — **filling an entry**.
* `Manifest.applyDefaults_fills` — **applying the defaults of a manifest**: every entry is filled
  from the defaults of its section, nothing else changes, and a second time nothing changes at all.
-/

set_option autoImplicit false

namespace BuildManifest

/-! ## Labels -/

namespace Labelled

variable {α : Type} {labelled : Labelled α}

theorem get?_insertNew (labelled : Labelled α) (label wanted : String) (value : α) :
    (labelled.insertNew label value).get? wanted =
      (labelled.get? wanted).or (if label = wanted then some value else none) := by
  rw [insertNew]
  split
  · next present =>
    obtain ⟨old, found⟩ := Option.isSome_iff_exists.1 present
    split
    · next eq => rw [← eq, found, Option.some_or]
    · rw [Option.or_none]
  · next absent =>
    rw [get?_insert]
    split
    · next eq =>
      rw [contains, Bool.not_eq_true, Option.isSome_eq_false_iff, Option.isNone_iff_eq_none, eq]
        at absent
      rw [absent, Option.none_or]
    · rw [Option.or_none]

theorem get?_foldl_insertNew {list : List (String × α)} (wanted : String) :
    (list.foldl (fun done entry => done.insertNew entry.1 entry.2) labelled).get? wanted =
      (labelled.get? wanted).or (findEntry list wanted) := by
  induction list generalizing labelled with
  | nil => rw [List.foldl_nil, findEntry, Option.or_none]
  | cons first rest ih =>
    rw [List.foldl_cons, ih, get?_insertNew, findEntry, Option.or_assoc]
    split <;> rfl

/-- **Under each label stands what was there, or else what the defaults have.** -/
theorem get?_fill (own defaults : Labelled α) (label : String) :
    (own.fill defaults).get? label = (own.get? label).or (defaults.get? label) :=
  get?_foldl_insertNew label

end Labelled

/-! ## Entries -/

namespace Entry

variable {own defaults filled : Entry} {path : List Tree} {value : Tree}

/-- The attributes that are not interpreted, as a tree to follow paths in. -/
def extraTree (entry : Entry) : Tree := .mapping entry.extra

/-- What an entry is that was filled from defaults.  A path is a list of keys, none of which repeats
a key in itself. -/
structure FilledFrom (own defaults filled : Entry) : Prop where
  /-- An attribute that is a text is the entry's own, or else that of the defaults. -/
  texts : ∀ one, filled.textOf one = (own.textOf one).or (defaults.textOf one)
  /-- And so is the one that is a truth value. -/
  workingCopy : filled.workingCopy = own.workingCopy.or defaults.workingCopy
  /-- There is a download where the entry or the defaults have one. -/
  download : filled.download.isSome = (own.download.isSome || defaults.download.isSome)
  /-- The kind of the download is the entry's own, or else that of the defaults. -/
  downloadKind : filled.download.bind (·.kind) =
    (own.download.bind (·.kind)).or (defaults.download.bind (·.kind))
  /-- And so is each of its other fields. -/
  downloadTexts : ∀ field, filled.download.bind (·.textOf field) =
    (own.download.bind (·.textOf field)).or (defaults.download.bind (·.textOf field))
  /-- The patch of a label is the entry's own, or else that of the defaults. -/
  patches : ∀ label, filled.patches.get? label =
    (own.patches.get? label).or (defaults.patches.get? label)
  /-- What the entry has at a path stays, unless it is null or a mapping. -/
  kept : ∀ path value, (∀ key ∈ path, Tree.wellKeyed key = true) →
    own.extraTree.valueAt? path = some value → value.replaces = true →
    filled.extraTree.valueAt? path = some value
  /-- What the defaults have at a path is taken, unless the entry has a mapping there, or something
  other than null and mappings there or on the way. -/
  taken : ∀ path value, (∀ key ∈ path, Tree.wellKeyed key = true) →
    defaults.extraTree.valueAt? path = some value →
    (∀ current, own.extraTree.valueAt? path = some current → current.isMapping = false) →
    (∀ shorter, shorter <+: path → ∀ current,
      own.extraTree.valueAt? shorter = some current → current.replaces = false) →
    filled.extraTree.valueAt? path = some value
  /-- What is no mapping stands in the entry or in the defaults at the same path. -/
  leaves : ∀ path value, (∀ key ∈ path, Tree.wellKeyed key = true) →
    filled.extraTree.valueAt? path = some value → value.isMapping = false →
    own.extraTree.valueAt? path = some value ∨ defaults.extraTree.valueAt? path = some value
  /-- And a mapping stands where one of them has a mapping. -/
  mappings : ∀ path value, (∀ key ∈ path, Tree.wellKeyed key = true) →
    filled.extraTree.valueAt? path = some value → value.isMapping = true →
    ∃ given, given.isMapping = true ∧ (own.extraTree.valueAt? path = some given ∨
      defaults.extraTree.valueAt? path = some given)

theorem textOf_fill (own defaults : Entry) (one : Attribute) :
    (own.fill defaults).textOf one = (own.textOf one).or (defaults.textOf one) := by
  cases one <;> first | exact Option.orElse_eq_or | rfl

/-- Each field of the download that a download is filled in with. -/
theorem bind_fillDownload {α : Type} {field : Download → Option α}
    (filled : ∀ own defaults : Download,
      field (own.fill defaults) = (field own).or (field defaults))
    (nothing : field {} = none) (own defaults : Option Download) :
    (fillDownload own defaults).bind field = (own.bind field).or (defaults.bind field) := by
  cases defaults with
  | none => exact Option.or_none.symm
  | some defaults =>
    rw [fillDownload, Option.bind_some, filled, Option.bind_some]
    cases own with
    | none => rw [Option.getD_none, nothing, Option.bind_none]
    | some own => rfl

theorem textOf_fillDownload (own defaults : Download) (field : String) :
    (own.fill defaults).textOf field = (own.textOf field).or (defaults.textOf field) := by
  unfold Download.textOf
  split <;> first | exact Option.orElse_eq_or | rfl

theorem extraTree_fill (keyed : own.Keyed) :
    (own.fill defaults).extraTree = defaults.extraTree.merge own.extraTree := by
  rw [extraTree, extraTree, extraTree, Tree.merge]
  refine congrArg Tree.mapping ?_
  show fillExtra own.extra defaults.extra = _
  rw [fillExtra]
  split
  · next nothing => rw [List.isEmpty_iff.1 nothing, Mapping.mergeEntries_nil_left keyed]
  · rfl

/-- **An entry is filled from defaults.** -/
theorem filledFrom_fill (keyed : own.Keyed) (defaults : Entry) :
    FilledFrom own defaults (own.fill defaults) := by
  have extra : (own.fill defaults).extraTree = defaults.extraTree.merge own.extraTree :=
    extraTree_fill keyed
  refine ⟨textOf_fill own defaults, Option.orElse_eq_or, ?_,
    bind_fillDownload (fun _ _ => Option.orElse_eq_or) rfl _ _,
    fun field => bind_fillDownload (fun _ _ => textOf_fillDownload _ _ field) ?_ _ _,
    Labelled.get?_fill _ _, ?_, ?_, ?_, ?_⟩
  · show (fillDownload own.download defaults.download).isSome = _
    cases defaults.download <;> simp [fillDownload]
  · unfold Download.textOf
    split <;> rfl
  all_goals rw [extra]
  · exact fun _ _ keyedPath found replaces =>
      Tree.valueAt?_merge_of_replaced keyed keyedPath found replaces
  · exact fun _ _ keyedPath found unmapped free =>
      Tree.valueAt?_merge_of_free keyed keyedPath found unmapped free
  · exact fun _ _ keyedPath found unmapped =>
      Tree.valueAt?_of_valueAt?_merge keyed keyedPath found unmapped
  · exact fun _ _ keyedPath found mapped =>
      Tree.exists_isMapping_of_valueAt?_merge keyed keyedPath found mapped

/-- **An entry is filled from the same defaults once and for all.** -/
theorem filledFrom_filledFrom {given : Option Entry} (keyed : own.Keyed)
    (keyed' : ∀ defaults ∈ given, defaults.Keyed) :
    (own.filledFrom given).filledFrom given = own.filledFrom given := by
  cases given with
  | none => rfl
  | some defaults => exact fill_fill keyed (keyed' defaults rfl)

end Entry

/-! ## Manifests -/

namespace Manifest

variable {manifest : Manifest} {kind : SectionKind}

/-- The section with every entry filled from its defaults, if it has any. -/
def filledSection (manifest : Manifest) (kind : SectionKind) : Section :=
  (manifest.sectionOf kind).map fun _ => Entry.filledFrom (manifest.defaults.get? kind.name)

theorem applyDefaults_eq (manifest : Manifest) :
    manifest.applyDefaults =
      { manifest with
        projects := manifest.filledSection .projects
        libraries := manifest.filledSection .libraries } :=
  manifest.foldl_fillNamed manifest.defaults.increasing

theorem sectionOf_applyDefaults (manifest : Manifest) (kind : SectionKind) :
    manifest.applyDefaults.sectionOf kind = manifest.filledSection kind := by
  rw [applyDefaults_eq]
  cases kind <;> rfl

theorem defaults_applyDefaults (manifest : Manifest) :
    manifest.applyDefaults.defaults = manifest.defaults := by rw [applyDefaults_eq]

theorem filledSection_applyDefaults (keyed : manifest.Keyed) (kind : SectionKind) :
    manifest.applyDefaults.filledSection kind = manifest.filledSection kind := by
  rw [filledSection, sectionOf_applyDefaults, defaults_applyDefaults, filledSection,
    Section.map_map]
  refine congrArg Section.mk (List.map_congr_left fun one member => congrArg (Prod.mk one.1) ?_)
  exact Entry.filledFrom_filledFrom (keyed.sections kind one member) fun defaults found =>
    keyed.defaults _ (Labelled.mem_of_get? found)

theorem applyDefaults_applyDefaults (keyed : manifest.Keyed) :
    manifest.applyDefaults.applyDefaults = manifest.applyDefaults := by
  have filled := filledSection_applyDefaults keyed
  rw [applyDefaults_eq manifest.applyDefaults, filled, filled, applyDefaults_eq]

/-- **Applying defaults fills, and never replaces.**  In a section with defaults every entry, under
its name and at its place, is filled from them; a section without stays as it is, and so does all
that is no section.  To apply them again changes nothing, not even an order.

No mapping may repeat a key, and none of a manifest that was read does
(`keyed_of_parseDetected`). -/
theorem applyDefaults_fills (keyed : manifest.Keyed) :
    (∀ kind defaults, manifest.defaults.get? kind.name = some defaults →
      List.Forall₂ (fun before after => after.1 = before.1 ∧
          Entry.FilledFrom before.2 defaults after.2)
        (manifest.sectionOf kind).entries (manifest.applyDefaults.sectionOf kind).entries) ∧
    (∀ kind : SectionKind, manifest.defaults.get? kind.name = none →
      manifest.applyDefaults.sectionOf kind = manifest.sectionOf kind) ∧
    { manifest.applyDefaults with
      projects := manifest.projects
      libraries := manifest.libraries } = manifest ∧
    manifest.applyDefaults.applyDefaults = manifest.applyDefaults := by
  refine ⟨fun kind defaults given => ?_, fun kind nothing => ?_, ?_,
    applyDefaults_applyDefaults keyed⟩
  · rw [sectionOf_applyDefaults, filledSection, given, Section.map, List.forall₂_map_right_iff,
      List.forall₂_same]
    exact fun one member =>
      ⟨rfl, Entry.filledFrom_fill (keyed.sections kind one member) defaults⟩
  · rw [sectionOf_applyDefaults, filledSection, nothing]
    exact Section.map_eq_self _ fun _ _ => rfl
  · rw [applyDefaults_eq]

/-- A project that sets some of what the defaults have, and defaults of every kind. -/
def withOpenProject : Manifest where
  core := some "8.x"
  projects := ⟨[("views", {
    subdir := some "custom"
    download := some { url := some "a.git", branch := some "develop" }
    patches := .ofList [("fix", .bare "own.patch")]
    extra := [(.string "l10n", .mapping [(.string "url", .string "a"),
      (.string "path", .null)])] })]⟩
  libraries := ⟨[("jquery", {})]⟩
  defaults := .ofList [("projects", {
    version := some "1.x"
    subdir := some "contrib"
    download := some { kind := some (.checkout "git"), branch := some "main" }
    patches := .ofList [("fix", .bare "a.patch"), ("more", .bare "b.patch")]
    extra := [(.string "l10n", .mapping [(.string "url", .string "b"),
      (.string "path", .string "c")])] })]

/-- What the project sets stays, the null among it is filled like what it leaves open, and the
library stays without attributes. -/
theorem applyDefaults_fills_withOpenProject : withOpenProject.Keyed ∧ ∃ views,
    withOpenProject.applyDefaults.projects.entries = [("views", views)] ∧
      views.textOf .subdir = some "custom" ∧ views.textOf .version = some "1.x" ∧
      views.download.bind (·.kind) = some (.checkout "git") ∧
      views.download.bind (·.textOf "branch") = some "develop" ∧
      views.patches.get? "fix" = some (.bare "own.patch") ∧
      views.patches.get? "more" = some (.bare "b.patch") ∧
      views.extraTree.valueAt? [.string "l10n", .string "url"] = some (.string "a") ∧
      views.extraTree.valueAt? [.string "l10n", .string "path"] = some (.string "c") ∧
      withOpenProject.applyDefaults.libraries.entries = [("jquery", {})] := by
  have keyed : withOpenProject.Keyed := by
    refine ⟨fun kind one member => ?_, by decide +kernel⟩
    cases kind <;> revert one <;> decide +kernel
  obtain ⟨filled, untouched, -, -⟩ := applyDefaults_fills keyed
  obtain ⟨⟨name, views⟩, rest, ⟨named, from_⟩, none_, eq⟩ :=
    List.forall₂_cons_left_iff.1 (filled .projects _ rfl)
  obtain rfl := List.forall₂_nil_left_iff.1 none_
  obtain rfl : name = "views" := named
  let path : List Tree := [.string "l10n", .string "path"]
  have keyedPath : ∀ key ∈ path, Tree.wellKeyed key = true := by decide +kernel
  refine ⟨keyed, views, eq, from_.texts .subdir, from_.texts .version, from_.downloadKind,
    from_.downloadTexts "branch", from_.patches "fix", from_.patches "more",
    from_.kept _ _ (by decide +kernel) rfl rfl,
    from_.taken path _ keyedPath rfl (fun current here => ?_)
      (Tree.free_of_inits (by decide +kernel)),
    congrArg Section.entries (untouched .libraries rfl)⟩
  cases here
  rfl

/-- An empty mapping of the entry stays where the defaults have a text, although nothing stands in
the way there but mappings. -/
theorem applyDefaults_keeps_mapping :
    let own : Entry := { extra := [(.string "l10n", .mapping [])] }
    let defaults : Entry := { extra := [(.string "l10n", .string "x")] }
    let manifest : Manifest := {
      core := some "8.x"
      projects := ⟨[("views", own)]⟩
      defaults := .ofList [("projects", defaults)] }
    manifest.Keyed ∧ manifest.defaults.get? "projects" = some defaults ∧
      defaults.extraTree.valueAt? [.string "l10n"] = some (.string "x") ∧
      (∀ shorter, shorter <+: [Tree.string "l10n"] → ∀ current,
        own.extraTree.valueAt? shorter = some current → current.replaces = false) ∧
      manifest.applyDefaults.projects.entries = [("views", own)] ∧
      own.extraTree.valueAt? [.string "l10n"] ≠ some (.string "x") := by
  intro own defaults manifest
  refine ⟨⟨fun kind one member => ?_, by decide +kernel⟩, rfl, rfl,
    Tree.free_of_inits (by decide +kernel), rfl, fun same => ?_⟩
  · cases kind <;> revert one <;> decide +kernel
  · cases (show some (Tree.mapping []) = some (Tree.string "x") from same)

end Manifest

end BuildManifest
