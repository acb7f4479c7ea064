import BuildManifest.Check.Prune
import BuildManifest.Check.Validate
import BuildManifest.Proofs.Check.Grammar

/-!
# What a checked manifest is like

Validation completes a manifest and then looks for violations in the completed form.  Without
hooks the completed form is also what it returns, so each list of violations that is empty is a
property of the result.

## What is here

* `Manifest.Valid` — the properties.
* `nodup_of_entriesViolations`, `safe_of_entriesViolations` — the checks of a section.
* `valid_of_validate` — **validation establishes them**.
-/

set_option autoImplicit false

namespace BuildManifest

open Text

/-- Every path of the entry stays below its root. -/
def Entry.SafePaths (entry : Entry) : Prop :=
  ∀ path, some path ∈ [entry.subdir, entry.directoryName, entry.contribDestination,
    entry.destination] → isSafePath path = true

namespace Manifest

/-- What validation promises of a manifest. -/
structure Valid (options : CheckOptions) (manifest : Manifest) : Prop where
  /-- The platform version is a major number and `.x`. -/
  core : ∃ digits, digits ≠ [] ∧ (∀ c ∈ digits, isDecimalDigit c = true) ∧
    manifest.core = some (String.ofList (digits ++ ['.', 'x']))
  /-- The version of the format is known, and supported unless any version is accepted. -/
  api : ∃ version, manifest.api = some version ∧ (options.force = false → version = options.api)
  /-- No section has two entries of one name. -/
  names : ∀ kind, (manifest.sectionOf kind).names.Nodup
  /-- No entry leaves its root. -/
  paths : ∀ kind, ∀ entry ∈ (manifest.sectionOf kind).entries, entry.2.SafePaths
  /-- Libraries have no directory of contributed projects. -/
  libraries : ∀ entry ∈ manifest.libraries.entries, entry.2.contribDestination = none

/-! ## Completing -/

theorem fillNamed_frame (manifest : Manifest) (name : String) (defaults : Entry) :
    (manifest.fillNamed name defaults).core = manifest.core ∧
      (manifest.fillNamed name defaults).api = manifest.api ∧
      (manifest.fillNamed name defaults).includes = manifest.includes ∧
      (manifest.fillNamed name defaults).overrides = manifest.overrides := by
  rw [fillNamed]
  cases SectionKind.ofName? name with
  | none => exact ⟨rfl, rfl, rfl, rfl⟩
  | some kind => cases kind <;> exact ⟨rfl, rfl, rfl, rfl⟩

/-- Defaults change nothing but the entries. -/
theorem applyDefaults_frame (manifest : Manifest) :
    manifest.applyDefaults.core = manifest.core ∧ manifest.applyDefaults.api = manifest.api ∧
      manifest.applyDefaults.includes = manifest.includes ∧
      manifest.applyDefaults.overrides = manifest.overrides := by
  rw [applyDefaults]
  generalize manifest.defaults.entries = list
  induction list generalizing manifest with
  | nil => exact ⟨rfl, rfl, rfl, rfl⟩
  | cons first rest ih =>
    obtain ⟨core, api, includes, overrides⟩ := fillNamed_frame manifest first.1 first.2
    obtain ⟨core', api', includes', overrides'⟩ := ih (manifest.fillNamed first.1 first.2)
    exact ⟨core'.trans core, api'.trans api, includes'.trans includes, overrides'.trans overrides⟩

theorem withCoreBranch_frame (manifest : Manifest) :
    manifest.withCoreBranch.api = manifest.api ∧
      manifest.withCoreBranch.includes = manifest.includes ∧
      manifest.withCoreBranch.overrides = manifest.overrides := by
  rw [withCoreBranch]
  split <;> exact ⟨rfl, rfl, rfl⟩

theorem completed_frame (manifest : Manifest) (options : CheckOptions) :
    (manifest.completed options).core = manifest.withCoreBranch.core ∧
      (manifest.completed options).api = (manifest.api <|> some options.api) ∧
      (manifest.completed options).includes = manifest.includes ∧
      (manifest.completed options).overrides = manifest.overrides := by
  obtain ⟨core, api, includes, overrides⟩ :=
    applyDefaults_frame (manifest.withCoreBranch.withApi options.api)
  obtain ⟨api', includes', overrides'⟩ := withCoreBranch_frame manifest
  refine ⟨core, ?_, includes.trans includes', overrides.trans overrides'⟩
  rw [← api']
  exact api

/-! ## The platform version and the version of the format -/

theorem core_of_coreViolations {manifest : Manifest} (h : manifest.coreViolations = []) :
    ∃ digits, digits ≠ [] ∧ (∀ c ∈ digits, isDecimalDigit c = true) ∧
      manifest.withCoreBranch.core = some (String.ofList (digits ++ ['.', 'x'])) := by
  rw [coreViolations] at h
  split at h
  · cases h
  · next text core =>
    split at h
    · next read =>
      obtain ⟨version, read⟩ := Option.isSome_iff_exists.1 read
      obtain ⟨nonempty, digits⟩ := (readCoreVersion_eq_some_iff.1 read).digits
      refine ⟨version.major, nonempty, digits, ?_⟩
      rw [withCoreBranch, core, Option.bind_some, read]
      rfl
    · cases h

theorem api_of_apiViolations {manifest : Manifest} {options : CheckOptions}
    (h : manifest.apiViolations options = []) :
    ∃ version, (manifest.api <|> some options.api) = some version ∧
      (options.force = false → version = options.api) := by
  rw [apiViolations] at h
  split at h
  · next absent =>
    rw [absent]
    exact ⟨options.api, rfl, fun _ => rfl⟩
  · next found present =>
    rw [present]
    refine ⟨found, rfl, fun strict => ?_⟩
    split at h
    · next fine => simpa [strict] using fine
    · cases h

/-! ## The sections -/

/-- Names that follow distinct ones are distinct from them and from each other, since already the
first repetition is a violation. -/
theorem nodup_of_entriesViolations {kind : SectionKind} {earlier : List String}
    {entries : List (String × Entry)} (distinct : earlier.Nodup)
    (h : entriesViolations kind earlier entries = []) :
    (entries.map (·.1)).Nodup ∧ ∀ name ∈ entries.map (·.1), name ∉ earlier := by
  induction entries generalizing earlier with
  | nil => exact ⟨List.nodup_nil, fun _ member => nomatch member⟩
  | cons first rest ih =>
    obtain ⟨name, entry⟩ := first
    rw [entriesViolations, List.append_eq_nil_iff, entryViolations, List.append_eq_nil_iff] at h
    obtain ⟨⟨single, -⟩, h⟩ := h
    have fresh : name ∉ earlier := by
      intro member
      rw [if_pos (by rw [distinct.count, if_pos member])] at single
      cases single
    obtain ⟨nodup, apart⟩ := ih (List.nodup_cons.2 ⟨fresh, distinct⟩) h
    have later : ∀ other ∈ rest.map (·.1), other ≠ name ∧ other ∉ earlier := fun other member =>
      ⟨fun eq => apart other member (eq ▸ List.mem_cons_self),
        fun inside => apart other member (List.mem_cons_of_mem _ inside)⟩
    constructor
    · exact List.nodup_cons.2 ⟨fun member => (later name member).1 rfl, nodup⟩
    · intro other member
      rcases List.mem_cons.1 member with rfl | member
      · exact fresh
      · exact (later other member).2

theorem safePaths_of_pathViolations {kind : SectionKind} {name : String} {entry : Entry}
    (h : pathViolations kind name entry = []) : entry.SafePaths := by
  rw [pathViolations, List.map_eq_nil_iff, List.filter_eq_nil_iff] at h
  have safe (label path : String) (member : (label, path) ∈ entry.pathAttributes) :
      isSafePath path = true := by
    simpa using h (label, path) member
  intro path member
  simp only [List.mem_cons, List.not_mem_nil, or_false] at member
  simp only [Entry.pathAttributes, Entry.setAttributes, List.mem_filterMap] at safe
  rcases member with eq | eq | eq | eq
  · exact safe "subdir" path ⟨("subdir", entry.subdir), by simp, by rw [← eq]; rfl⟩
  · exact safe "directory_name" path
      ⟨("directory_name", entry.directoryName), by simp, by rw [← eq]; rfl⟩
  · exact safe "contrib_destination" path
      ⟨("contrib_destination", entry.contribDestination), by simp, by rw [← eq]; rfl⟩
  · exact safe "destination" path ⟨("destination", entry.destination), by simp, by rw [← eq]; rfl⟩

theorem safe_of_entriesViolations {kind : SectionKind} {earlier : List String}
    {entries : List (String × Entry)} (h : entriesViolations kind earlier entries = []) :
    ∀ entry ∈ entries, entry.2.SafePaths := by
  induction entries generalizing earlier with
  | nil => exact fun _ member => nomatch member
  | cons first rest ih =>
    rw [entriesViolations, List.append_eq_nil_iff, entryViolations, List.append_eq_nil_iff] at h
    obtain ⟨⟨-, safe⟩, h⟩ := h
    intro entry member
    rcases List.mem_cons.1 member with rfl | later
    · exact safePaths_of_pathViolations safe
    · exact ih h entry later

theorem entriesViolations_of_sectionViolations {manifest : Manifest}
    (h : manifest.sectionViolations = []) (kind : SectionKind) :
    entriesViolations kind [] (manifest.sectionOf kind).entries = [] := by
  rw [sectionViolations, List.flatMap_eq_nil_iff] at h
  exact h kind (by cases kind <;> decide)

theorem contribDestination_completed (manifest : Manifest) (options : CheckOptions) :
    ∀ entry ∈ (manifest.completed options).libraries.entries,
      entry.2.contribDestination = none := by
  intro entry member
  obtain ⟨one, -, rfl⟩ := List.mem_map.1 member
  rfl

/-! ## The result -/

theorem validate_nil {manifest valid : Manifest} {options : CheckOptions}
    (h : manifest.validate options [] = .ok valid) :
    valid = manifest.completed options ∧ manifest.violations options = [] := by
  rw [validate] at h
  simp only [runHooks, List.append_nil] at h
  split at h
  · next none_ =>
    cases h
    exact ⟨rfl, none_⟩
  · cases h

theorem validate_nil_iff {manifest valid : Manifest} {options : CheckOptions} :
    manifest.validate options [] = .ok valid ↔
      valid = manifest.completed options ∧ manifest.violations options = [] := by
  refine ⟨validate_nil, ?_⟩
  rintro ⟨rfl, none_⟩
  rw [validate]
  simp only [runHooks, none_, List.append_nil]

/-- **Validation without hooks establishes everything it checks.** -/
theorem valid_of_validate {manifest valid : Manifest} {options : CheckOptions}
    (h : manifest.validate options [] = .ok valid) : valid.Valid options := by
  obtain ⟨rfl, none_⟩ := validate_nil h
  rw [violations, List.append_eq_nil_iff, List.append_eq_nil_iff] at none_
  obtain ⟨⟨core, api⟩, sections⟩ := none_
  obtain ⟨coreEq, apiEq, -, -⟩ := completed_frame manifest options
  refine ⟨?_, ?_, fun kind => ?_, fun kind => ?_, contribDestination_completed manifest options⟩
  · rw [coreEq]
    exact core_of_coreViolations core
  · rw [apiEq]
    exact api_of_apiViolations api
  · exact (nodup_of_entriesViolations List.nodup_nil
      (entriesViolations_of_sectionViolations sections kind)).1
  · exact safe_of_entriesViolations (entriesViolations_of_sectionViolations sections kind)

end Manifest

end BuildManifest
