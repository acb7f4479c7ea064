import BuildManifest.Proofs.Check.Valid
import BuildManifest.Proofs.Package.Rows
import Mathlib.Data.List.Nodup

/-!
# What a package requires

Every project and every library of a checked manifest is required in a row of its own, and the
platform in one more, with the version of the last core project that has one, or else the version
of the manifest.  The exception is a project that is called `core` and is not the platform's core:
from platform 8 on it has the name of the platform's package, and one of the two is lost.

## What is here

* `Manifest.requirementRows`, `toPackage_require` — the rows in the order they are written in.
* `Manifest.RequiresApart` — each source of a requirement has a row of its own, and no row is left.
* `requiresApart_iff` — **when a package requires everything apart**.
-/

set_option autoImplicit false

namespace BuildManifest

open Package

/-! ## The sources of requirements -/

namespace Manifest

/-- The projects besides the platform's core. -/
def otherProjects (manifest : Manifest) : List (String × Entry) :=
  manifest.projects.entries.filter fun one => !one.2.isCore one.1

/-- The version that a project asks of the platform, if it is the core and has one. -/
def platformVersion? (one : String × Entry) : Option String :=
  if one.2.isCore one.1 then one.2.version else none

/-- The versions that are asked of the platform: the manifest's own one first, then those of the
core projects in order. -/
def platformVersions (manifest : Manifest) : List String :=
  manifest.core.toList ++ manifest.projects.entries.filterMap platformVersion?

/-- The names under which anything is required. -/
def requiredNames (manifest : Manifest) : List String :=
  "composer/installers" :: "cweagans/composer-patches" :: corePackage manifest.platformMajor ::
    (manifest.otherProjects.map fun one => "drupal/" ++ one.1) ++
    manifest.libraries.entries.map fun one => "Verify project name: " ++ one.1

/-- **Each source has a row of its own**, and what stands there is derived from it alone. -/
structure RequiresApart (manifest : Manifest) (require : Labelled String) : Prop where
  /-- The installers are always required. -/
  installers : require.get? "composer/installers" = some "^1.0.20" ∧
    require.get? "cweagans/composer-patches" = some "~1.0"
  /-- The platform is required as the last one asks who asks for a version of it. -/
  platform : ∃ version, manifest.platformVersions.getLast? = some version ∧
    require.get? (corePackage manifest.platformMajor) = some (coreRequirement version)
  /-- The other projects are required under their names, as their entries say. -/
  projects : ∀ one ∈ manifest.otherProjects, require.get? ("drupal/" ++ one.1) =
    some ((projectRequirement? one.2 manifest.platformMajor).getD unknownVersion)
  /-- So are the libraries. -/
  libraries : ∀ one ∈ manifest.libraries.entries, require.get? ("Verify project name: " ++ one.1) =
    some (one.2.version.getD unknownVersion)
  /-- There are no other rows, and no two of these are one. -/
  rows : require.labels.Perm manifest.requiredNames

/-- No project besides the core has the name of the platform's package. -/
def NoneOnPlatform (manifest : Manifest) : Prop :=
  ∀ one ∈ manifest.otherProjects, one.1 = "core" → manifest.platformMajor ≤ lastPrefixingMajor

instance (manifest : Manifest) : Decidable manifest.NoneOnPlatform :=
  inferInstanceAs (Decidable (∀ one ∈ _, _))

end Manifest

/-! ## The rows in the order they are written in -/

namespace Package

variable {major : Nat}

/-- The row that requires the platform. -/
def platformRow (major : Nat) (version : String) : String × String :=
  (corePackage major, coreRequirement version)

/-- The row that requires a project besides the core. -/
def otherRow (major : Nat) (one : String × Entry) : String × String :=
  ("drupal/" ++ one.1, (projectRequirement? one.2 major).getD unknownVersion)

/-- The row that requires a library. -/
def libraryRow (one : String × Entry) : String × String :=
  ("Verify project name: " ++ one.1, one.2.version.getD unknownVersion)

/-- The row that is written for a project, if any. -/
def projectRow? (major : Nat) (one : String × Entry) : Option (String × String) :=
  if one.2.isCore one.1 then one.2.version.map (platformRow major) else some (otherRow major one)

/-- Write a requirement. -/
def writeRequirement (require : Labelled String) (row : String × String) : Labelled String :=
  require.insert row.1 row.2

theorem require_foldl_patching (package : Package) (name : String)
    (patches : List (String × Patch)) :
    (patches.foldl (fun done patch => done.patching name patch.1 patch.2.url) package).require =
      package.require := by
  refine foldl_of_keeps Package.require (fun done patch => ?_) patches package
  rw [patching]

theorem require_addProject (package : Package) (one : String × Entry) :
    (package.addProject major one).require =
      (projectRow? major one).toList.foldl writeRequirement package.require := by
  obtain ⟨name, entry⟩ := one
  rw [addProject, require_foldl_patching, requireProject, projectRow?]
  cases core : entry.isCore name with
  | true => cases version : entry.version <;> simp [requiring, platformRow, writeRequirement]
  | false => simp [projectName_of_not_isCore core, requiring, otherRow, writeRequirement]

theorem require_foldl_addProject (package : Package) (projects : List (String × Entry)) :
    (projects.foldl (addProject major) package).require =
      (projects.filterMap (projectRow? major)).foldl writeRequirement package.require := by
  rw [List.filterMap_eq_flatMap_toList]
  exact foldl_of_writes require_addProject projects package

theorem require_foldl_addLibrary (package : Package) (libraries : List (String × Entry)) :
    (libraries.foldl addLibrary package).require =
      (libraries.map libraryRow).foldl writeRequirement package.require := by
  rw [List.map_eq_flatMap]
  exact foldl_of_writes (fun _ _ => rfl) libraries package

end Package

namespace Manifest

variable {manifest : Manifest} {name : String} {row : String × String}

/-- The rows that require the platform, the projects and the libraries. -/
def requirementRows (manifest : Manifest) : List (String × String) :=
  manifest.core.toList.map (platformRow manifest.platformMajor) ++
    (manifest.projects.entries.filterMap (projectRow? manifest.platformMajor) ++
      manifest.libraries.entries.map libraryRow)

/-- **A package requires what its rows say**, on top of the installers. -/
theorem toPackage_require (manifest : Manifest) : manifest.toPackage.require =
    manifest.requirementRows.foldl writeRequirement Package.installers := by
  have start : (ofCore manifest.platformMajor manifest.core).require =
      (manifest.core.toList.map (platformRow manifest.platformMajor)).foldl writeRequirement
        Package.installers := by
    cases core : manifest.core <;> rfl
  rw [requirementRows, List.foldl_append, List.foldl_append, ← start, ← require_foldl_addProject,
    ← require_foldl_addLibrary]
  rfl

/-- The row of a project is the platform's with the version that the project asks for, or its
own. -/
theorem projectRow?_eq_some_iff {major : Nat} {one : String × Entry} :
    projectRow? major one = some row ↔
      (∃ version, platformVersion? one = some version ∧ platformRow major version = row) ∨
        one.2.isCore one.1 = false ∧ otherRow major one = row := by
  rw [projectRow?, platformVersion?]
  cases core : one.2.isCore one.1 with
  | true => simp [Option.map_eq_some_iff]
  | false => simp

/-- **Where the rows come from.** -/
theorem mem_requirementRows_iff : row ∈ manifest.requirementRows ↔
    (∃ version ∈ manifest.platformVersions, platformRow manifest.platformMajor version = row) ∨
    (∃ one ∈ manifest.otherProjects, otherRow manifest.platformMajor one = row) ∨
    ∃ one ∈ manifest.libraries.entries, libraryRow one = row := by
  have projects : row ∈ manifest.projects.entries.filterMap (projectRow? manifest.platformMajor) ↔
      (∃ version ∈ manifest.projects.entries.filterMap platformVersion?,
        platformRow manifest.platformMajor version = row) ∨
      ∃ one ∈ manifest.otherProjects, otherRow manifest.platformMajor one = row := by
    simp only [List.mem_filterMap, projectRow?_eq_some_iff, otherProjects, List.mem_filter,
      Bool.not_eq_true', and_or_left, exists_or, and_assoc]
    refine or_congr_left ⟨?_, ?_⟩
    · rintro ⟨one, member, version, given, eq⟩
      exact ⟨version, ⟨one, member, given⟩, eq⟩
    · rintro ⟨version, ⟨one, member, given⟩, eq⟩
      exact ⟨one, member, version, given, eq⟩
  rw [requirementRows, platformVersions, List.mem_append, List.mem_append, projects]
  simp only [List.mem_append, List.mem_map, or_and_right, exists_or, or_assoc]

/-! ## What stands in the rows -/

/-- The first character of a name, by which the sources of rows are told apart. -/
def initial (name : String) : Option Char := name.toList.head?

@[simp] theorem initial_drupal (name : String) : initial ("drupal/" ++ name) = some 'd' := by
  simp [initial]

@[simp] theorem initial_library (name : String) :
    initial ("Verify project name: " ++ name) = some 'V' := by simp [initial]

@[simp] theorem initial_corePackage (major : Nat) : initial (corePackage major) = some 'd' := by
  rw [corePackage]
  split <;> rfl

theorem ne_of_initial {name other : String} (ne : initial name ≠ initial other) : name ≠ other :=
  fun eq => ne (congrArg initial eq)

theorem isCore_of_mem_otherProjects {one : String × Entry}
    (member : one ∈ manifest.otherProjects) : one.2.isCore one.1 = false := by
  simpa using (List.mem_filter.1 member).2

theorem drupal_eq_corePackage_iff {one : String × Entry}
    (member : one ∈ manifest.otherProjects) (major : Nat) :
    "drupal/" ++ one.1 = corePackage major ↔ one.1 = "core" ∧ lastPrefixingMajor < major := by
  have other := isCore_of_mem_otherProjects member
  rw [← projectName_of_not_isCore other, projectName_eq_corePackage_iff, OnPlatform, other]
  simp [and_comm]

theorem NoneOnPlatform.drupal_ne (none_ : manifest.NoneOnPlatform) {one : String × Entry}
    (member : one ∈ manifest.otherProjects) :
    "drupal/" ++ one.1 ≠ corePackage manifest.platformMajor := fun eq => by
  obtain ⟨named, late⟩ := (drupal_eq_corePackage_iff member _).1 eq
  exact absurd late (Nat.not_lt.2 (none_ one member named))

theorem get?_require_project (none_ : manifest.NoneOnPlatform)
    (names : manifest.projects.names.Nodup) {one : String × Entry}
    (member : one ∈ manifest.otherProjects) :
    manifest.toPackage.require.get? ("drupal/" ++ one.1) =
      some ((projectRequirement? one.2 manifest.platformMajor).getD unknownVersion) := by
  rw [toPackage_require]
  refine Labelled.writes_insert.read_foldl_of_agree _
    (mem_requirementRows_iff.2 (.inr (.inl ⟨one, member, rfl⟩))) fun value row => ?_
  rcases mem_requirementRows_iff.1 row with ⟨version, -, eq⟩ | ⟨two, member', eq⟩ | ⟨two, -, eq⟩
  · exact absurd (Prod.mk.inj eq).1.symm (none_.drupal_ne member)
  · obtain ⟨named, rfl⟩ := Prod.mk.inj eq
    have same : two = one := List.inj_on_of_nodup_map names (List.mem_filter.1 member').1
      (List.mem_filter.1 member).1 ((String.append_right_inj _).1 named)
    rw [same]
  · exact absurd (Prod.mk.inj eq).1 (ne_of_initial (by simp))

theorem get?_require_library (names : manifest.libraries.names.Nodup) {one : String × Entry}
    (member : one ∈ manifest.libraries.entries) :
    manifest.toPackage.require.get? ("Verify project name: " ++ one.1) =
      some (one.2.version.getD unknownVersion) := by
  rw [toPackage_require]
  refine Labelled.writes_insert.read_foldl_of_agree _
    (mem_requirementRows_iff.2 (.inr (.inr ⟨one, member, rfl⟩))) fun value row => ?_
  rcases mem_requirementRows_iff.1 row with ⟨version, -, eq⟩ | ⟨two, -, eq⟩ | ⟨two, member', eq⟩
  · exact absurd (Prod.mk.inj eq).1.symm (ne_of_initial (by simp))
  · exact absurd (Prod.mk.inj eq).1.symm (ne_of_initial (by simp))
  · obtain ⟨named, rfl⟩ := Prod.mk.inj eq
    have same : two = one := List.inj_on_of_nodup_map names member' member
      ((String.append_right_inj _).1 named)
    rw [same]

/-- Among the rows of the projects, those of the platform are the core projects'. -/
theorem filter_projectRows (none_ : manifest.NoneOnPlatform) :
    ((manifest.projects.entries.filterMap (projectRow? manifest.platformMajor)).filter fun row =>
        row.1 = corePackage manifest.platformMajor).map Prod.snd =
      (manifest.projects.entries.filterMap platformVersion?).map coreRequirement := by
  rw [List.filter_filterMap, List.map_filterMap, List.map_filterMap]
  refine List.filterMap_congr fun one member => ?_
  cases core : one.2.isCore one.1 with
  | true =>
    rw [projectRow?, platformVersion?, if_pos core, if_pos core]
    cases one.2.version <;> simp [platformRow]
  | false =>
    have other : one ∈ manifest.otherProjects := List.mem_filter.2 ⟨member, by simp [core]⟩
    rw [projectRow?, platformVersion?, core]
    simp [otherRow, none_.drupal_ne other]

/-- Where no other project has its name, the platform's row is written for the platform only. -/
theorem filter_requirementRows (none_ : manifest.NoneOnPlatform) :
    (manifest.requirementRows.filter fun row =>
        row.1 = corePackage manifest.platformMajor).map Prod.snd =
      manifest.platformVersions.map coreRequirement := by
  have own : ((manifest.core.toList.map (platformRow manifest.platformMajor)).filter fun row =>
      row.1 = corePackage manifest.platformMajor).map Prod.snd =
      manifest.core.toList.map coreRequirement := by
    cases manifest.core <;> simp [platformRow]
  have libraries : (manifest.libraries.entries.map libraryRow).filter (fun row =>
      row.1 = corePackage manifest.platformMajor) = [] := by
    refine List.filter_eq_nil_iff.2 fun row member here => ?_
    obtain ⟨one, -, rfl⟩ := List.mem_map.1 member
    have ne : "Verify project name: " ++ one.1 ≠ corePackage manifest.platformMajor :=
      ne_of_initial (by simp)
    exact ne (of_decide_eq_true here)
  rw [requirementRows, List.filter_append, List.filter_append, List.map_append, List.map_append,
    own, filter_projectRows none_, libraries, platformVersions, List.map_append, List.map_nil,
    List.append_nil]

/-- **The platform is required as the last one asks who asks for a version of it.** -/
theorem get?_require_platform (none_ : manifest.NoneOnPlatform) {version : String}
    (last : manifest.platformVersions.getLast? = some version) :
    manifest.toPackage.require.get? (corePackage manifest.platformMajor) =
      some (coreRequirement version) := by
  have found : lastRow? manifest.requirementRows (corePackage manifest.platformMajor) =
      some (coreRequirement version) := by
    rw [lastRow?, filter_requirementRows none_, List.getLast?_map, last, Option.map_some]
  rw [toPackage_require]
  refine (Labelled.writes_insert.read_foldl _ _ _).trans ?_
  rw [found]
  rfl

/-! ## The rows there are -/

/-- The names under which rows are written, where the platform is asked for. -/
theorem mem_rowNames_iff (asked : manifest.platformVersions ≠ []) :
    name ∈ manifest.requirementRows.map Prod.fst ↔
      name = corePackage manifest.platformMajor ∨
      (∃ one ∈ manifest.otherProjects, "drupal/" ++ one.1 = name) ∨
      ∃ one ∈ manifest.libraries.entries, "Verify project name: " ++ one.1 = name := by
  rw [List.mem_map]
  constructor
  · rintro ⟨row, member, rfl⟩
    rcases mem_requirementRows_iff.1 member with
      ⟨version, -, rfl⟩ | ⟨one, inside, rfl⟩ | ⟨one, inside, rfl⟩
    · exact .inl rfl
    · exact .inr (.inl ⟨one, inside, rfl⟩)
    · exact .inr (.inr ⟨one, inside, rfl⟩)
  · rintro (rfl | ⟨one, inside, rfl⟩ | ⟨one, inside, rfl⟩)
    · obtain ⟨version, inside⟩ := List.exists_mem_of_ne_nil _ asked
      exact ⟨_, mem_requirementRows_iff.2 (.inl ⟨version, inside, rfl⟩), rfl⟩
    · exact ⟨_, mem_requirementRows_iff.2 (.inr (.inl ⟨one, inside, rfl⟩)), rfl⟩
    · exact ⟨_, mem_requirementRows_iff.2 (.inr (.inr ⟨one, inside, rfl⟩)), rfl⟩

/-- **There is a row for each name that is required**, and no other. -/
theorem mem_labels_require_iff (asked : manifest.platformVersions ≠ []) :
    name ∈ manifest.toPackage.require.labels ↔ name ∈ manifest.requiredNames := by
  have installed : (Package.installers.get? name).isSome = true ↔
      name = "composer/installers" ∨ name = "cweagans/composer-patches" := by
    rw [← Labelled.mem_labels_iff]
    simp [show Package.installers.labels =
      ["composer/installers", "cweagans/composer-patches"] by decide +kernel]
  rw [Labelled.mem_labels_iff, toPackage_require]
  refine Labelled.writes_insert.isSome_read_foldl_iff.trans ?_
  rw [mem_rowNames_iff asked, installed, requiredNames]
  simp only [List.mem_append, List.mem_cons, List.mem_map, or_assoc, or_comm, or_left_comm]

theorem nodup_prefixed (start : String) {s : Section} (names : s.names.Nodup) :
    (s.entries.map fun one => start ++ one.1).Nodup := by
  have all := names.map fun name other eq => (String.append_right_inj start).1 eq
  rwa [Section.names, List.map_map] at all

/-- The platform's package and the projects have distinct names unless a project has the name of
the platform's package. -/
theorem nodup_drupalNames_iff (names : manifest.projects.names.Nodup) :
    (corePackage manifest.platformMajor ::
      manifest.otherProjects.map fun one => "drupal/" ++ one.1).Nodup ↔
        manifest.NoneOnPlatform := by
  have projects : (manifest.otherProjects.map fun one => "drupal/" ++ one.1).Nodup :=
    (nodup_prefixed "drupal/" names).sublist (List.filter_sublist.map _)
  rw [List.nodup_cons, and_iff_left projects, List.mem_map]
  constructor
  · intro absent one member named
    refine Nat.not_lt.1 fun late => absent ⟨one, member, ?_⟩
    exact (drupal_eq_corePackage_iff member _).2 ⟨named, late⟩
  · rintro none_ ⟨one, member, eq⟩
    exact none_.drupal_ne member eq

theorem initial_of_mem_drupalNames
    (member : name ∈ corePackage manifest.platformMajor ::
      manifest.otherProjects.map fun one => "drupal/" ++ one.1) : initial name = some 'd' := by
  rcases List.mem_cons.1 member with rfl | member
  · exact initial_corePackage _
  · obtain ⟨one, -, rfl⟩ := List.mem_map.1 member
    exact initial_drupal _

theorem initial_of_mem_libraryNames
    (member : name ∈ manifest.libraries.entries.map fun one => "Verify project name: " ++ one.1) :
    initial name = some 'V' := by
  obtain ⟨one, -, rfl⟩ := List.mem_map.1 member
  exact initial_library _

/-- **The names are distinct** unless a project has the name of the platform's package. -/
theorem nodup_requiredNames_iff (names : ∀ kind, (manifest.sectionOf kind).names.Nodup) :
    manifest.requiredNames.Nodup ↔ manifest.NoneOnPlatform := by
  rw [← nodup_drupalNames_iff (names .projects), requiredNames]
  constructor
  · intro nodup
    exact (List.nodup_append.1 nodup).1.of_cons.of_cons
  · intro nodup
    -- The initials tell the installers, the platform's names and the libraries' names apart.
    have installer (name : String) (first : initial name = some 'c') : name ∉
        corePackage manifest.platformMajor ::
          manifest.otherProjects.map fun one => "drupal/" ++ one.1 := fun member => by
      rw [initial_of_mem_drupalNames member] at first
      cases first
    have libraries := nodup_prefixed "Verify project name: " (names .libraries)
    refine List.nodup_append.2 ⟨List.nodup_cons.2 ⟨?_, List.nodup_cons.2
      ⟨installer _ (by decide), nodup⟩⟩, libraries, fun name member other member' => ?_⟩
    · exact List.not_mem_cons_of_ne_of_not_mem (by decide) (installer _ (by decide))
    · refine ne_of_initial ?_
      rw [initial_of_mem_libraryNames member']
      rcases List.mem_cons.1 member with rfl | member
      · decide
      rcases List.mem_cons.1 member with rfl | member
      · decide
      rw [initial_of_mem_drupalNames member]
      decide

/-- The installers are never replaced. -/
theorem get?_require_installer (first : initial name = some 'c') :
    manifest.toPackage.require.get? name = Package.installers.get? name := by
  have none_ : lastRow? manifest.requirementRows name = none := by
    cases last : lastRow? manifest.requirementRows name with
    | none => rfl
    | some value =>
      rcases mem_requirementRows_iff.1 (mem_of_lastRow? last) with
        ⟨version, -, eq⟩ | ⟨one, -, eq⟩ | ⟨one, -, eq⟩
      all_goals
        obtain ⟨rfl, -⟩ := Prod.mk.inj eq
        simp at first
  rw [toPackage_require]
  refine (Labelled.writes_insert.read_foldl _ _ _).trans ?_
  rw [none_]
  rfl

/-- **When a package requires everything apart**: each project, each library and the platform in a
row of its own, derived from it alone.  The only thing that can go wrong in a checked manifest is a
project called `core` that is not the platform's core, from platform 8 on. -/
theorem requiresApart_iff {valid : Manifest} {options : CheckOptions}
    (h : manifest.validate options [] = .ok valid) :
    valid.RequiresApart valid.toPackage.require ↔ valid.NoneOnPlatform := by
  have promise := valid_of_validate h
  obtain ⟨digits, -, -, core⟩ := promise.core
  have asked : valid.platformVersions ≠ [] := by simp [platformVersions, core]
  constructor
  · intro apart
    exact (nodup_requiredNames_iff promise.names).1
      (apart.rows.nodup_iff.1 (Labelled.nodup_labels _))
  · intro none_
    refine ⟨⟨?_, ?_⟩, ⟨_, List.getLast?_eq_some_getLast asked, ?_⟩, fun one member => ?_,
      fun one member => ?_, ?_⟩
    · rw [get?_require_installer (by decide)]
      decide +kernel
    · rw [get?_require_installer (by decide)]
      decide +kernel
    · exact get?_require_platform none_ (List.getLast?_eq_some_getLast asked)
    · exact get?_require_project none_ (promise.names .projects) member
    · exact get?_require_library (promise.names .libraries) member
    · exact (List.perm_ext_iff_of_nodup (Labelled.nodup_labels _)
        ((nodup_requiredNames_iff promise.names).2 none_)).2 fun name =>
          mem_labels_require_iff asked

/-- A project called `core` is required beside the platform on 7, where the platform's package is
`drupal/drupal`.  On 8 it has the platform's row. -/
theorem requiresApart_iff_calledCore :
    let site (core : String) : Manifest := {
      core := some core
      projects := ⟨[("drupal", .ofVersion "7.4.x"), ("core", .ofVersion "1.0"),
        ("views", { download := some { branch := some "2.x", revision := some "abc" } })]⟩
      libraries := ⟨[("views", {})]⟩ }
    ∃ old new, (site "7.x").validate {} [] = .ok old ∧ (site "8.x").validate {} [] = .ok new ∧
      old.RequiresApart old.toPackage.require ∧ ¬new.RequiresApart new.toPackage.require ∧
      new.toPackage.require.get? "drupal/core" = some "1.0" := by
  intro site
  have old : (site "7.x").validate {} [] = .ok ((site "7.x").completed {}) :=
    validate_nil_iff.2 ⟨rfl, by decide +kernel⟩
  have new : (site "8.x").validate {} [] = .ok ((site "8.x").completed {}) :=
    validate_nil_iff.2 ⟨rfl, by decide +kernel⟩
  exact ⟨_, _, old, new, (requiresApart_iff old).2 (by decide +kernel),
    fun apart => absurd ((requiresApart_iff new).1 apart) (by decide +kernel), by decide +kernel⟩

end Manifest

end BuildManifest
