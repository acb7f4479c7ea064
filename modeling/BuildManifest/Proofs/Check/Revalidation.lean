import BuildManifest.Proofs.Check.Refilled
import BuildManifest.Proofs.Check.Valid

/-!
# What is checked, written and read can be checked again

A checked manifest is complete, and what is written of it can be read.  Checking what is read then
gives the same manifest, but for one field: the exact release that the author asked for is written,
and not read.  The platform version does not tell it any more, for the first check has replaced it
by its branch.

## What is here

* `validate_reread` — a checked manifest without its exact release passes the check as it is.
* `validate_of_validate` — **checking is idempotent**.
* `validate_toTree` — **what checking gives after writing and reading**, and when that is the
  checked manifest again.
-/

set_option autoImplicit false

namespace BuildManifest

open Text

namespace Manifest

variable {manifest valid : Manifest} {options : CheckOptions}

/-- A manifest whose platform version is a branch has nothing more to spell out. -/
theorem withCoreBranch_of_branch {digits : List Char} (nonempty : digits ≠ [])
    (decimal : ∀ c ∈ digits, isDecimalDigit c = true)
    (core : manifest.core = some (String.ofList (digits ++ ['.', 'x']))) :
    manifest.withCoreBranch = manifest := by
  have read : manifest.core.bind readCoreVersion = some ⟨digits, none⟩ := by
    rw [core, Option.bind_some, readCoreVersion_branch nonempty decimal]
  have branch : some (CoreVersion.branch ⟨digits, none⟩) = manifest.core := core.symm
  rw [withCoreBranch, read]
  dsimp only
  rw [branch]
  rfl

/-- **A manifest that is complete and keeps every promise passes the check as it is.** -/
theorem validate_of_complete (promise : manifest.Valid options)
    (complete : ∀ kind, manifest.completedSection kind = manifest.sectionOf kind)
    (clean : manifest.sectionViolations = []) : manifest.validate options [] = .ok manifest := by
  obtain ⟨digits, nonempty, decimal, core⟩ := promise.core
  obtain ⟨version, api, supported⟩ := promise.api
  have completed : manifest.completed options = manifest := by
    have assumed : (manifest.api <|> some options.api) = manifest.api := by
      rw [api]
      rfl
    rw [completed_eq, withCoreBranch_of_branch nonempty decimal core, assumed, complete .projects,
      complete .libraries]
    rfl
  have coreFine : manifest.coreViolations = [] := by
    rw [coreViolations, core]
    dsimp only
    rw [readCoreVersion_branch nonempty decimal]
    rfl
  have apiFine : manifest.apiViolations options = [] := by
    rw [apiViolations, api]
    cases force : options.force with
    | true => simp
    | false => simp [supported force]
  refine validate_nil_iff.2 ⟨completed.symm, ?_⟩
  rw [violations, coreFine, apiFine, completed, clean]
  rfl

/-- **A checked manifest passes the check as it is**, also without its exact release and in another
dialect. -/
theorem validate_reread (h : manifest.validate options [] = .ok valid) (keyed : manifest.Keyed)
    (release : Option String) (format : Option Dialect) :
    ({ valid with coreRelease := release, format } : Manifest).validate options [] =
      .ok { valid with coreRelease := release, format } := by
  have promise := valid_of_validate h
  obtain ⟨rfl, none_⟩ := validate_nil h
  have complete (kind : SectionKind) : (manifest.completed options).completedSection kind =
      (manifest.completed options).sectionOf kind := by
    rw [completedSection_completed keyed, sectionOf_completed]
  have clean : (manifest.completed options).sectionViolations = [] :=
    (List.append_eq_nil_iff.1 none_).2
  exact validate_of_complete
    ⟨promise.core, promise.api, promise.names, promise.paths, promise.libraries⟩ complete clean

/-- **Checking is idempotent**: what one check returns, a second check with the same options returns
as it is, down to the exact release and to the order of what is not interpreted.

No mapping may repeat a key, and none of a manifest that was read does (`keyed_of_parseDetected`):
merging defaults under such a list of entries drops the repetition, so that a second merge meets
another one than the first. -/
theorem validate_of_validate (h : manifest.validate options [] = .ok valid)
    (keyed : manifest.Keyed) : valid.validate options [] = .ok valid :=
  validate_reread h keyed valid.coreRelease valid.format

/-- A manifest with a release to spell out and with defaults of every kind: for the attributes of a
project, for what is not interpreted, and for an attribute that libraries do not have. -/
def withDefaults : Manifest where
  core := some "8.3"
  projects := ⟨[
    ("views", { extra := [(.string "l10n", .mapping [(.string "url", .string "a")])] }),
    ("token", { subdir := some "own" })]⟩
  libraries := ⟨[("jquery", { destination := some "js" })]⟩
  defaults := .ofList [
    ("projects", {
      subdir := some "contrib"
      extra := [
        (.string "weight", .number (.int 1)),
        (.string "l10n", .mapping [(.string "path", .string "b")])] }),
    ("libraries", { contribDestination := some "modules" })]

/-- The two attributes of `views` that are not interpreted come in the order of the defaults, and
they still do after the second check. -/
theorem validate_of_validate_withDefaults : ∃ valid,
    withDefaults.validate {} [] = .ok valid ∧ withDefaults.Keyed ∧
      valid.coreRelease = some "8.3" ∧
      (valid.projects.entries.map fun one => one.2.extra.length) = [2, 2] ∧
      valid.validate {} [] = .ok valid := by
  have keyed : withDefaults.Keyed := by
    constructor
    · intro kind one member
      cases kind with
      | projects => revert one; decide
      | libraries => revert one; decide
    · decide
  have ok : withDefaults.validate {} [] = .ok (withDefaults.completed {}) :=
    validate_nil_iff.2 ⟨rfl, by decide +kernel⟩
  exact ⟨_, ok, keyed, by decide +kernel, by decide +kernel, validate_of_validate ok keyed⟩

/-! ## Writing and reading in between -/

theorem fieldOrNull_normalize_toTree (name : String) (value : Option Tree)
    (member : (name, value) ∈ manifest.fields) (other : name ∉ Tree.entrySections) :
    manifest.toTree.normalize.fieldOrNull name = value.getD .null := by
  rw [Tree.fieldOrNull, Tree.field?_normalize_other _ other]
  exact fieldOrNull_toTree name value member

/-- The versions are read as they were written, whether or not anything else can be. -/
theorem versions_of_ofTree_toTree {read : Manifest} {format : Option Dialect}
    (h : ofTree manifest.toTree.normalize format = .ok read) :
    read.core = manifest.core ∧ read.api = manifest.api := by
  have from_ := readFrom_of_ofTree h
  constructor
  · have read := from_.core
    rw [fieldOrNull_normalize_toTree "core" (manifest.core.map .string) (by simp [fields])
      (by decide), readCore, optionalScalar?_getD] at read
    exact (Except.ok.inj read).symm
  · have read := from_.api
    rw [fieldOrNull_normalize_toTree "api"
      (manifest.api.map fun (version : Nat) => .number (.int version)) (by simp [fields])
      (by decide)] at read
    cases given : manifest.api with
    | none =>
      rw [given] at read
      exact (Except.ok.inj read).symm
    | some version =>
      simp only [given, Option.map_some, Option.getD_some, readApi] at read
      split at read
      · next found known =>
        rw [apiVersion?] at known
        have same := (Option.filter_eq_some_iff.1 known).1
        simp [Number.natural?] at same
        rw [same]
        exact (Except.ok.inj read).symm
      · cases read

/-- **What checking gives after writing and reading**: the checked manifest without its exact
release.  So it is the checked manifest again exactly if that can be read and has no exact
release. -/
theorem validate_toTree (h : manifest.validate options [] = .ok valid) (keyed : manifest.Keyed)
    (format : Option Dialect) :
    (valid.Legible → ∃ read, ofTree valid.toTree.normalize format = .ok read ∧
      read.validate options [] = .ok { valid with coreRelease := none, format }) ∧
    ((∃ read, ofTree valid.toTree.normalize format = .ok read ∧
        read.validate options [] = .ok { valid with format }) ↔
      valid.Legible ∧ valid.coreRelease = none) := by
  have reread (legible : valid.Legible) : ∃ read, ofTree valid.toTree.normalize format = .ok read ∧
      read.validate options [] = .ok { valid with coreRelease := none, format } := by
    refine ⟨_, ?_, validate_reread h keyed none format⟩
    rw [normalize_toTree legible (valid_of_validate h).names]
    exact ofTree_toTree legible format
  refine ⟨reread, ?_, ?_⟩
  · rintro ⟨read, ok, again⟩
    obtain ⟨core, api⟩ := versions_of_ofTree_toTree ok
    obtain ⟨digits, nonempty, decimal, branch⟩ := (valid_of_validate h).core
    obtain ⟨version, given, -⟩ := (valid_of_validate h).api
    obtain ⟨eq, -⟩ := validate_nil again
    have legible : (read.completed options).Legible :=
      legible_completed (legible_of_ofTree ok) fun missing => by
        rw [api, given] at missing
        cases missing
    rw [← eq] at legible
    refine ⟨⟨legible.api, legible.sections, legible.includes, legible.overrides,
      legible.defaults⟩, ?_⟩
    have release := congrArg Manifest.coreRelease eq
    rw [completed_eq, withCoreBranch_of_branch nonempty decimal (core.trans branch),
      coreRelease_of_ofTree ok] at release
    exact release
  · rintro ⟨legible, none_⟩
    rw [← none_] at reread
    exact reread legible

/-- A manifest that asks for one release. -/
def ofRelease : Manifest where
  core := some "8.3"
  api := some 2
  projects := ⟨[("views", {})]⟩

/-- After the check it has the branch and the release; what is written of it is read without the
release, and so does not come back. -/
theorem validate_toTree_ofRelease : ∃ valid, ofRelease.validate {} [] = .ok valid ∧
    valid.core = some "8.x" ∧ valid.coreRelease = some "8.3" ∧
    (∃ read, ofTree valid.toTree.normalize (some .yaml) = .ok read ∧
      read.validate {} [] = .ok { valid with coreRelease := none, format := some .yaml }) ∧
    ¬∃ read, ofTree valid.toTree.normalize (some .yaml) = .ok read ∧
      read.validate {} [] = .ok { valid with format := some .yaml } := by
  have keyed : ofRelease.Keyed := by
    refine ⟨fun kind one member => ?_, fun one member => ?_⟩
    · cases kind with
      | projects =>
        cases List.mem_singleton.1 member
        decide
      | libraries => cases member
    · cases member
  have legible : ofRelease.Legible := by
    refine ⟨fun version given => ?_, fun kind one member => ?_, ?_, ?_, ?_⟩
    · cases given
      decide
    · cases kind with
      | projects =>
        cases List.mem_singleton.1 member
        exact Entry.legible_empty
      | libraries => cases member
    all_goals
      intro one member
      cases member
  have ok : ofRelease.validate {} [] = .ok (ofRelease.completed {}) :=
    validate_nil_iff.2 ⟨rfl, by decide +kernel⟩
  have versions : (ofRelease.completed {}).core = some "8.x" ∧
      (ofRelease.completed {}).coreRelease = some "8.3" := by decide +kernel
  obtain ⟨reread, again⟩ := validate_toTree ok keyed (some .yaml)
  refine ⟨_, ok, versions.1, versions.2, reread (legible_completed legible nofun), fun back => ?_⟩
  have none_ := (again.1 back).2
  rw [versions.2] at none_
  cases none_

end Manifest

end BuildManifest
