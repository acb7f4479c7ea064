import BuildManifest.Proofs.Check.Valid
import BuildManifest.Proofs.Package.Rows
import BuildManifest.Proofs.Text.Numerals

/-!
# The platform a package is made for

A package is made for one major version of the platform: its repository, the name of the platform's
package and the prefix of old versions all come from that number.  The number is read back from the
version that validation left in the manifest, and the two readers do not agree.  Validation takes
any decimal digits of Unicode, as many as there are, and what is read back are digits of ASCII and a
number of 32 bits.  A checked manifest whose major number is written otherwise loses it, and its
package is made for the version that is assumed where a manifest has none.

## What is here

* `Manifest.majorDigits`, `Manifest.writtenMajor` — the major number as it is written, and what it
  stands for.
* `Manifest.packageFor`, `packageFor_inj` — the package for a given platform, which tells it.
* `Manifest.PlainMajor`, `coreMajor?_eq` — which major numbers are read back.
* `keepsPlatform_iff` — **when a package is made for the platform that was written**.
-/

set_option autoImplicit false

namespace BuildManifest

open Text Package

namespace Manifest

variable {manifest : Manifest} {major other : Nat}

/-! ## The number that was written -/

/-- The major number of the platform, as it is written in front of the point. -/
def majorDigits (manifest : Manifest) : List Char :=
  (manifest.core.getD "").toList.takeWhile (· != '.')

/-- The major number of the platform. -/
def writtenMajor (manifest : Manifest) : Nat := decimalValue manifest.majorDigits

/-- The major number is written with digits of ASCII, and has no more than 32 bits. -/
def PlainMajor (manifest : Manifest) : Prop :=
  isDigits manifest.majorDigits = true ∧ manifest.writtenMajor < versionBound

instance (manifest : Manifest) : Decidable manifest.PlainMajor :=
  inferInstanceAs (Decidable (_ ∧ _))

theorem majorDigits_branch {digits : List Char} (decimal : ∀ c ∈ digits, isDecimalDigit c = true)
    (core : manifest.core = some (String.ofList (digits ++ ['.', 'x']))) :
    manifest.majorDigits = digits := by
  have plain : ∀ c ∈ digits, (c != '.') = true := by
    intro c member
    rw [bne_iff_ne]
    rintro rfl
    exact absurd (decimal _ member) (by decide)
  rw [majorDigits, core, Option.getD_some, String.toList_ofList,
    List.takeWhile_append_of_pos plain]
  simp

/-- **The major number is read back exactly if it is plain.**  Otherwise there is none. -/
theorem coreMajor?_eq (decimal : ∀ c ∈ manifest.majorDigits, isDecimalDigit c = true) :
    manifest.coreMajor? = if manifest.PlainMajor then some manifest.writtenMajor else none := by
  have read : manifest.coreMajor? = readNatBelow versionBound manifest.majorDigits := by
    rw [coreMajor?, majorDigits]
    cases manifest.core <;> rfl
  rw [read, readNatBelow_of_isDecimalDigit decimal]
  rfl

/-! ## The number a package is made for -/

/-- The package that requires what the manifest lists, for a given major version of the platform. -/
def packageFor (manifest : Manifest) (major : Nat) : Package :=
  manifest.libraries.entries.foldl addLibrary
    (manifest.projects.entries.foldl (addProject major) (ofCore major manifest.core))

theorem toPackage_eq_packageFor (manifest : Manifest) :
    manifest.toPackage = manifest.packageFor manifest.platformMajor := rfl

theorem repositoryUrl_addProject (package : Package) (one : String × Entry) :
    (package.addProject major one).repositoryUrl = package.repositoryUrl := by
  refine (foldl_of_keeps Package.repositoryUrl (fun done patch => ?_) _ _).trans ?_
  · rw [patching]
  rw [requireProject]
  split
  · cases one.2.version <;> rfl
  · rfl

/-- The repository is that of the platform. -/
theorem repositoryUrl_packageFor (manifest : Manifest) (major : Nat) :
    (manifest.packageFor major).repositoryUrl =
      "https://packages.drupal.org/" ++ toString major := by
  have library (package : Package) (one : String × Entry) :
      (package.addLibrary one).repositoryUrl = package.repositoryUrl := rfl
  have start : (ofCore major manifest.core).repositoryUrl =
      "https://packages.drupal.org/" ++ toString major := by
    cases manifest.core <;> rfl
  refine (foldl_of_keeps Package.repositoryUrl library _ _).trans ?_
  exact (foldl_of_keeps Package.repositoryUrl repositoryUrl_addProject _ _).trans start

/-- **A package tells the platform it was made for.** -/
theorem packageFor_inj :
    manifest.packageFor major = manifest.packageFor other ↔ major = other := by
  refine ⟨fun same => ?_, congrArg manifest.packageFor⟩
  have url := congrArg Package.repositoryUrl same
  rw [repositoryUrl_packageFor, repositoryUrl_packageFor, String.append_right_inj] at url
  exact natRepr_inj url

/-! ## The two of them -/

/-- **When a package is made for the platform that was written.**  What validation leaves is a major
number in decimal digits, followed by `.x`.  The number is read back exactly if the digits are those
of ASCII and it has no more than 32 bits.  Otherwise none is read, and the package is made for the
assumed version, which is right only where that was written. -/
theorem keepsPlatform_iff {valid : Manifest} {options : CheckOptions}
    (h : manifest.validate options [] = .ok valid) :
    CoreVersion.Digits valid.majorDigits ∧
      valid.core = some (String.ofList (valid.majorDigits ++ ['.', 'x'])) ∧
      (valid.coreMajor? = some valid.writtenMajor ↔ valid.PlainMajor) ∧
      (valid.toPackage = valid.packageFor valid.writtenMajor ↔
        valid.PlainMajor ∨ valid.writtenMajor = assumedMajor) ∧
      (¬valid.PlainMajor →
        valid.coreMajor? = none ∧ valid.toPackage = valid.packageFor assumedMajor) := by
  obtain ⟨digits, some_, decimal, core⟩ := (valid_of_validate h).core
  have written := majorDigits_branch decimal core
  have decimal' : ∀ c ∈ valid.majorDigits, isDecimalDigit c = true := by rwa [written]
  have read := coreMajor?_eq decimal'
  refine ⟨⟨by rwa [written], decimal'⟩, by rw [written, core], ?_⟩
  rw [toPackage_eq_packageFor, packageFor_inj, packageFor_inj, platformMajor, read]
  by_cases plain : valid.PlainMajor
  · simp [plain]
  · simp [plain, eq_comm]

/-- A seven of ASCII makes a package for platform 7, and one of another script makes it for 8. -/
theorem keepsPlatform_iff_scripts :
    let site (core : String) : Manifest := {
      core := some core
      projects := ⟨[("views", .ofVersion "3.1")]⟩ }
    ∃ plain other,
      (site "7.x").validate {} [] = .ok plain ∧ (site "٧.x").validate {} [] = .ok other ∧
      plain.writtenMajor = 7 ∧ plain.toPackage = plain.packageFor 7 ∧
      other.writtenMajor = 7 ∧ other.toPackage ≠ other.packageFor 7 ∧
      other.toPackage = other.packageFor 8 := by
  intro site
  have plain : (site "7.x").validate {} [] = .ok ((site "7.x").completed {}) :=
    validate_nil_iff.2 ⟨rfl, by decide +kernel⟩
  have other : (site "٧.x").validate {} [] = .ok ((site "٧.x").completed {}) :=
    validate_nil_iff.2 ⟨rfl, by decide +kernel⟩
  have seven : ((site "7.x").completed {}).writtenMajor = 7 := by decide +kernel
  have seven' : ((site "٧.x").completed {}).writtenMajor = 7 := by decide +kernel
  have lost : ¬((site "٧.x").completed {}).PlainMajor := by decide +kernel
  obtain ⟨-, -, -, made, -⟩ := keepsPlatform_iff plain
  obtain ⟨-, -, -, made', assumed⟩ := keepsPlatform_iff other
  rw [seven] at made
  rw [seven'] at made'
  exact ⟨_, _, plain, other, seven, made.2 (.inl (by decide +kernel)), seven',
    fun same => (made'.1 same).elim lost (by decide), (assumed lost).2⟩

end Manifest

end BuildManifest
