import BuildManifest.Proofs.Check.Valid
import BuildManifest.Proofs.Package.Rows
import Mathlib.Data.List.Nodup
import Mathlib.Data.List.Perm.Basic

/-!
# The patches of a package

The patches of all projects go into one table, under the name of the package that is patched and a
description.  Two patches that meet under one name and description leave one row.  They meet where
two projects go by one name and give one label, as two core projects do with their first patches;
and within one project, where a label spells out the description that a number gets.

## What is here

* `Manifest.givenPatches`, `Package.patchRows` — the patches of all projects, and the rows there
  are.
* `Package.Meet`, `place_eq_iff_meet` — **when two patches have one place**.
* `toPackage_patches` — what is written, and in which order.
* `Manifest.KeepsPatches`, `keepsPatches_iff` — **when no patch is lost**.
-/

set_option autoImplicit false

namespace BuildManifest

open Package

/-- A patch of a project: the project, and the patch with its label. -/
abbrev GivenPatch := (String × Entry) × (String × Patch)

/-- The patches of all projects, in order. -/
def Manifest.givenPatches (manifest : Manifest) : List GivenPatch :=
  manifest.projects.entries.flatMap fun one => one.2.patches.entries.map fun patch => (one, patch)

/-! ## Descriptions -/

namespace Package

variable {major : Nat} {name label label' : String}

/-- The description of a patch that has none: it tells the number, and where to put a better one. -/
def placeholder (name label : String) : String :=
  "Enter " ++ name ++ " patch #" ++ label ++ " description here"

/-- A label that says nothing but a number, or nothing at all. -/
def IsNumber (label : String) : Prop := label.toList.all Char.isDigit = true

instance (label : String) : Decidable (IsNumber label) := inferInstanceAs (Decidable (_ = true))

/-- Two labels get one description: they are the same, or one of them spells out the description
that the other gets for its number. -/
def AlikeLabels (name label label' : String) : Prop :=
  label = label' ∨ IsNumber label ∧ label' = placeholder name label ∨
    IsNumber label' ∧ label = placeholder name label'

instance (name label label' : String) : Decidable (AlikeLabels name label label') :=
  inferInstanceAs (Decidable (_ ∨ _))

theorem placeholder_inj (eq : placeholder name label = placeholder name label') :
    label = label' := by
  simpa [placeholder, String.append_assoc] using eq

theorem not_isNumber_placeholder (name label : String) : ¬IsNumber (placeholder name label) := by
  simp [IsNumber, placeholder]

theorem patchDescription_of_isNumber (number : IsNumber label) :
    patchDescription name label = placeholder name label := if_pos number

theorem patchDescription_of_not (word : ¬IsNumber label) : patchDescription name label = label :=
  if_neg word

/-- **When two labels get one description.** -/
theorem patchDescription_eq_iff :
    patchDescription name label = patchDescription name label' ↔ AlikeLabels name label label' := by
  rw [AlikeLabels]
  by_cases number : IsNumber label <;> by_cases number' : IsNumber label'
  · rw [patchDescription_of_isNumber number, patchDescription_of_isNumber number']
    refine ⟨fun eq => .inl (placeholder_inj eq), ?_⟩
    rintro (rfl | ⟨-, rfl⟩ | ⟨-, rfl⟩)
    · rfl
    · exact absurd number' (not_isNumber_placeholder name label)
    · exact absurd number (not_isNumber_placeholder name label')
  · rw [patchDescription_of_isNumber number, patchDescription_of_not number']
    refine ⟨fun eq => .inr (.inl ⟨number, eq.symm⟩), ?_⟩
    rintro (rfl | ⟨-, rfl⟩ | ⟨number', -⟩)
    · exact absurd number number'
    · rfl
    · contradiction
  · rw [patchDescription_of_not number, patchDescription_of_isNumber number']
    refine ⟨fun eq => .inr (.inr ⟨number', eq⟩), ?_⟩
    rintro (rfl | ⟨number, -⟩ | ⟨-, rfl⟩)
    · exact absurd number' number
    · contradiction
    · rfl
  · rw [patchDescription_of_not number, patchDescription_of_not number']
    refine ⟨.inl, ?_⟩
    rintro (rfl | ⟨number, -⟩ | ⟨number', -⟩)
    · rfl
    · contradiction
    · contradiction

/-! ## Places -/

/-- The name and the description under which a patch is written. -/
def place (major : Nat) (given : GivenPatch) : String × String :=
  let name := projectName major given.1.1 given.1.2
  (name, patchDescription name given.2.1)

/-- The row of a patch. -/
def patchRow (major : Nat) (given : GivenPatch) : (String × String) × String :=
  (place major given, given.2.2.url)

/-- Two patches meet: their projects go by one name, and their labels get one description. -/
def Meet (major : Nat) (one other : GivenPatch) : Prop :=
  (one.1.1 = other.1.1 ∨ OnPlatform major one.1 ∧ OnPlatform major other.1) ∧
    AlikeLabels (projectName major one.1.1 one.1.2) one.2.1 other.2.1

instance (major : Nat) (one other : GivenPatch) : Decidable (Meet major one other) :=
  inferInstanceAs (Decidable (_ ∧ _))

/-- **When two patches have one place.** -/
theorem place_eq_iff_meet {one other : GivenPatch} (same : one.1.1 = other.1.1 → one.1 = other.1) :
    place major one = place major other ↔ Meet major one other := by
  rw [place, place, Prod.mk.injEq, Meet, ← projectName_eq_iff same, ← patchDescription_eq_iff]
  exact and_congr_right fun named => by rw [named]

/-! ## The table of patches -/

/-- The address at a place. -/
def patchAt? (patches : Labelled (Labelled String)) (place : String × String) : Option String :=
  (patches.get? place.1).bind (·.get? place.2)

/-- Write an address at a place. -/
def writePatch (patches : Labelled (Labelled String)) (row : (String × String) × String) :
    Labelled (Labelled String) :=
  patches.insert row.1.1 (((patches.get? row.1.1).getD .empty).insert row.1.2 row.2)

theorem writes_writePatch : Writes patchAt? writePatch := by
  rintro patches ⟨⟨name, description⟩, url⟩ ⟨wanted, wanted'⟩
  rw [patchAt?, patchAt?, writePatch, Labelled.get?_insert]
  by_cases named : name = wanted
  · subst named
    rw [if_pos rfl, Option.bind_some, Labelled.get?_insert]
    by_cases described : description = wanted'
    · simp [described]
    · rw [if_neg described, if_neg fun eq => described (Prod.mk.inj eq).2]
      cases patches.get? name <;> rfl
  · rw [if_neg named, if_neg fun eq => named (Prod.mk.inj eq).1]

/-- The rows of the table of patches. -/
def patchRows (package : Package) : List ((String × String) × String) :=
  package.patches.entries.flatMap fun one => one.2.entries.map fun row => ((one.1, row.1), row.2)

variable {package : Package}

/-- **The rows are what is found.** -/
theorem mem_patchRows_iff {row : (String × String) × String} :
    row ∈ package.patchRows ↔ patchAt? package.patches row.1 = some row.2 := by
  obtain ⟨⟨name, description⟩, url⟩ := row
  rw [patchRows, List.mem_flatMap, patchAt?, Option.bind_eq_some_iff]
  constructor
  · rintro ⟨⟨_, table⟩, member, inside⟩
    obtain ⟨⟨_, _⟩, found, eq⟩ := List.mem_map.1 inside
    cases eq
    exact ⟨table, Labelled.mem_entries_iff.1 member, Labelled.mem_entries_iff.1 found⟩
  · rintro ⟨table, member, found⟩
    exact ⟨(name, table), Labelled.mem_of_get? member,
      List.mem_map.2 ⟨(description, url), Labelled.mem_of_get? found, rfl⟩⟩

/-- No place stands in two rows. -/
theorem nodup_places (package : Package) : (package.patchRows.map Prod.fst).Nodup := by
  have tables : (package.patches.entries.map Prod.fst).Nodup := package.patches.nodup_labels
  rw [patchRows, List.map_flatMap, List.nodup_flatMap]
  constructor
  · rintro ⟨name, table⟩ -
    rw [List.map_map]
    have labels := table.nodup_labels.map fun label label' (eq : (name, label) = (name, label')) =>
      (Prod.mk.inj eq).2
    rwa [Labelled.labels, List.map_map] at labels
  · refine (List.pairwise_map.1 tables).imp fun {one other} ne => ?_
    intro row inside inside'
    simp only [List.map_map, List.mem_map, Function.comp_apply] at inside inside'
    obtain ⟨_, -, rfl⟩ := inside
    obtain ⟨_, -, eq⟩ := inside'
    exact ne (Prod.mk.inj eq).1.symm

/-! ## The patches that are written -/

theorem patches_requireProject (package : Package) (major : Nat) (one : String × Entry) :
    (package.requireProject major one.1 one.2).patches = package.patches := by
  rw [requireProject]
  split
  · cases one.2.version <;> rfl
  · rfl

theorem patches_addProject (major : Nat) (package : Package) (one : String × Entry) :
    (package.addProject major one).patches =
      (one.2.patches.entries.map fun patch => patchRow major (one, patch)).foldl writePatch
        package.patches := by
  rw [← patches_requireProject package major one, List.map_eq_flatMap]
  exact foldl_of_writes (fun _ _ => rfl) _ _

theorem patches_addLibrary (package : Package) (one : String × Entry) :
    (package.addLibrary one).patches = package.patches := rfl

end Package

namespace Manifest

variable {manifest : Manifest}

/-- **The patches of a package are those of the projects**, written one after the other. -/
theorem toPackage_patches (manifest : Manifest) : manifest.toPackage.patches =
    (manifest.givenPatches.map (patchRow manifest.platformMajor)).foldl writePatch .empty := by
  have libraries := foldl_of_keeps Package.patches patches_addLibrary manifest.libraries.entries
  have start : (ofCore manifest.platformMajor manifest.core).patches = .empty := by
    cases core : manifest.core <;> rfl
  rw [givenPatches, List.map_flatMap, ← start, toPackage, libraries]
  simp only [List.map_map]
  exact foldl_of_writes (patches_addProject _) manifest.projects.entries _

/-- **The places of the rows are those of the patches.** -/
theorem mem_places_iff {wanted : String × String} :
    wanted ∈ manifest.toPackage.patchRows.map Prod.fst ↔
      wanted ∈ manifest.givenPatches.map (place manifest.platformMajor) := by
  have found : wanted ∈ manifest.toPackage.patchRows.map Prod.fst ↔
      (patchAt? manifest.toPackage.patches wanted).isSome = true := by
    rw [Option.isSome_iff_exists, List.mem_map]
    constructor
    · rintro ⟨row, member, rfl⟩
      exact ⟨row.2, mem_patchRows_iff.1 member⟩
    · rintro ⟨url, read⟩
      exact ⟨(wanted, url), mem_patchRows_iff.2 read, rfl⟩
  have none_ : patchAt? .empty wanted = none := rfl
  rw [found, toPackage_patches, writes_writePatch.isSome_read_foldl_iff, none_, List.map_map]
  exact or_iff_left Bool.false_ne_true

theorem nodup_givenPlaces_iff (names : manifest.projects.names.Nodup) :
    (manifest.givenPatches.map (place manifest.platformMajor)).Nodup ↔
      manifest.givenPatches.Pairwise fun one other => ¬Meet manifest.platformMajor one other := by
  have project {given : GivenPatch} (member : given ∈ manifest.givenPatches) :
      given.1 ∈ manifest.projects.entries := by
    obtain ⟨one, inside, patch⟩ := List.mem_flatMap.1 member
    obtain ⟨_, -, rfl⟩ := List.mem_map.1 patch
    exact inside
  have meets {one other : GivenPatch} (member : one ∈ manifest.givenPatches)
      (member' : other ∈ manifest.givenPatches) : place manifest.platformMajor one =
        place manifest.platformMajor other ↔ Meet manifest.platformMajor one other :=
    place_eq_iff_meet (List.inj_on_of_nodup_map names (project member) (project member'))
  rw [List.Nodup, List.pairwise_map]
  exact ⟨.imp_of_mem fun member member' ne => ne ∘ (meets member member').2,
    .imp_of_mem fun member member' apart => apart ∘ (meets member member').1⟩

/-- **No patch is lost**: each is in a row of its own, and there are no other rows. -/
structure KeepsPatches (manifest : Manifest) (package : Package) : Prop where
  /-- Each patch is under the name of its project, with its description. -/
  kept : ∀ given ∈ manifest.givenPatches,
    patchRow manifest.platformMajor given ∈ package.patchRows
  /-- There are as many rows as patches. -/
  count : package.patchRows.length = manifest.givenPatches.length

/-- Where all patches have their own places, each is in the row of its place. -/
theorem patchRow_mem_of_nodup
    (nodup : (manifest.givenPatches.map (place manifest.platformMajor)).Nodup)
    {given : GivenPatch} (member : given ∈ manifest.givenPatches) :
    patchRow manifest.platformMajor given ∈ manifest.toPackage.patchRows := by
  rw [mem_patchRows_iff, toPackage_patches]
  refine writes_writePatch.read_foldl_of_agree _ (List.mem_map_of_mem member) fun url row => ?_
  obtain ⟨other, member', eq⟩ := List.mem_map.1 row
  obtain ⟨here, rfl⟩ := Prod.mk.inj eq
  have same : other = given := List.inj_on_of_nodup_map nodup member' member here
  rw [same]
  rfl

/-- **When no patch is lost**: no two of a checked manifest meet. -/
theorem keepsPatches_iff {valid : Manifest} {options : CheckOptions}
    (h : manifest.validate options [] = .ok valid) :
    valid.KeepsPatches valid.toPackage ↔
      valid.givenPatches.Pairwise fun one other => ¬Meet valid.platformMajor one other := by
  have length (package : Package) :
      (package.patchRows.map Prod.fst).length = package.patchRows.length := List.length_map _
  rw [← nodup_givenPlaces_iff ((valid_of_validate h).names .projects)]
  constructor
  · intro keeps
    -- The places of the rows are among those of the patches, and as many; so they are the same.
    have fewer : (valid.givenPatches.map (place valid.platformMajor)).length ≤
        (valid.toPackage.patchRows.map Prod.fst).length := by
      rw [length, keeps.count]
      exact Nat.le_of_eq (List.length_map _)
    have within := List.subperm_of_subset (nodup_places valid.toPackage) fun _ => mem_places_iff.1
    exact (within.perm_of_length_le fewer).nodup_iff.1 (nodup_places _)
  · intro nodup
    refine ⟨fun given member => patchRow_mem_of_nodup nodup member, ?_⟩
    have same := (List.perm_ext_iff_of_nodup (nodup_places valid.toPackage) nodup).2 fun _ =>
      mem_places_iff
    rw [← length, same.length_eq, List.length_map]

/-- Two core projects keep their patches if the labels differ, and lose one if both are numbered
from 0. -/
theorem keepsPatches_iff_twoCores :
    let site (label : String) : Manifest := {
      core := some "8.x"
      projects := ⟨[
        ("drupal", { patches := .ofList [("0", .bare "a.patch"), ("why", .bare "b.patch")] }),
        ("mine", { kind := some "core", patches := .ofList [(label, .bare "c.patch")] })]⟩ }
    ∃ named numbered, (site "because").validate {} [] = .ok named ∧
      (site "0").validate {} [] = .ok numbered ∧ named.KeepsPatches named.toPackage ∧
      ¬numbered.KeepsPatches numbered.toPackage ∧ numbered.toPackage.patchRows =
        [(("drupal/core", "Enter drupal/core patch #0 description here"), "c.patch"),
          (("drupal/core", "why"), "b.patch")] := by
  intro site
  have named : (site "because").validate {} [] = .ok ((site "because").completed {}) :=
    validate_nil_iff.2 ⟨rfl, by decide +kernel⟩
  have numbered : (site "0").validate {} [] = .ok ((site "0").completed {}) :=
    validate_nil_iff.2 ⟨rfl, by decide +kernel⟩
  exact ⟨_, _, named, numbered, (keepsPatches_iff named).2 (by decide +kernel),
    fun keeps => absurd ((keepsPatches_iff numbered).1 keeps) (by decide +kernel),
    by decide +kernel⟩

end Manifest

end BuildManifest
