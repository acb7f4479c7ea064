import BuildManifest.Proofs.Resolve.Root
import BuildManifest.Proofs.Success
import BuildManifest.Proofs.Tree.Merging

/-!
# Which key a field of a manifest is read from

A field is read from the value of its key, and from nothing where the key is missing.  Merging,
settling and taking out another key act on that value alone.

## What is here

* `Tree.fieldOrNull` — what a field is read from, and what the steps of a merge make of it.
* `Manifest.readFrom_of_ofTree` — **every field is read from the key of its name**.
-/

set_option autoImplicit false

namespace BuildManifest

namespace Tree

/-- What a manifest has under a key, or nothing. -/
def fieldOrNull (tree : Tree) (name : String) : Tree := (tree.field? name).getD .null

variable {base top tree : Tree}

theorem fieldOrNull_empty (name : String) : fieldOrNull (.mapping []) name = .null := rfl

theorem fieldOrNull_merge (below : base.Rooted) (above : top.Rooted) (name : String) :
    (base.merge top).fieldOrNull name = (base.fieldOrNull name).merge (top.fieldOrNull name) := by
  rw [fieldOrNull, field?_merge below above, Mapping.getD_layered]
  rfl

theorem settledUnder_null (key : Tree) : settledUnder key .null = .null := by
  rw [settledUnder.eq_def]
  split
  · rfl
  · rfl
  · rfl

theorem fieldOrNull_settle (tree : Tree) (name : String) :
    (settle tree).fieldOrNull name = settledUnder (.string name) (tree.fieldOrNull name) := by
  rw [fieldOrNull, fieldOrNull, field?_settle]
  cases tree.field? name with
  | none => exact (settledUnder_null _).symm
  | some value => rfl

theorem fieldOrNull_without_self (rooted : tree.Rooted) (name : String) :
    (tree.without name).fieldOrNull name = .null := by
  rw [fieldOrNull, field?_without_self rooted]
  rfl

theorem fieldOrNull_without_other (rooted : tree.Rooted) {name other : String} (ne : name ≠ other) :
    (tree.without name).fieldOrNull other = tree.fieldOrNull other := by
  rw [fieldOrNull, fieldOrNull, field?_without_other rooted ne]

theorem fieldOrNull_normalize_section (tree : Tree) (kind : SectionKind) :
    tree.normalize.fieldOrNull kind.name = (tree.fieldOrNull kind.name).normalizeSection := by
  rw [fieldOrNull, fieldOrNull, field?_normalize_section tree (by cases kind <;> decide)]
  cases tree.field? kind.name <;> rfl

end Tree

namespace Manifest

/-- The fields of a manifest and the keys they are read from. -/
structure ReadFrom (tree : Tree) (manifest : Manifest) : Prop where
  core : readCore (tree.fieldOrNull "core") = .ok manifest.core
  api : readApi (tree.fieldOrNull "api") = .ok manifest.api
  sections : ∀ kind : SectionKind,
    Section.ofTree kind (tree.fieldOrNull kind.name) = .ok (manifest.sectionOf kind)
  includes : readReferences (tree.fieldOrNull "includes") = .ok manifest.includes
  overrides : readReferences (tree.fieldOrNull "overrides") = .ok manifest.overrides
  defaults : readDefaults (tree.fieldOrNull "defaults") = .ok manifest.defaults

/-- **Every field is read from the key of its name.** -/
theorem readFrom_of_ofTree {tree : Tree} {format : Option Dialect} {manifest : Manifest}
    (h : ofTree tree format = .ok manifest) : ReadFrom tree manifest := by
  cases tree with
  | mapping root =>
    obtain ⟨core, readCore, h⟩ := bind_eq_ok_iff.1 h
    obtain ⟨api, readApi, h⟩ := bind_eq_ok_iff.1 h
    obtain ⟨projects, readProjects, h⟩ := bind_eq_ok_iff.1 h
    obtain ⟨libraries, readLibraries, h⟩ := bind_eq_ok_iff.1 h
    obtain ⟨includes, readIncludes, h⟩ := bind_eq_ok_iff.1 h
    obtain ⟨overrides, readOverrides, h⟩ := bind_eq_ok_iff.1 h
    obtain ⟨defaults, readDefaults, h⟩ := bind_eq_ok_iff.1 h
    cases h
    refine ⟨readCore, readApi, fun kind => ?_, readIncludes, readOverrides, readDefaults⟩
    cases kind with
    | projects => exact readProjects
    | libraries => exact readLibraries
  | null =>
    cases h
    exact ⟨rfl, rfl, fun kind => by cases kind <;> rfl, rfl, rfl, rfl⟩
  | _ => cases h

/-- The exact release is not read. -/
theorem coreRelease_of_ofTree {tree : Tree} {format : Option Dialect} {manifest : Manifest}
    (h : ofTree tree format = .ok manifest) : manifest.coreRelease = none := by
  cases tree with
  | mapping root =>
    obtain ⟨core, -, h⟩ := bind_eq_ok_iff.1 h
    obtain ⟨api, -, h⟩ := bind_eq_ok_iff.1 h
    obtain ⟨projects, -, h⟩ := bind_eq_ok_iff.1 h
    obtain ⟨libraries, -, h⟩ := bind_eq_ok_iff.1 h
    obtain ⟨includes, -, h⟩ := bind_eq_ok_iff.1 h
    obtain ⟨overrides, -, h⟩ := bind_eq_ok_iff.1 h
    obtain ⟨defaults, -, h⟩ := bind_eq_ok_iff.1 h
    cases h
    rfl
  | null =>
    cases h
    rfl
  | _ => cases h

/-- **A manifest is read from its fields**; nothing is read as its exact release. -/
theorem ofTree_of_readFrom {root : Mapping} {manifest : Manifest}
    (h : ReadFrom (.mapping root) manifest) (format : Option Dialect) :
    ofTree (.mapping root) format = .ok { manifest with coreRelease := none, format } :=
  bind_eq_ok_iff.2 ⟨_, h.core, bind_eq_ok_iff.2 ⟨_, h.api,
    bind_eq_ok_iff.2 ⟨_, h.sections .projects, bind_eq_ok_iff.2 ⟨_, h.sections .libraries,
    bind_eq_ok_iff.2 ⟨_, h.includes, bind_eq_ok_iff.2 ⟨_, h.overrides,
    bind_eq_ok_iff.2 ⟨_, h.defaults, rfl⟩⟩⟩⟩⟩⟩⟩

/-- **A manifest can be read if each of its fields can.** -/
theorem exists_ofTree {tree : Tree} (rooted : tree.Rooted) (format : Option Dialect)
    (core : ∃ core, readCore (tree.fieldOrNull "core") = .ok core)
    (api : ∃ api, readApi (tree.fieldOrNull "api") = .ok api)
    (sections : ∀ kind : SectionKind,
      ∃ result, Section.ofTree kind (tree.fieldOrNull kind.name) = .ok result)
    (includes : ∃ includes, readReferences (tree.fieldOrNull "includes") = .ok includes)
    (overrides : ∃ overrides, readReferences (tree.fieldOrNull "overrides") = .ok overrides)
    (defaults : ∃ defaults, readDefaults (tree.fieldOrNull "defaults") = .ok defaults) :
    ∃ manifest, ofTree tree format = .ok manifest := by
  obtain ⟨root, rfl, -⟩ := rooted
  obtain ⟨core, readCore⟩ := core
  obtain ⟨api, readApi⟩ := api
  obtain ⟨projects, readProjects⟩ := sections .projects
  obtain ⟨libraries, readLibraries⟩ := sections .libraries
  obtain ⟨includes, readIncludes⟩ := includes
  obtain ⟨overrides, readOverrides⟩ := overrides
  obtain ⟨defaults, readDefaults⟩ := defaults
  have from_ : ReadFrom (.mapping root)
      { core, api, projects, libraries, includes, overrides, defaults } :=
    ⟨readCore, readApi, fun kind => by cases kind <;> assumption, readIncludes, readOverrides,
      readDefaults⟩
  exact ⟨_, ofTree_of_readFrom from_ format⟩

end Manifest

end BuildManifest
