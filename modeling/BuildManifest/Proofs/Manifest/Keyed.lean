import BuildManifest.Proofs.Manifest.Canonical
import BuildManifest.Proofs.Manifest.Legible
import BuildManifest.Proofs.Tree.Clean
import BuildManifest.Proofs.Tree.Parsed

/-!
# Manifests without repeated keys

Attributes that are not interpreted are kept as trees.  Where no mapping of a manifest has a key
twice before it is read, none has in what is kept of it.  And no text gives a mapping that has.

## What is here

* `Entry.Keyed`, `Manifest.Keyed` — in what is not interpreted, no mapping repeats a key.
* `Manifest.keyed_of_ofTree` — **a tree without repeated keys is read without them**.
* `Manifest.keyed_of_parseDetected` — and so is every text.
-/

set_option autoImplicit false

namespace BuildManifest

variable {attributes : Mapping} {key tree value : Tree}

theorem Tree.wellKeyed_untagged : (value : Tree) → value.wellKeyed = true →
    value.untagged.wellKeyed = true
  | .tagged _ content, keyed => wellKeyed_untagged content keyed
  | .mapping _, keyed => keyed
  | .sequence _, keyed => keyed
  | .null, _ => rfl
  | .bool _, _ => rfl
  | .number _, _ => rfl
  | .string _, _ => rfl

/-! ## Entries -/

namespace Entry

variable {entry : Entry}

/-- In what is not interpreted, no mapping repeats a key. -/
def Keyed (entry : Entry) : Prop := Tree.wellKeyed (.mapping entry.extra) = true

instance (entry : Entry) : Decidable entry.Keyed := inferInstanceAs (Decidable (_ = true))

theorem Legible.apart_extra (legible : entry.Legible) :
    Mapping.Apart entry.extra := by
  refine List.Pairwise.imp_of_mem (fun {a b} _ second ne => ?_) legible.apart
  obtain ⟨name, eq, -⟩ := legible.extra b second
  refine Bool.eq_false_iff.2 fun same => ne ?_
  rw [eq] at same ⊢
  exact ((Tree.same_iff_of_textual (Tree.textual_string name)).1 same).symm

theorem keyed_of_ofMapping (keyed : Tree.wellKeyed (.mapping attributes) = true)
    (h : ofMapping attributes = .ok entry) : entry.Keyed := by
  have legible := legible_of_ofMapping h
  refine Tree.wellKeyed_mapping_iff.2 ⟨legible.apart_extra, fun pair member => ?_⟩
  obtain ⟨name, eq, -⟩ := legible.extra pair member
  refine ⟨eq ▸ rfl, ?_⟩
  rw [(readFrom_of_ofMapping h).extra] at member
  obtain ⟨given, inside, kept⟩ := List.mem_filterMap.1 member
  obtain ⟨_, -, rfl⟩ := Option.map_eq_some_iff.1 kept
  exact ((Tree.wellKeyed_mapping_iff.1 keyed).2 given (List.mem_of_mem_filter inside)).2

theorem keyed_of_ofTree (keyed : value.wellKeyed = true) (h : ofTree value = .ok entry) :
    entry.Keyed := by
  have keyed := Tree.wellKeyed_untagged value keyed
  rw [ofTree.eq_def] at h
  split at h
  · cases h
    rfl
  · next attributes shape =>
    rw [shape] at keyed
    exact keyed_of_ofMapping keyed h
  · cases h

end Entry

theorem Section.keyed_of_readEntry {one : String × Entry} (keyed : value.wellKeyed = true)
    (h : readEntry key value = .ok one) : one.2.Keyed := by
  rw [readEntry.eq_def] at h
  split at h
  · split at h
    · next given =>
      rw [← Except.ok.inj h]
      exact Entry.keyed_of_ofMapping keyed given
    · cases h
  · rw [← Except.ok.inj h]
    rfl
  · split at h
    · cases h
    · rw [← Except.ok.inj h]
      split <;> rfl

theorem Section.keyed_of_ofTree {kind : SectionKind} {s : Section}
    (keyed : tree.wellKeyed = true) (h : ofTree kind tree = .ok s) :
    ∀ one ∈ s.entries, one.2.Keyed := by
  have keyed := Tree.wellKeyed_indexed keyed
  rw [ofTree.eq_def] at h
  split at h
  · rw [← Except.ok.inj h]
    exact fun _ member => nomatch member
  · next entries shape =>
    rw [shape] at keyed
    obtain ⟨list, read, rfl⟩ := map_eq_ok_iff.1 h
    intro one member
    obtain ⟨entry, inside, read⟩ := exists_entry_of_readEntries read member
    exact keyed_of_readEntry ((Tree.wellKeyed_mapping_iff.1 keyed).2 entry inside).2 read
  · cases h

/-! ## Manifests -/

namespace Manifest

variable {manifest : Manifest} {format : Option Dialect}

/-- In what is not interpreted, no mapping repeats a key. -/
structure Keyed (manifest : Manifest) : Prop where
  /-- Not in any entry. -/
  sections : ∀ kind, ∀ one ∈ (manifest.sectionOf kind).entries, one.2.Keyed
  /-- Not in the defaults of a section. -/
  defaults : ∀ one ∈ manifest.defaults.entries, one.2.Keyed

/-- **A tree without repeated keys is read without them.** -/
theorem keyed_of_ofTree (keyed : tree.wellKeyed = true) (h : ofTree tree format = .ok manifest) :
    manifest.Keyed := by
  have from_ := readFrom_of_ofTree h
  have field (name : String) := Tree.wellKeyed_fieldOrNull keyed name
  refine ⟨fun kind => Section.keyed_of_ofTree (field _) (from_.sections kind), ?_⟩
  refine forall_mem_of_readDefaults from_.defaults fun entries eq pair member _ read => ?_
  have inside := (Tree.wellKeyed_mapping_iff.1 (eq ▸ field "defaults")).2
  exact Entry.keyed_of_ofTree (inside pair member).2 read

/-- **A text is read without repeated keys.** -/
theorem keyed_of_parseDetected {text : String} {read : Tree × Dialect}
    (parsed : parseDetected text = .ok read) (h : ofTree read.1.normalize format = .ok manifest) :
    manifest.Keyed := by
  obtain ⟨_, -, keyed⟩ := wellKeyed_of_parseDetected parsed
  exact keyed_of_ofTree (Tree.wellKeyed_normalize keyed) h

end Manifest

end BuildManifest
