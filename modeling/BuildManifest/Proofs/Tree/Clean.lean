import BuildManifest.Proofs.Manifest.Fitting
import BuildManifest.Proofs.Tree.Canonical
import BuildManifest.Proofs.Tree.Settled

/-!
# Clean trees

What can be said of a tree by saying it of everything in it, as that no mapping has a key twice, is
kept when trees are merged and normalized.

A tree is clean if, besides, no tag stands in it.  In a clean tree a key has a meaning only if it is
the text itself, and it has it once.

## What is here

* `Hereditary` — what is said of a tree by saying it of everything in it.
* `Hereditary.normalizeSection`, `Hereditary.normalize` — **normalizing keeps it**.
* `wellKeyed_normalize` — so normalizing gives no key twice.
* `Clean`, `hereditary_clean`, `text?_eq_some_iff` — clean trees, and the texts among them.
-/

set_option autoImplicit false

namespace BuildManifest.Tree

open BuildManifest.Mapping (Apart insertAll)

variable {entries attributes done list : Mapping} {key value base top : Tree} {name : String}

/-! ## What is said of everything in a tree -/

/-- A mapping has the property exactly if its keys are apart and all that stands in it has the
property. -/
structure Hereditary (good : Tree → Prop) : Prop where
  /-- No mapping has a key twice. -/
  keyed {tree : Tree} (h : good tree) : tree.wellKeyed = true
  /-- What a mapping with the property is. -/
  mapping_iff {entries : Mapping} : good (.mapping entries) ↔
    Apart entries ∧ ∀ entry ∈ entries, good entry.1 ∧ good entry.2
  /-- Every text has it. -/
  text (text : String) : good (.string text)
  /-- What is merged of two trees that have it has it. -/
  merge {base top : Tree} (below : good base) (above : good top) : good (base.merge top)
  /-- So does a list under its indices. -/
  indexed {tree : Tree} (h : good tree) : good tree.indexed

namespace Hereditary

variable {good : Tree → Prop} (hereditary : Hereditary good)
include hereditary

theorem nothing : good (.mapping []) :=
  hereditary.mapping_iff.2 ⟨List.Pairwise.nil, List.forall_mem_nil _⟩

theorem get? (h : good (.mapping entries)) (found : Mapping.get? entries name = some value) :
    good value :=
  ((hereditary.mapping_iff.1 h).2 _ (Mapping.mem_of_find? (textual_string name) found)).2

theorem insert (h : good (.mapping entries)) (goodKey : good key) (goodValue : good value) :
    good (.mapping (Mapping.insert entries key value)) := by
  obtain ⟨apart, inside⟩ := hereditary.mapping_iff.1 h
  refine hereditary.mapping_iff.2 ⟨Mapping.apart_insert apart, fun entry member => ?_⟩
  rcases Mapping.mem_insert member with old | ⟨rfl, -⟩ | ⟨present, current, rfl, -, old, -⟩
  · exact inside entry old
  · exact ⟨goodKey, goodValue⟩
  · exact ⟨(inside _ old).1, goodValue⟩

theorem insertAll (h : good (.mapping done)) (all : ∀ entry ∈ list, good entry.1 ∧ good entry.2) :
    good (.mapping (insertAll done list)) := by
  induction list generalizing done with
  | nil => exact h
  | cons first rest ih =>
    obtain ⟨⟨goodKey, goodValue⟩, later⟩ := List.forall_mem_cons.1 all
    exact ih (hereditary.insert h goodKey goodValue) later

theorem of_perm {others : Mapping} (h : good (.mapping entries)) (perm : entries.Perm others) :
    good (.mapping others) := by
  obtain ⟨apart, inside⟩ := hereditary.mapping_iff.1 h
  exact hereditary.mapping_iff.2
    ⟨Mapping.apart_of_perm (fun entry member => hereditary.keyed (inside entry member).1) apart
        perm,
      fun entry member => inside entry (perm.mem_iff.2 member)⟩

theorem of_sublist {others : Mapping} (h : good (.mapping entries))
    (sublist : others.Sublist entries) : good (.mapping others) := by
  obtain ⟨apart, inside⟩ := hereditary.mapping_iff.1 h
  exact hereditary.mapping_iff.2
    ⟨apart.sublist sublist, fun entry member => inside entry (sublist.subset member)⟩

theorem erase (h : good (.mapping entries)) : good (.mapping (Mapping.erase entries key)) :=
  hereditary.of_perm (hereditary.of_sublist h List.eraseP_sublist)
    (Mapping.erase_perm entries key).symm

/-! ### Normalizing -/

theorem foldPatch (h : good (.mapping attributes)) : good (.mapping (foldPatch attributes)) := by
  rw [Tree.foldPatch]
  split
  · exact h
  · next patch found =>
    have without : good (.mapping (Mapping.erase attributes (.string "patch"))) :=
      hereditary.erase h
    have given := hereditary.get? h found
    dsimp only
    split
    · exact hereditary.insert without (hereditary.text _) given
    · next patches found' =>
      exact hereditary.insert (hereditary.erase without) (hereditary.text _)
        (hereditary.merge (hereditary.indexed given)
          (hereditary.indexed (hereditary.get? without found')))

theorem normalizeAttributes (h : good (.mapping attributes)) :
    good (.mapping (normalizeAttributes attributes)) := by
  have folded := hereditary.foldPatch h
  rw [Tree.normalizeAttributes, expandDownload]
  split
  · refine hereditary.insert folded (hereditary.text _) ?_
    exact hereditary.insert hereditary.nothing (hereditary.text _) (hereditary.text _)
  · exact folded

theorem expandEntry (h : good value) : good (expandEntry value) := by
  have version (text : String) : good (.mapping [(.string "version", .string text)]) :=
    hereditary.insert hereditary.nothing (hereditary.text _) (hereditary.text _)
  cases value with
  | mapping attributes => exact hereditary.normalizeAttributes h
  | null => exact hereditary.nothing
  | sequence items => exact h
  | tagged tag content => exact h
  | _ => exact version _

/-- What becomes of an entry has the property if the entry has. -/
theorem carries {declared seen next : List String} {entry first : Tree × Tree}
    (carries : Carries declared seen entry first next) (h : good entry.1 ∧ good entry.2) :
    good first.1 ∧ good first.2 := by
  cases carries with
  | stays index taken => exact h
  | named index text undeclared unseen => exact ⟨hereditary.text _, hereditary.nothing⟩
  | expands named => exact ⟨h.1, hereditary.expandEntry h.2⟩

/-- **A section keeps the property when it gets its canonical shape.** -/
theorem normalizeSection (h : good value) : good value.normalizeSection := by
  rw [← normalizeSection_indexed]
  have h := hereditary.indexed h
  cases shape : value.indexed with
  | mapping entries =>
    rw [shape] at h
    rw [normalizeSection_mapping]
    refine hereditary.insertAll hereditary.nothing fun first member => ?_
    obtain ⟨entry, inside, _, _, -, carries⟩ := mem_carried member
    exact hereditary.carries carries ((hereditary.mapping_iff.1 h).2 entry inside)
  | sequence items => cases value <;> cases shape
  | _ =>
    rw [shape] at h
    exact h

/-- **So does a manifest.** -/
theorem normalize (h : good value) : good value.normalize := by
  cases value with
  | mapping root =>
    have step {root : Mapping} (h : good (.mapping root)) (name : String) :
        good (.mapping (changeKey Tree.normalizeSection root name)) := by
      rw [changeKey]
      split
      · next value found =>
        exact hereditary.insert h (hereditary.text _)
          (hereditary.normalizeSection (hereditary.get? h found))
      · exact h
    exact step (step h _) _
  | _ => exact h

theorem projectsCoreFirst (h : good value) : good value.projectsCoreFirst := by
  cases value with
  | mapping entries => exact hereditary.of_perm h (entriesCoreFirst_perm entries).symm
  | _ => exact h

end Hereditary

theorem hereditary_wellKeyed : Hereditary fun tree => tree.wellKeyed = true where
  keyed h := h
  mapping_iff := wellKeyed_mapping_iff
  text _ := rfl
  merge below above := wellKeyed_merge _ below above
  indexed h := wellKeyed_indexed h

/-- **A manifest has no key twice once it is normalized.** -/
theorem wellKeyed_normalize (keyed : value.wellKeyed = true) : value.normalize.wellKeyed = true :=
  hereditary_wellKeyed.normalize keyed

/-! ## Clean trees -/

/-- No tag stands in the tree, and no mapping in it has a key twice. -/
structure Clean (tree : Tree) : Prop where
  /-- No mapping has a key twice. -/
  keyed : tree.wellKeyed = true
  /-- There is no tag. -/
  untagged : tree.hasTag = false

theorem clean_mapping_iff : Clean (.mapping entries) ↔
    Apart entries ∧ ∀ entry ∈ entries, Clean entry.1 ∧ Clean entry.2 := by
  constructor
  · rintro ⟨keyed, untagged⟩
    obtain ⟨apart, inside⟩ := wellKeyed_mapping_iff.1 keyed
    rw [hasTag, entriesHaveTag_eq_false_iff] at untagged
    exact ⟨apart, fun entry member => ⟨⟨(inside entry member).1, (untagged entry member).1⟩,
      (inside entry member).2, (untagged entry member).2⟩⟩
  · rintro ⟨apart, inside⟩
    refine ⟨wellKeyed_mapping_iff.2 ⟨apart, fun entry member =>
      ⟨(inside entry member).1.keyed, (inside entry member).2.keyed⟩⟩, ?_⟩
    rw [hasTag, entriesHaveTag_eq_false_iff]
    exact fun entry member => ⟨(inside entry member).1.untagged, (inside entry member).2.untagged⟩

theorem hasTag_indexed (untagged : value.hasTag = false) : value.indexed.hasTag = false := by
  cases value with
  | sequence items =>
    have all (first : Nat) (items : List Tree) (h : itemsHaveTag items = false) :
        entriesHaveTag (indexedFrom first items) = false := by
      induction items generalizing first with
      | nil => rfl
      | cons item rest ih =>
        rw [itemsHaveTag, Bool.or_eq_false_iff] at h
        rw [indexedFrom, entriesHaveTag, h.1, ih _ h.2]
        rfl
    exact all 0 items untagged
  | _ => exact untagged

/-- **Cleanness is hereditary.** -/
theorem hereditary_clean : Hereditary Clean where
  keyed h := h.keyed
  mapping_iff := clean_mapping_iff
  text _ := ⟨rfl, rfl⟩
  merge below above :=
    ⟨wellKeyed_merge _ below.keyed above.keyed, hasTag_merge _ below.untagged above.untagged⟩
  indexed h := ⟨wellKeyed_indexed h.keyed, hasTag_indexed h.untagged⟩

/-- In a clean tree nothing but a text has a text. -/
theorem text?_eq_some_iff (clean : Clean value) :
    value.text? = some name ↔ value = .string name := by
  cases value with
  | tagged tag content => cases clean.untagged
  | string text => simp [text?, untagged]
  | _ => simp [text?, untagged]

end BuildManifest.Tree
