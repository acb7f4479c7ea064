import BuildManifest.Proofs.Resolve.Root
import BuildManifest.Proofs.Tree.Canonical
import BuildManifest.Proofs.Tree.Settled

/-!
# Sections in their canonical shape, laid on each other

A merge takes every entry from one of the two sections, or merges two entries that are written
out, and then the merge is written out as well.  What may go wrong are the names: a name that is
left in a list must be declared by a key, and a merge keeps the lower one of two keys that are the
same.  Zero and minus zero are the same key, but they read as different names.

## What is here

* `expanded_merge` — entries that are written out, laid on each other.
* `SpeltAlike` — a key that declares a name listed is spelt alike in the lower section.
* `normalizeSection_merge` — **a merge is in its canonical shape if both sections are**.
* `normalizeSection_projectsCoreFirst` — so are the projects with the core project in front.
-/

set_option autoImplicit false

namespace BuildManifest.Tree

open BuildManifest.Mapping (Apart Distinct keys)

variable {base top entries others attributes : Mapping} {lower upper value : Tree}
  {name : String}

/-! ## Entries -/

theorem canonicalAttributes_mergeEntries (below : CanonicalAttributes base)
    (above : CanonicalAttributes top) (distinct : Distinct top) :
    CanonicalAttributes (mergeEntries base top) := by
  have found (name : String) : Mapping.get? (mergeEntries base top) name =
      Mapping.layered (Mapping.get? base name) (Mapping.get? top name) :=
    Mapping.find?_mergeEntries (textual_string name) (distinct _ (textual_string name))
  refine ⟨?_, fun url => ?_⟩
  · rw [found, below.patch, above.patch]
    rfl
  · rw [found]
    have notLower := below.download
    have notUpper := above.download
    cases lower : Mapping.get? base "download" with
    | none =>
      cases upper : Mapping.get? top "download" with
      | none => exact nofun
      | some download => exact fun eq => notUpper url (upper.trans eq)
    | some current =>
      rw [lower] at notLower
      cases upper : Mapping.get? top "download" with
      | none => exact notLower url
      | some download =>
        rw [upper] at notUpper
        rw [Mapping.layered]
        refine merge_induction (fun tree => some tree ≠ some (.string url)) (notLower url)
          (notUpper url) ?_
        rintro _ _ _ _ ⟨⟩

/-- **Entries that are written out** are so when they are laid on each other. -/
theorem expanded_merge (below : Expanded lower) (above : Expanded upper)
    (keyed : upper.wellKeyed = true) : Expanded (lower.merge upper) := by
  refine merge_induction Expanded below above fun attributes attributes' eq eq' => ?_
  subst eq eq'
  exact canonicalAttributes_mergeEntries below above
    (Mapping.distinct_of_apart (wellKeyed_mapping_iff.1 keyed).1)

/-- A merge lists what one of the two lists. -/
theorem text?_merge (text : (lower.merge upper).text? = some name) :
    lower.text? = some name ∨ upper.text? = some name := by
  revert text
  refine merge_induction (fun tree => tree.text? = some name → _) .inl .inr ?_
  exact fun _ _ _ _ => nofun

/-! ## Names -/

/-- Every key of the upper section is in the merge, or one that is the same in the lower section
stands for it. -/
theorem exists_key_mergeEntries (apart : Apart top) {key : Tree} (member : key ∈ keys top) :
    key ∈ keys (mergeEntries base top) ∨ ∃ present ∈ keys base, key.same present = true := by
  induction top generalizing base with
  | nil => cases member
  | cons first rest ih =>
    obtain ⟨head, value⟩ := first
    obtain ⟨fresh, apart⟩ := Mapping.apart_cons.1 apart
    obtain ⟨merged, step, -⟩ := Mapping.mergeEntries_cons rest
    rw [step]
    rcases List.mem_cons.1 member with rfl | later
    · cases found : Mapping.find? base key with
      | none =>
        refine .inl (Mapping.mem_keys_mergeEntries_of_base ?_)
        rw [Mapping.insert_of_find?_eq_none found]
        simp [keys]
      | some current =>
        obtain ⟨present, inside, same⟩ := Mapping.exists_mem_of_find? found
        exact .inr ⟨present, List.mem_map_of_mem inside, same⟩
    · refine (ih apart later).imp_right ?_
      rintro ⟨present, inside, same⟩
      rcases Mapping.mem_keys_insert inside with old | rfl
      · exact ⟨present, old, same⟩
      · obtain ⟨entry, inside', rfl⟩ := List.mem_map.1 later
        rw [fresh entry inside'] at same
        cases same

/-- A key of the upper section that declares a name listed there is spelt alike in the lower
section, if it is a key there. -/
def SpeltAlike (lower upper : Mapping) : Prop :=
  ∀ key ∈ keys upper, key.keyText ∈ itemNames upper →
    ∀ present ∈ keys lower, key.same present = true → present.keyText = key.keyText

instance (lower upper : Mapping) : Decidable (SpeltAlike lower upper) :=
  inferInstanceAs (Decidable (∀ key ∈ keys upper, _))

theorem declaredNames_mergeEntries_of_base : declaredNames base ⊆
    declaredNames (mergeEntries base top) := by
  intro name member
  obtain ⟨key, inside, named, text⟩ := mem_declaredNames_iff.1 member
  exact mem_declaredNames_iff.2
    ⟨key, Mapping.mem_keys_mergeEntries_of_base inside, named, text⟩

/-- **A name listed stays declared**, where its key is spelt alike. -/
theorem mem_declaredNames_mergeEntries (apart : Apart top) (alike : SpeltAlike base top)
    (listed : name ∈ itemNames top) (declared : name ∈ declaredNames top) :
    name ∈ declaredNames (mergeEntries base top) := by
  obtain ⟨key, inside, named, rfl⟩ := mem_declaredNames_iff.1 declared
  rcases exists_key_mergeEntries apart inside with kept | ⟨present, below, same⟩
  · exact mem_declaredNames_iff.2 ⟨key, kept, named, rfl⟩
  · exact mem_declaredNames_iff.2 ⟨present, Mapping.mem_keys_mergeEntries_of_base below,
      (isIndexKey_of_same same).trans named, alike key inside listed present below same⟩

theorem mem_itemNames_mergeEntries (member : name ∈ itemNames (mergeEntries base top)) :
    name ∈ itemNames base ∨ name ∈ itemNames top := by
  obtain ⟨entry, inside, item⟩ := mem_itemNames_iff.1 member
  refine Mapping.forall_mem_mergeEntries (fun key value => ∀ name,
      itemName? (key, value) = some name → name ∈ itemNames base ∨ name ∈ itemNames top)
    (fun _ same below above name item => ?_)
    (fun entry inside name item => .inl (mem_itemNames_iff.2 ⟨entry, inside, item⟩))
    (fun entry inside name item => .inr (mem_itemNames_iff.2 ⟨entry, inside, item⟩))
    entry inside name item
  obtain ⟨index, text⟩ := itemName?_eq_some_iff.1 item
  rcases text?_merge text with text | text
  · exact below name (itemName?_eq_some_iff.2 ⟨index, text⟩)
  · exact above name (itemName?_eq_some_iff.2 ⟨(isIndexKey_of_same same).symm.trans index, text⟩)

/-! ## Sections -/

theorem inCanonicalShape_mergeEntries (keyed : wellKeyed (.mapping base) = true)
    (keyed' : wellKeyed (.mapping top) = true) (below : InCanonicalShape base)
    (above : InCanonicalShape top) (alike : SpeltAlike base top) :
    InCanonicalShape (mergeEntries base top) := by
  obtain ⟨-, inside⟩ := wellKeyed_mapping_iff.1 keyed
  obtain ⟨apart, inside'⟩ := wellKeyed_mapping_iff.1 keyed'
  refine ⟨fun name member => ?_, ?_⟩
  · rcases mem_itemNames_mergeEntries member with listed | listed
    · exact declaredNames_mergeEntries_of_base (below.items listed)
    · exact mem_declaredNames_mergeEntries apart alike listed (above.items listed)
  · suffices all : ∀ entry ∈ mergeEntries base top, entry.1.isIndexKey = false →
        Expanded entry.2 from
      fun entry member named => expandEntry_of_expanded (all entry member named)
    refine Mapping.forall_mem_mergeEntries (fun key value => key.isIndexKey = false →
      Expanded value) ?_ ?_ ?_
    · intro key present lower upper member same below above named
      refine expanded_merge (below named) (above ?_) (inside' _ member).2
      exact (isIndexKey_of_same same).symm.trans named
    · exact fun entry member named =>
        (expandEntry_eq_self_iff (inside entry member).2).1 (below.expanded entry member named)
    · exact fun entry member named =>
        (expandEntry_eq_self_iff (inside' entry member).2).1 (above.expanded entry member named)

theorem inCanonicalShape_of_perm (canonical : InCanonicalShape entries)
    (perm : entries.Perm others) : InCanonicalShape others := by
  refine ⟨fun name listed => ?_, fun entry member =>
    canonical.expanded entry (perm.mem_iff.2 member)⟩
  have declared := canonical.items (((perm.filterMap _).mem_iff).2 listed)
  obtain ⟨key, inside, named, text⟩ := mem_declaredNames_iff.1 declared
  exact mem_declaredNames_iff.2 ⟨key, (perm.map _).mem_iff.1 inside, named, text⟩

/-- **A merge is in its canonical shape if both sections are**, and every key that declares a name
listed is spelt alike. -/
theorem normalizeSection_merge (keyed : lower.wellKeyed = true) (keyed' : upper.wellKeyed = true)
    (below : normalizeSection lower = lower) (above : normalizeSection upper = upper)
    (alike : SpeltAlike lower.topEntries upper.topEntries) :
    normalizeSection (lower.merge upper) = lower.merge upper := by
  refine merge_induction (fun tree => normalizeSection tree = tree) below above
    fun base top eq eq' => ?_
  subst eq eq'
  have canonical := inCanonicalShape_mergeEntries keyed keyed'
    ((normalizeSection_eq_self_iff keyed).1 below).2
    ((normalizeSection_eq_self_iff keyed').1 above).2 alike
  have apart : Apart (mergeEntries base top) :=
    Mapping.apart_mergeEntries (wellKeyed_mapping_iff.1 keyed).1
  rw [normalizeSection_mapping, (canonicalEntries_eq_self_iff apart).2 canonical]

/-- **The projects with the core project in front** are in their canonical shape if they were. -/
theorem normalizeSection_projectsCoreFirst (keyed : value.wellKeyed = true)
    (fixed : normalizeSection value = value) :
    normalizeSection (projectsCoreFirst value) = projectsCoreFirst value := by
  cases value with
  | mapping entries =>
    obtain ⟨apart, inside⟩ := wellKeyed_mapping_iff.1 keyed
    have perm := (entriesCoreFirst_perm entries).symm
    have apart' := Mapping.apart_of_perm (fun entry member => (inside entry member).1) apart perm
    have canonical := ((normalizeSection_eq_self_iff keyed).1 fixed).2
    rw [projectsCoreFirst, normalizeSection_mapping, mapping.injEq,
      canonicalEntries_eq_self_iff apart']
    exact inCanonicalShape_of_perm canonical perm
  | _ => exact fixed

end BuildManifest.Tree
