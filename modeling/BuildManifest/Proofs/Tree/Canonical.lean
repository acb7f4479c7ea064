import BuildManifest.Proofs.Tree.Carried
import BuildManifest.Tree.Equal

/-!
# The canonical shape of a section

A section is in its canonical shape if normalizing it changes nothing.  That is so exactly if every
entry under a name is written out and every item left in the list is a name that the section
declares as a key.

Normalizing once does not always get there.  A name in digits that a list holds twice becomes an
entry the first time and stays an item the second time, but since a key in digits counts as an
index, it declares no name: the next time around the item becomes an entry again, in place of the
one that is there.

## What is here

* `Expanded`, `expandEntry_eq_self_iff` — entries that are written out.
* `InCanonicalShape`, `canonicalEntries_eq_self_iff` — **what a section in its canonical shape is**.
* `normalizeSection_eq_self_iff` — the same for what stands under the key of a section.
* `strayNumerals` — the names in digits that are left in a list.
* `normalizeSection_normalizeSection_eq_iff` — **normalizing twice is normalizing once, exactly if
  there are none**; `strayNumerals_normalizeSection` for lists that hold no such name twice.
-/

set_option autoImplicit false

namespace BuildManifest.Tree

open BuildManifest.Mapping (Apart Distinct keys)

variable {attributes entries : Mapping} {value : Tree} {declared seen : List String}
  {name : String} {entry : Tree × Tree}

/-! ## Entries that are written out -/

/-- Attributes in their canonical shape. -/
structure CanonicalAttributes (attributes : Mapping) : Prop where
  /-- The patches do not go by `patch`. -/
  patch : Mapping.get? attributes "patch" = none
  /-- The download is not a bare text. -/
  download : ∀ url, Mapping.get? attributes "download" ≠ some (.string url)

theorem normalizeAttributes_of_canonical (canonical : CanonicalAttributes attributes) :
    normalizeAttributes attributes = attributes := by
  have folded : foldPatch attributes = attributes := by rw [foldPatch, canonical.patch]
  rw [normalizeAttributes, folded, expandDownload]
  split
  · next url found => exact absurd found (canonical.download url)
  · rfl

theorem get?_foldPatch_patch (distinct : Distinct attributes) :
    Mapping.get? (foldPatch attributes) "patch" = none := by
  have textual := textual_string "patch"
  have erased := Mapping.find?_erase_self textual (distinct _ textual)
  have ne : Tree.string "patches" ≠ .string "patch" := by decide
  rw [foldPatch]
  split
  · next absent => exact absent
  · dsimp only
    split
    · rw [Mapping.get?, Mapping.find?_insert_other textual ne, erased]
    · rw [Mapping.get?, Mapping.find?_insert_other textual ne,
        Mapping.find?_erase_other textual (Mapping.distinct_erase distinct _ textual) ne, erased]

/-- **Normalizing attributes once is enough.** -/
theorem canonical_normalizeAttributes (distinct : Distinct attributes) :
    CanonicalAttributes (normalizeAttributes attributes) := by
  have patch := get?_foldPatch_patch distinct
  rw [normalizeAttributes, expandDownload]
  split
  · refine ⟨?_, fun url found => ?_⟩
    · rw [Mapping.get?, Mapping.find?_insert_other (textual_string _) (by decide)]
      exact patch
    · rw [Mapping.get?, Mapping.find?_insert_self (textual_string _)] at found
      cases found
  · next other => exact ⟨patch, other⟩

/-- An entry that is written out: attributes in their canonical shape, or nothing that could be
written out. -/
def Expanded : Tree → Prop
  | .mapping attributes => CanonicalAttributes attributes
  | .sequence _ => True
  | .tagged _ _ => True
  | _ => False

theorem expanded_empty : Expanded (.mapping []) := ⟨rfl, nofun⟩

theorem expandEntry_of_expanded (expanded : Expanded value) : expandEntry value = value := by
  cases value with
  | mapping attributes => exact congrArg mapping (normalizeAttributes_of_canonical expanded)
  | sequence items => rfl
  | tagged tag content => rfl
  | _ => exact expanded.elim

/-- **An entry is written out once and for all.** -/
theorem expanded_expandEntry (keyed : value.wellKeyed = true) : Expanded (expandEntry value) := by
  have version (text : String) : Expanded (.mapping [(.string "version", .string text)]) :=
    ⟨rfl, nofun⟩
  cases value with
  | mapping attributes =>
    exact canonical_normalizeAttributes
      (Mapping.distinct_of_apart (wellKeyed_mapping_iff.1 keyed).1)
  | null => exact expanded_empty
  | sequence items => trivial
  | tagged tag content => trivial
  | _ => exact version _

theorem expandEntry_eq_self_iff (keyed : value.wellKeyed = true) :
    expandEntry value = value ↔ Expanded value :=
  ⟨fun eq => eq ▸ expanded_expandEntry keyed, expandEntry_of_expanded⟩

/-! ## Sections -/

/-- The names that the items of a list give. -/
def itemNames (entries : Mapping) : List String := entries.filterMap itemName?

theorem mem_itemNames_iff :
    name ∈ itemNames entries ↔ ∃ entry ∈ entries, itemName? entry = some name :=
  List.mem_filterMap

/-- A section in its canonical shape. -/
structure InCanonicalShape (entries : Mapping) : Prop where
  /-- What is left in the list are names that are declared as keys. -/
  items : itemNames entries ⊆ declaredNames entries
  /-- What has a name is written out. -/
  expanded : ∀ entry ∈ entries, entry.1.isIndexKey = false → expandEntry entry.2 = entry.2

/-- The entries are carried over as they are exactly if their items are declared and their other
entries written out. -/
theorem carried_eq_self_iff (declares : Declares declared entries) (known : seen ⊆ declared) :
    carried declared seen entries = entries ↔ itemNames entries ⊆ declared ∧
      ∀ entry ∈ entries, entry.1.isIndexKey = false → expandEntry entry.2 = entry.2 := by
  induction entries generalizing seen with
  | nil => simp [carried, itemNames]
  | cons entry rest ih =>
    obtain ⟨first, next, eq, carries⟩ := carried_cons declared seen entry rest
    have declares' : Declares declared rest := fun key member =>
      declares key (List.mem_cons_of_mem _ member)
    rw [eq, List.cons.injEq, List.forall_mem_cons]
    cases carries with
    | @stays key value index taken =>
      have here (name : String) (item : itemName? (key, value) = some name) : name ∈ declared :=
        (taken name (itemName?_eq_some_iff.1 item).2).elim id fun h => known h
      have items : itemNames ((key, value) :: rest) ⊆ declared ↔ itemNames rest ⊆ declared := by
        cases item : itemName? (key, value) with
        | none => rw [itemNames, List.filterMap_cons_none item, itemNames]
        | some name =>
          rw [itemNames, List.filterMap_cons_some item, List.cons_subset, itemNames]
          exact and_iff_right (here name item)
      rw [ih declares' known, items]
      simp [index]
    | @named key value name index text undeclared unseen =>
      have item : itemName? (key, value) = some name := itemName?_eq_some_iff.2 ⟨index, text⟩
      constructor
      · rintro ⟨same, -⟩
        cases same
        cases text
      · rintro ⟨items, -⟩
        rw [itemNames, List.filterMap_cons_some item] at items
        exact absurd (items List.mem_cons_self) undeclared
    | @expands key value named =>
      have item : itemName? (key, value) = none := by simp [itemName?, named]
      have known' : key.keyText :: seen ⊆ declared :=
        List.cons_subset.2 ⟨declares key List.mem_cons_self named, known⟩
      rw [ih declares' known', itemNames, itemNames, List.filterMap_cons_none item,
        Prod.mk.injEq]
      simp only [named, true_and, forall_const]
      exact and_left_comm

/-- **What a section in its canonical shape is.** -/
theorem canonicalEntries_eq_self_iff (apart : Apart entries) :
    canonicalEntries entries = entries ↔ InCanonicalShape entries := by
  have kept : canonicalEntries entries = entries ↔
      carried (declaredNames entries) [] entries = entries := by
    constructor
    · intro eq
      have length : (canonicalEntries entries).length =
          (carried (declaredNames entries) [] entries).length := by rw [eq, length_carried]
      rwa [canonicalEntries, Mapping.ofList_of_length length] at eq
    · intro eq
      rw [canonicalEntries, eq, Mapping.ofList_of_apart apart]
  rw [kept, carried_eq_self_iff (declares_declaredNames entries) (List.nil_subset _)]
  exact ⟨fun h => ⟨h.1, h.2⟩, fun h => ⟨h.items, h.expanded⟩⟩

/-! ### Names in digits -/

/-- The names in digits that are left in the list of a section although no key declares them. -/
def strayNumerals (value : Tree) : List String :=
  (itemNames value.topEntries).filter fun name =>
    Text.isDigits name.toList && !(declaredNames value.topEntries).contains name

theorem strayNumerals_mapping_eq_nil_iff :
    strayNumerals (.mapping entries) = [] ↔ ∀ name ∈ itemNames entries,
      Text.isDigits name.toList = true → name ∈ declaredNames entries := by
  simp [strayNumerals, topEntries, List.filter_eq_nil_iff]

theorem itemName?_of_same {key present value : Tree} (same : key.same present = true) :
    itemName? (present, value) = itemName? (key, value) := by
  rw [itemName?, itemName?, isIndexKey_of_same same]

/-- What holds of every item carried over holds of the items of the canonical shape. -/
theorem forall_itemNames_canonicalEntries (entries : Mapping) (good : String → Prop)
    (all : ∀ first ∈ carried (declaredNames entries) [] entries, ∀ name,
      itemName? first = some name → good name) :
    ∀ name ∈ itemNames (canonicalEntries entries), good name := by
  intro name member
  obtain ⟨entry, inside, item⟩ := mem_itemNames_iff.1 member
  refine Mapping.forall_mem_ofList
    (fun key value => ∀ name, itemName? (key, value) = some name → good name)
    (fun same h name item => h name ?_) all entry inside name item
  rw [← itemName?_of_same same]
  exact item

/-- An item that is no name in digits stays only if a key declares its name. -/
theorem declared_of_mem_itemNames (apart : Apart entries)
    (member : name ∈ itemNames (canonicalEntries entries))
    (plain : Text.isDigits name.toList = false) :
    name ∈ declaredNames (canonicalEntries entries) := by
  have taken := forall_itemNames_canonicalEntries entries
    (fun name => name ∈ declaredNames entries ∨
      .string name ∈ keys (carried (declaredNames entries) [] entries)) ?_ name member
  · rcases taken with declared | key
    · exact declaredNames_subset apart declared
    · have rigid := rigid_of_textual (textual_string name)
      refine mem_declaredNames_iff.2
        ⟨.string name, Mapping.mem_keys_insertAll_of_rigid rigid key, plain, rfl⟩
  · intro first inside name item
    exact (taken_of_mem_carried (declares_declaredNames entries) inside item).imp_right
      fun h => h.resolve_left List.not_mem_nil

theorem expanded_canonicalEntries (keyed : ∀ entry ∈ entries, entry.2.wellKeyed = true) :
    ∀ entry ∈ canonicalEntries entries, entry.1.isIndexKey = false →
      expandEntry entry.2 = entry.2 := by
  refine Mapping.forall_mem_ofList
    (fun key value => key.isIndexKey = false → expandEntry value = value)
    (fun same h named => h (isIndexKey_of_same same ▸ named)) ?_
  intro first member named
  obtain ⟨entry, inside, before, after, -, carries⟩ := mem_carried member
  cases carries with
  | stays index taken =>
    rw [named] at index
    cases index
  | named index text undeclared unseen => exact expandEntry_of_expanded expanded_empty
  | expands named' => exact expandEntry_of_expanded (expanded_expandEntry (keyed _ inside))

/-- **A section is in its canonical shape after one pass** exactly if no name in digits is left in
its list. -/
theorem canonicalEntries_canonicalEntries_eq_iff (keyed : wellKeyed (.mapping entries) = true) :
    canonicalEntries (canonicalEntries entries) = canonicalEntries entries ↔
      strayNumerals (.mapping (canonicalEntries entries)) = [] := by
  obtain ⟨apart, inside⟩ := wellKeyed_mapping_iff.1 keyed
  rw [canonicalEntries_eq_self_iff (apart_canonicalEntries entries),
    strayNumerals_mapping_eq_nil_iff]
  constructor
  · exact fun canonical name member _ => canonical.items member
  · intro numerals
    refine ⟨fun name member => ?_, expanded_canonicalEntries fun entry h => (inside entry h).2⟩
    cases digits : Text.isDigits name.toList with
    | true => exact numerals name member digits
    | false => exact declared_of_mem_itemNames apart member digits

/-- An item that no key declares stays only if its name is listed before it. -/
theorem count_of_mem_carried {first : Tree × Tree} (declares : Declares declared entries)
    (member : first ∈ carried declared seen entries) (item : itemName? first = some name)
    (undeclared : name ∉ declared) : name ∈ seen ∨ 2 ≤ (itemNames entries).count name := by
  induction entries generalizing seen with
  | nil => cases member
  | cons entry rest ih =>
    obtain ⟨one, next, eq, carries⟩ := carried_cons declared seen entry rest
    obtain ⟨index, text⟩ := itemName?_eq_some_iff.1 item
    have declares' : Declares declared rest := fun key member =>
      declares key (List.mem_cons_of_mem _ member)
    have sublist : (itemNames rest).Sublist (itemNames (entry :: rest)) :=
      (List.sublist_cons_self entry rest).filterMap _
    rw [eq] at member
    rcases List.mem_cons.1 member with rfl | later
    · cases carries with
      | stays index taken => exact .inl ((taken name text).resolve_left undeclared)
      | named index text' undeclared unseen => cases text
      | expands named =>
        rw [named] at index
        cases index
    · rcases ih declares' later with seen' | twice
      · cases carries with
        | stays index taken => exact .inl seen'
        | @named key value given index text' undeclared' unseen =>
          rcases List.mem_cons.1 seen' with rfl | old
          · -- The item stays, so it is one of the items that follow.
            have again : name ∈ itemNames rest := by
              obtain ⟨entry, inside, _, _, -, carries⟩ := mem_carried later
              refine mem_itemNames_iff.2 ⟨entry, inside, ?_⟩
              cases carries with
              | stays index taken => exact item
              | named index text' undeclared unseen => cases text
              | expands named =>
                rw [named] at index
                cases index
            have here : itemName? (key, value) = some name :=
              itemName?_eq_some_iff.2 ⟨index, text'⟩
            rw [itemNames, List.filterMap_cons_some here, List.count_cons_self]
            exact .inr (Nat.succ_le_succ (List.one_le_count_iff.2 again))
          · exact .inl old
        | expands named =>
          rcases List.mem_cons.1 seen' with rfl | old
          · exact absurd (declares _ List.mem_cons_self named) undeclared
          · exact .inl old
      · exact .inr (Nat.le_trans twice (sublist.count_le name))

/-- Where no name in digits is listed twice, none is left in the list. -/
theorem strayNumerals_canonicalEntries (apart : Apart entries)
    (once : ∀ name, Text.isDigits name.toList = true → (itemNames entries).count name ≤ 1) :
    strayNumerals (.mapping (canonicalEntries entries)) = [] := by
  rw [strayNumerals_mapping_eq_nil_iff]
  intro name member digits
  have declared := forall_itemNames_canonicalEntries entries
    (fun name => Text.isDigits name.toList = true → name ∈ declaredNames entries) ?_
    name member digits
  · exact declaredNames_subset apart declared
  · intro first inside name item digits
    by_contra undeclared
    rcases count_of_mem_carried (declares_declaredNames entries) inside item undeclared with
      seen | twice
    · cases seen
    · exact absurd (once name digits) (by omega)

/-! ### Whatever stands under the key of a section -/

theorem indexed_indexed (value : Tree) : value.indexed.indexed = value.indexed := by
  cases value <;> rfl

theorem normalizeSection_indexed (value : Tree) :
    normalizeSection value.indexed = normalizeSection value := by
  rw [normalizeSection, normalizeSection, indexed_indexed]

/-- What is neither a list nor a mapping has no canonical shape of its own. -/
theorem normalizeSection_of_indexed (other : ∀ entries, value.indexed ≠ .mapping entries) :
    normalizeSection value = value := by
  cases value with
  | sequence items => exact absurd rfl (other _)
  | mapping entries => exact absurd rfl (other _)
  | _ => rfl

/-- What is under the key of a section in its canonical shape: entries in their canonical shape, or
neither a list nor a mapping. -/
theorem normalizeSection_eq_self_iff (keyed : value.wellKeyed = true) :
    normalizeSection value = value ↔
      (∀ items, value ≠ .sequence items) ∧ InCanonicalShape value.topEntries := by
  cases value with
  | sequence items =>
    refine iff_of_false (fun fixed => ?_) fun h => h.1 items rfl
    rw [← normalizeSection_indexed, indexed, normalizeSection_mapping] at fixed
    cases fixed
  | mapping entries =>
    rw [normalizeSection_mapping, mapping.injEq,
      canonicalEntries_eq_self_iff (wellKeyed_mapping_iff.1 keyed).1]
    exact (and_iff_right nofun).symm
  | _ => exact iff_of_true rfl ⟨nofun, List.nil_subset _, nofun⟩

theorem normalizeSection_normalizeSection_eq_iff (keyed : value.wellKeyed = true) :
    normalizeSection (normalizeSection value) = normalizeSection value ↔
      strayNumerals (normalizeSection value) = [] := by
  by_cases shape : ∃ entries, value.indexed = .mapping entries
  · obtain ⟨entries, eq⟩ := shape
    have keyed' := wellKeyed_indexed keyed
    rw [eq] at keyed'
    rw [← normalizeSection_indexed value, eq, normalizeSection_mapping, normalizeSection_mapping,
      mapping.injEq, canonicalEntries_canonicalEntries_eq_iff keyed']
  · have fixed := normalizeSection_of_indexed fun entries eq => shape ⟨entries, eq⟩
    rw [fixed, fixed]
    refine iff_of_true rfl ?_
    cases value with
    | mapping entries => exact absurd ⟨entries, rfl⟩ shape
    | _ => rfl

/-- Where no name in digits is listed twice, none is left in the list. -/
theorem strayNumerals_normalizeSection (keyed : value.wellKeyed = true)
    (once : ∀ name, Text.isDigits name.toList = true →
      (itemNames value.indexed.topEntries).count name ≤ 1) :
    strayNumerals (normalizeSection value) = [] := by
  by_cases shape : ∃ entries, value.indexed = .mapping entries
  · obtain ⟨entries, eq⟩ := shape
    have keyed' := wellKeyed_indexed keyed
    rw [eq] at keyed' once
    rw [← normalizeSection_indexed value, eq, normalizeSection_mapping]
    exact strayNumerals_canonicalEntries (wellKeyed_mapping_iff.1 keyed').1 once
  · rw [normalizeSection_of_indexed fun entries eq => shape ⟨entries, eq⟩]
    cases value with
    | mapping entries => exact absurd ⟨entries, rfl⟩ shape
    | _ => rfl

end BuildManifest.Tree
