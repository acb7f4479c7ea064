import BuildManifest.Proofs.Manifest.Labels
import BuildManifest.Proofs.Manifest.Unordered
import BuildManifest.Proofs.Package.Rows
import BuildManifest.Proofs.Tree.Canonical
import BuildManifest.Proofs.Tree.Layers

/-!
# Two words for patches

An entry may give its patches under `patch`, under `patches`, or some under the one and some under
the other.  In its canonical shape they stand under one key: those under `patches` are laid on the
others before any of them is read.  Lists and mappings are merged label by label, so that no label
is lost.  But a bare address is merged with nothing: it takes the place of what is below it, and it
gives way to what is above.  And a record takes over the checksum of the record below it, if it has
none of its own.

## What is here

* `get?_readLabelled` — which patch a label has: the last one of its text.
* `LabelsMatch` — labels by which two mappings of patches can be merged.
* `keeps_mergeEntries_iff` — **two mappings of patches**, merged and then read.
* `foldPatch_keeps_iff` — **when no patch is lost** in an entry with both words.
* `Patch.ofTree_merge_eq_iff` — when a record stays what it is on another one.
-/

set_option autoImplicit false

namespace BuildManifest

open Mapping (Apart contains find? overlaid)

variable {attributes labels lower upper : Mapping} {key value : Tree} {label : String}
  {below above done patches : Labelled Patch}

/-! ## Reading patches under their labels -/

/-- The patches under the texts of their keys, before they are read. -/
def labelRows (labels : Mapping) : List (String × Tree) :=
  labels.map fun entry => (entry.1.keyText, entry.2)

theorem labelRows_cons (rest : Mapping) :
    labelRows ((key, value) :: rest) = (key.keyText, value) :: labelRows rest := rfl

theorem mem_labelRows_iff :
    (label, value) ∈ labelRows labels ↔ ∃ key, (key, value) ∈ labels ∧ key.keyText = label := by
  constructor
  · intro member
    obtain ⟨⟨key, value⟩, inside, eq⟩ := List.mem_map.1 member
    cases eq
    exact ⟨key, inside, rfl⟩
  · rintro ⟨key, inside, rfl⟩
    exact List.mem_map.2 ⟨_, inside, rfl⟩

theorem readable_of_readLabelled (h : Patch.readLabelled done labels = .ok patches) :
    ∀ entry ∈ labels, ∃ patch, Patch.ofTree entry.2 = .ok patch :=
  (exists_readLabelled_iff done).1 ⟨patches, h⟩

/-- **The patch of a label** is the last one whose key has its text. -/
theorem get?_readLabelled (h : Patch.readLabelled done labels = .ok patches) (label : String) :
    patches.get? label =
      ((lastRow? (labelRows labels) label).bind fun value => (Patch.ofTree value).toOption).or
        (done.get? label) := by
  induction labels generalizing done with
  | nil =>
    cases h
    rfl
  | cons first rest ih =>
    obtain ⟨key, value⟩ := first
    rw [Patch.readLabelled] at h
    split at h
    · next patch read =>
      rw [ih h, Labelled.get?_insert, labelRows_cons, lastRow?_cons]
      cases last : lastRow? (labelRows rest) label with
      | some later =>
        obtain ⟨other, inside, -⟩ := mem_labelRows_iff.1 (mem_of_lastRow? last)
        obtain ⟨patch', read'⟩ := readable_of_readLabelled h _ inside
        simp [read', Except.toOption]
      | none =>
        by_cases here : key.keyText = label <;> simp [here, read, Except.toOption]
    · cases h

theorem get?_readLabelled_empty (read : Patch.readLabelled .empty labels = .ok patches)
    (label : String) : patches.get? label =
      (lastRow? (labelRows labels) label).bind fun value => (Patch.ofTree value).toOption := by
  rw [get?_readLabelled read]
  exact Option.or_none

/-! ## Patches label by label -/

/-- The labels in order. -/
def labelsOf (labels : Mapping) : List String := labels.map fun entry => entry.1.keyText

/-- Labels by which two mappings of patches can be merged: none stands twice in one of the mappings,
and a key that is in both is spelt alike. -/
structure LabelsMatch (lower upper : Mapping) : Prop where
  /-- No label stands twice below. -/
  below : (labelsOf lower).Nodup
  /-- No label stands twice above. -/
  above : (labelsOf upper).Nodup
  /-- A key in both is spelt alike. -/
  alike : ∀ one ∈ lower, ∀ other ∈ upper, one.1.same other.1 = true →
    one.1.keyText = other.1.keyText

instance (lower upper : Mapping) : Decidable (LabelsMatch lower upper) :=
  decidable_of_iff ((labelsOf lower).Nodup ∧ (labelsOf upper).Nodup ∧
      ∀ one ∈ lower, ∀ other ∈ upper, one.1.same other.1 = true →
        one.1.keyText = other.1.keyText)
    ⟨fun h => ⟨h.1, h.2.1, h.2.2⟩, fun h => ⟨h.below, h.above, h.alike⟩⟩

/-- A label that stands once has the value it stands beside. -/
theorem lastRow?_of_mem (once : (labelsOf labels).Nodup) (member : (key, value) ∈ labels) :
    lastRow? (labelRows labels) key.keyText = some value := by
  refine lastRow?_of_agree (mem_labelRows_iff.2 ⟨key, member, rfl⟩) fun other row => ?_
  obtain ⟨present, inside, text⟩ := mem_labelRows_iff.1 row
  exact congrArg Prod.snd (List.inj_on_of_nodup_map once inside member text)

theorem lastRow?_labelRows_eq_none_iff :
    lastRow? (labelRows labels) label = none ↔ ∀ entry ∈ labels, entry.1.keyText ≠ label := by
  rw [lastRow?_eq_none_iff, labelRows, List.forall_mem_map]

/-- The patch of a label that stands once. -/
theorem get?_of_mem (once : (labelsOf labels).Nodup)
    (read : Patch.readLabelled .empty labels = .ok patches) (member : (key, value) ∈ labels) :
    patches.get? key.keyText = (Patch.ofTree value).toOption := by
  rw [get?_readLabelled_empty read, lastRow?_of_mem once member, Option.bind_some]

theorem get?_of_absent (read : Patch.readLabelled .empty labels = .ok patches)
    (absent : ∀ entry ∈ labels, entry.1.keyText ≠ label) : patches.get? label = none := by
  rw [get?_readLabelled_empty read, lastRow?_labelRows_eq_none_iff.2 absent, Option.bind_none]

theorem labelsOf_overlaid (lower upper : Mapping) :
    labelsOf (lower.map (overlaid upper)) = labelsOf lower := List.map_map ..

section

variable (keyed : Tree.wellKeyed (.mapping lower) = true)
  (keyed' : Tree.wellKeyed (.mapping upper) = true) (match_ : LabelsMatch lower upper)

include keyed keyed'

/-- In a merge the labels that are only above come last, so that they count. -/
theorem lastRow?_mergeEntries (label : String) :
    lastRow? (labelRows (Tree.mergeEntries lower upper)) label =
      (lastRow? (labelRows (upper.filter fun entry => !contains lower entry.1)) label).or
        (lastRow? (labelRows (lower.map (overlaid upper))) label) := by
  rw [Mapping.mergeEntries_eq_append keyed keyed', labelRows, List.map_append, lastRow?_append]
  rfl

/-- Everything in a merge can be read if what is laid on something reads as it did. -/
theorem readable_mergeEntries
    (readable : ∀ entry ∈ lower, ∃ patch, Patch.ofTree entry.2 = .ok patch)
    (readable' : ∀ entry ∈ upper, ∃ patch, Patch.ofTree entry.2 = .ok patch)
    (covers : ∀ one ∈ lower, ∀ other ∈ upper, one.1.same other.1 = true →
      Patch.ofTree (one.2.merge other.2) = Patch.ofTree other.2) :
    ∀ entry ∈ Tree.mergeEntries lower upper, ∃ patch, Patch.ofTree entry.2 = .ok patch := by
  rw [Mapping.mergeEntries_eq_append keyed keyed']
  refine List.forall_mem_append.2 ⟨List.forall_mem_map.2 fun one inside => ?_,
    fun entry member => readable' entry (List.mem_of_mem_filter member)⟩
  rw [overlaid]
  cases found : find? upper one.1 with
  | none => exact readable one inside
  | some value =>
    obtain ⟨key, inside', same⟩ := Mapping.exists_mem_of_find? found
    rw [covers one inside _ inside' same]
    exact readable' _ inside'

include match_

/-- A label that is not above stays what it is. -/
theorem lastRow?_mergeEntries_of_absent (absent : ∀ entry ∈ upper, entry.1.keyText ≠ label) :
    lastRow? (labelRows (Tree.mergeEntries lower upper)) label =
      lastRow? (labelRows lower) label := by
  have new : lastRow? (labelRows (upper.filter fun entry => !contains lower entry.1)) label =
      none := lastRow?_labelRows_eq_none_iff.2 fun entry member =>
    absent entry (List.mem_of_mem_filter member)
  rw [lastRow?_mergeEntries keyed keyed', new, Option.none_or]
  cases last : lastRow? (labelRows lower) label with
  | none =>
    rw [lastRow?_labelRows_eq_none_iff] at last ⊢
    exact List.forall_mem_map.2 last
  | some value =>
    obtain ⟨key, inside, rfl⟩ := mem_labelRows_iff.1 (mem_of_lastRow? last)
    have alone : find? upper key = none := Mapping.find?_eq_none_iff_forall.2 fun entry member =>
      Bool.eq_false_iff.2 fun same =>
        absent entry member (match_.alike _ inside entry member same).symm
    refine lastRow?_of_mem (labelsOf_overlaid lower upper ▸ match_.below) ?_
    refine List.mem_map.2 ⟨_, inside, ?_⟩
    rw [overlaid, alone]

/-- A label that is above has what stands there, laid on what is below under the same key. -/
theorem lastRow?_mergeEntries_of_mem (member : (key, value) ∈ upper) :
    lastRow? (labelRows (Tree.mergeEntries lower upper)) key.keyText =
      Mapping.layered (find? lower key) (some value) := by
  obtain ⟨apart, inside⟩ := Tree.wellKeyed_mapping_iff.1 keyed'
  have keyedKey := (inside _ member).1
  rw [lastRow?_mergeEntries keyed keyed']
  cases found : find? lower key with
  | none =>
    have fresh : (key, value) ∈ upper.filter fun entry => !contains lower entry.1 :=
      List.mem_filter.2 ⟨member, by simp [contains, found]⟩
    have once : (labelsOf (upper.filter fun entry => !contains lower entry.1)).Nodup :=
      match_.above.sublist (List.filter_sublist.map _)
    rw [lastRow?_of_mem once fresh, Option.some_or, Mapping.layered_none_left]
  | some current =>
    obtain ⟨present, below, same⟩ := Mapping.exists_mem_of_find? found
    have same' : present.same key = true := Tree.same_symm key keyedKey same
    have text : present.keyText = key.keyText := match_.alike _ below _ member same'
    -- Nothing of this label is new, for the label stands above only once.
    have new : lastRow? (labelRows (upper.filter fun entry => !contains lower entry.1))
        key.keyText = none := by
      refine lastRow?_labelRows_eq_none_iff.2 fun entry kept here => ?_
      obtain ⟨above, fresh⟩ := List.mem_filter.1 kept
      obtain rfl := List.inj_on_of_nodup_map match_.above above member here
      simp [contains, found] at fresh
    have laid : overlaid upper (present, current) = (present, current.merge value) := by
      rw [overlaid, ← Mapping.find?_of_same keyedKey same, Mapping.find?_of_apart apart member]
    have once : (labelsOf (lower.map (overlaid upper))).Nodup :=
      labelsOf_overlaid lower upper ▸ match_.below
    rw [new, Option.none_or, ← text, lastRow?_of_mem once (List.mem_map.2 ⟨_, below, laid⟩)]
    rfl

/-- Under the same key a record is laid on a record.  Whatever the two mappings are, **the merge has
every label of both with the patch it has there, above before below**, exactly if no record becomes
another one on the record below it. -/
theorem keeps_mergeEntries_iff (read : Patch.readLabelled .empty lower = .ok below)
    (read' : Patch.readLabelled .empty upper = .ok above) :
    (∃ patches, Patch.readLabelled .empty (Tree.mergeEntries lower upper) = .ok patches ∧
      ∀ label, patches.get? label = (above.get? label).or (below.get? label)) ↔
    ∀ one ∈ lower, ∀ other ∈ upper, one.1.same other.1 = true →
      Patch.ofTree (one.2.merge other.2) = Patch.ofTree other.2 := by
  obtain ⟨apart, keyedLower⟩ := Tree.wellKeyed_mapping_iff.1 keyed
  obtain ⟨-, keyedUpper⟩ := Tree.wellKeyed_mapping_iff.1 keyed'
  have readable' := readable_of_readLabelled read'
  have aboveAt {key value : Tree} (member : (key, value) ∈ upper) :
      above.get? key.keyText = (Patch.ofTree value).toOption :=
    get?_of_mem match_.above read' member
  constructor
  · rintro ⟨patches, merged, kept⟩ ⟨present, current⟩ inside ⟨key, value⟩ inside' same
    have found : find? lower key = some current :=
      (Mapping.find?_of_same (keyedUpper _ inside').1
        (Tree.same_symm present (keyedLower _ inside).1 same)).trans
        (Mapping.find?_of_apart apart inside)
    obtain ⟨patch, readsAs⟩ := readable' _ inside'
    have here := kept key.keyText
    rw [get?_readLabelled_empty merged, lastRow?_mergeEntries_of_mem keyed keyed' match_ inside',
      found, aboveAt inside', readsAs] at here
    rw [readsAs]
    exact toOption_eq_some_iff.1 here
  · intro covers
    obtain ⟨patches, merged⟩ := (exists_readLabelled_iff .empty).2
      (readable_mergeEntries keyed keyed' (readable_of_readLabelled read) readable' covers)
    refine ⟨patches, merged, fun label => ?_⟩
    rw [get?_readLabelled_empty merged]
    by_cases given : ∃ entry ∈ upper, entry.1.keyText = label
    · obtain ⟨⟨key, value⟩, inside', rfl⟩ := given
      obtain ⟨patch, readsAs⟩ := readable' _ inside'
      rw [lastRow?_mergeEntries_of_mem keyed keyed' match_ inside', aboveAt inside', readsAs]
      cases found : find? lower key with
      | none => simp [Mapping.layered, readsAs, Except.toOption]
      | some current =>
        obtain ⟨present, inside, same⟩ := Mapping.exists_mem_of_find? found
        have covered := covers _ inside _ inside'
          (Tree.same_symm key (keyedUpper _ inside').1 same)
        simp [Mapping.layered, covered, readsAs, Except.toOption]
    · push Not at given
      rw [lastRow?_mergeEntries_of_absent keyed keyed' match_ given, get?_of_absent read' given,
        Option.none_or, get?_readLabelled_empty read]

end

/-- **When a record stays what it is on another one**: unless it leaves open the checksum that the
other one gives. -/
theorem Patch.ofTree_merge_eq_iff {lower upper : Tree} {below above : Patch}
    (fits : PatchFits lower) (fits' : PatchFits upper) (read : ofTree lower = .ok below)
    (read' : ofTree upper = .ok above) :
    ofTree (lower.merge upper) = ofTree upper ↔
      ¬∃ url url' md5, below = .detailed url (some md5) ∧ above = .detailed url' none := by
  rw [ofTree_merge fits fits' read read', read']
  cases above with
  | bare url => simp [onto]
  | detailed url' md5' =>
    cases below with
    | bare url => simp [onto]
    | detailed url md5 => cases md5 <;> cases md5' <;> simp [onto]

/-! ## An entry with both words -/

/-- A bare address. -/
def Tree.isAddress : Tree → Bool
  | .string _ => true
  | _ => false

/-- In the canonical shape of the attributes every label has the patch it has above, or else the one
below; and so it has in every entry that is read from there. -/
def FoldsPatches (attributes : Mapping) (below above : Labelled Patch) : Prop :=
  ∃ patches, (∀ label, patches.get? label = (above.get? label).or (below.get? label)) ∧
    Patch.allOfTree (fieldValue (Tree.normalizeAttributes attributes) "patches") = .ok patches ∧
    ∀ entry, Entry.ofMapping (Tree.normalizeAttributes attributes) = .ok entry →
      entry.patches = patches

/-- What can be read as patches is nothing, a bare address, or a mapping of patches. -/
theorem patches_cases {value : Tree} (read : Patch.allOfTree value = .ok patches) :
    (value = .null ∧ patches = .empty) ∨ (∃ url, value = .string url) ∨
      ∃ entries, value.indexed = .mapping entries ∧ value.isAddress = false ∧ value ≠ .null ∧
        Patch.readLabelled .empty entries = .ok patches := by
  cases value with
  | null => exact .inl ⟨rfl, (Except.ok.inj read).symm⟩
  | string url => exact .inr (.inl ⟨url, rfl⟩)
  | sequence items => exact .inr (.inr ⟨_, rfl, rfl, nofun, read⟩)
  | mapping entries => exact .inr (.inr ⟨_, rfl, rfl, nofun, read⟩)
  | _ => cases read

/-- What replaces the patches below loses none of them if it has all their labels. -/
theorem get?_eq_or_iff : (∀ label, above.get? label = (above.get? label).or (below.get? label)) ↔
    ∀ label, below.contains label = true → above.contains label = true := by
  refine forall_congr' fun label => ?_
  rw [Labelled.contains, Labelled.contains]
  cases above.get? label <;> cases below.get? label <;> simp

section

variable {lower upper : Tree}

theorem get?_normalizeAttributes (keyed : Tree.wellKeyed (.mapping attributes) = true)
    (patch : Mapping.get? attributes "patch" = some lower)
    (patches : Mapping.get? attributes "patches" = some upper) :
    Mapping.get? (Tree.normalizeAttributes attributes) "patches" =
      some (lower.indexed.merge upper.indexed) := by
  have textual := Tree.textual_string "patches"
  have distinct := Mapping.distinct_of_apart (Tree.wellKeyed_mapping_iff.1 keyed).1
  have others : Mapping.get? (Mapping.erase attributes (.string "patch")) "patches" = some upper :=
    (Mapping.find?_erase_other textual (distinct _ textual) (by decide)).trans patches
  have folded : Mapping.get? (Tree.foldPatch attributes) "patches" =
      some (lower.indexed.merge upper.indexed) := by
    rw [Tree.foldPatch, patch]
    dsimp only
    rw [others]
    exact Mapping.find?_insert_self textual
  rw [Tree.normalizeAttributes, Tree.expandDownload]
  split
  · exact (Mapping.find?_insert_other textual (by decide)).trans folded
  · exact folded

/-- An entry has the patches that stand under their name. -/
theorem allOfTree_of_get? {entry : Entry} (h : Entry.ofMapping attributes = .ok entry)
    (found : Mapping.get? attributes "patches" = some value) :
    Patch.allOfTree value = .ok entry.patches := by
  have from_ := Entry.readFrom_of_ofMapping h
  have given : Entry.given? attributes .patches = some value := Entry.given?_of_mem from_.once
    (Mapping.mem_of_find? (Tree.textual_string "patches") found) rfl
  have read := from_.fields .patches
  rw [given] at read
  exact read

/-- What counts is how the merge of the two values reads. -/
theorem foldsPatches_iff_merge (keyed : Tree.wellKeyed (.mapping attributes) = true)
    (patch : Mapping.get? attributes "patch" = some lower)
    (patches : Mapping.get? attributes "patches" = some upper) :
    FoldsPatches attributes below above ↔
      ∃ patches, Patch.allOfTree (lower.indexed.merge upper.indexed) = .ok patches ∧
        ∀ label, patches.get? label = (above.get? label).or (below.get? label) := by
  have found := get?_normalizeAttributes keyed patch patches
  have value : fieldValue (Tree.normalizeAttributes attributes) "patches" =
      lower.indexed.merge upper.indexed := by
    rw [fieldValue, found]
    rfl
  rw [FoldsPatches, value]
  constructor
  · rintro ⟨patches, kept, read, -⟩
    exact ⟨patches, read, kept⟩
  · rintro ⟨patches, read, kept⟩
    refine ⟨patches, kept, read, fun entry h => ?_⟩
    exact Except.ok.inj ((allOfTree_of_get? h found).symm.trans read)

theorem allOfTree_indexed (value : Tree) :
    Patch.allOfTree value.indexed = Patch.allOfTree value := by
  rw [Patch.allOfTree, Patch.allOfTree, Tree.indexed_indexed]

/-- **When no patch is lost in an entry with both words.**  Whatever `patch` and `patches` read as
when they are read alone, the canonical shape keeps every label of both, the patch under `patches`
before the one under `patch`, exactly if two things hold.  Where one of the two is a bare address
and the other one is laid on it or gives way to it, `patches` has all labels itself.  And where both
have a patch under one key, the one under `patches` stays what it is on the other
(`Patch.ofTree_merge_eq_iff`). -/
theorem foldsPatches_iff (keyed : Tree.wellKeyed (.mapping attributes) = true)
    (patch : Mapping.get? attributes "patch" = some lower)
    (patches : Mapping.get? attributes "patches" = some upper)
    (read : Patch.allOfTree lower = .ok below) (read' : Patch.allOfTree upper = .ok above)
    (match_ : LabelsMatch lower.indexed.topEntries upper.indexed.topEntries) :
    FoldsPatches attributes below above ↔
      ((lower.isAddress = true ∨ upper.isAddress = true) → upper ≠ .null →
        ∀ label, below.contains label = true → above.contains label = true) ∧
      ∀ one ∈ lower.indexed.topEntries, ∀ other ∈ upper.indexed.topEntries,
        one.1.same other.1 = true → Patch.ofTree (one.2.merge other.2) = Patch.ofTree other.2 := by
  have keyedLower := Tree.wellKeyed_indexed (Tree.wellKeyed_of_find? keyed patch)
  have keyedUpper := Tree.wellKeyed_indexed (Tree.wellKeyed_of_find? keyed patches)
  rw [foldsPatches_iff_merge keyed patch patches]
  -- Where the upper value replaces the lower one, its labels are all that is left.
  have replaced (whole : lower.indexed.merge upper.indexed = upper.indexed) :
      (∃ patches, Patch.allOfTree (lower.indexed.merge upper.indexed) = .ok patches ∧
        ∀ label, patches.get? label = (above.get? label).or (below.get? label)) ↔
      ∀ label, below.contains label = true → above.contains label = true := by
    rw [whole, allOfTree_indexed, read', ← get?_eq_or_iff]
    exact ⟨fun ⟨_, eq, kept⟩ => Except.ok.inj eq ▸ kept, fun kept => ⟨above, rfl, kept⟩⟩
  rcases patches_cases read' with ⟨rfl, rfl⟩ | ⟨url, rfl⟩ | ⟨entries, shape, bare, ne, labels⟩
  · refine iff_of_true ⟨below, ?_, fun label => rfl⟩ ⟨fun _ ne => absurd rfl ne, fun _ _ => nofun⟩
    rw [Tree.indexed.eq_def .null, Tree.merge_null_right, allOfTree_indexed, read]
  · rw [replaced rfl]
    exact ⟨fun kept => ⟨fun _ _ => kept, fun _ _ => nofun⟩, fun h => h.1 (.inr rfl) nofun⟩
  · rcases patches_cases read with ⟨rfl, rfl⟩ | ⟨url, rfl⟩ | ⟨entries', shape', bare', -, labels'⟩
    · rw [replaced (by rw [shape]; rfl)]
      exact iff_of_true (fun _ => nofun) ⟨fun _ _ _ => nofun, nofun⟩
    · rw [replaced (by rw [shape]; rfl)]
      exact ⟨fun kept => ⟨fun _ _ => kept, nofun⟩, fun h => h.1 (.inl rfl) ne⟩
    · rw [shape'] at keyedLower match_
      rw [shape] at keyedUpper match_
      rw [shape, shape', bare, bare', Tree.merge]
      have kept := keeps_mergeEntries_iff keyedLower keyedUpper match_ labels' labels
      exact kept.trans ⟨fun covers => ⟨by simp, covers⟩, And.right⟩

end

/-- The address under `patches` comes in the place of the first one under `patch`, and the second
one stays, where both are lists.  A bare address takes the place of both, so that the second one is
lost. -/
theorem foldsPatches_iff_addresses :
    let patch : Tree := .sequence [.string "a", .string "b"]
    let attributes (patches : Tree) : Mapping :=
      [(.string "patch", patch), (.string "patches", patches)]
    let below : Labelled Patch := .ofList [("0", .bare "a"), ("1", .bare "b")]
    let above : Labelled Patch := .ofList [("0", .bare "c")]
    Patch.allOfTree patch = .ok below ∧
      Patch.allOfTree (.sequence [.string "c"]) = .ok above ∧
      Patch.allOfTree (.string "c") = .ok above ∧
      FoldsPatches (attributes (.sequence [.string "c"])) below above ∧
      ¬FoldsPatches (attributes (.string "c")) below above := by
  intro patch attributes below above
  have read : Patch.allOfTree patch = .ok below := by rfl
  have list : Patch.allOfTree (.sequence [.string "c"]) = .ok above := by rfl
  have bare : Patch.allOfTree (.string "c") = .ok above := by rfl
  have lists : FoldsPatches (attributes (.sequence [.string "c"])) below above ↔ _ :=
    foldsPatches_iff (by decide +kernel) rfl rfl read list (by decide +kernel)
  have address : FoldsPatches (attributes (.string "c")) below above ↔ _ :=
    foldsPatches_iff (by decide +kernel) rfl rfl read bare (by decide +kernel)
  refine ⟨read, list, bare, lists.2 ⟨fun bare => ?_, ?_⟩, fun kept => ?_⟩
  · rcases bare with bare | bare <;> cases bare
  · -- An address does not depend on what it is laid on.
    intro one _ other member _
    obtain rfl := List.mem_singleton.1 member
    rfl
  · have lost := (address.1 kept).1 (.inr rfl) nofun "1" (by decide +kernel)
    revert lost
    decide +kernel

end BuildManifest
