import BuildManifest.Proofs.Manifest.Fitting
import BuildManifest.Proofs.Text.Numerals

/-!
# Patches label by label

Patches are merged before they are read.  Two mappings from labels are merged label by label, and
two records of one label field by field.  A list and a bare address are no mappings: on top of
other patches they take their place, and under other patches they give way, whatever their labels
are once they are read.

## What is here

* `Patch.onto`, `Patch.ofTree_merge` — **a patch on a patch**.
* `Tree.IsLabel`, `Mapping.byText` — keys that give a label in one way only, and the texts of keys
  in their place.
* `PatchLayer`, `PatchLayer.merge` — what counts of patches when they are merged.
* `Tree.patchLayer_merge` — **patches on patches**.
-/

set_option autoImplicit false

namespace BuildManifest

open Mapping (Once)

variable {entries labels : Mapping} {lower upper value key other : Tree} {label : String}

/-! ## One patch -/

namespace Patch

/-- A patch on another one: a record leaves the checksum open that it does not give. -/
def onto : Patch → Patch → Patch
  | .detailed url md5, .detailed _ below => .detailed url (md5 <|> below)
  | above, _ => above

/-- The patch of a label in two layers. -/
def layered : Option Patch → Option Patch → Option Patch
  | below, none => below
  | none, some above => some above
  | some below, some above => some (above.onto below)

theorem layered_none_left (above : Option Patch) : layered none above = above := by
  cases above <;> rfl

theorem layered_eq_none_iff {below above : Option Patch} :
    layered below above = none ↔ below = none ∧ above = none := by
  cases below <;> cases above <;> simp [layered]

theorem untagged_of_ofTree {patch : Patch} (h : ofTree value = .ok patch) :
    ofUntagged? value = some patch := by
  rw [ofTree] at h
  split at h
  · cases h
  · split at h
    · next read =>
      cases h
      exact read
    · cases h

/-- What is read from a record. -/
theorem detailed_of_ofTree (plain : PlainNames entries) {patch : Patch}
    (h : ofTree (.mapping entries) = .ok patch) :
    ∃ url md5, patch = .detailed url md5 ∧ fieldValue entries "url" = .string url ∧
      (fieldValue entries "md5").optionalString? = some md5 := by
  have h := untagged_of_ofTree h
  rw [ofUntagged?, Fields.value_eq plain, Fields.value_eq plain] at h
  split at h
  · split at h
    · next url eq =>
      obtain ⟨md5, read, rfl⟩ := Option.map_eq_some_iff.1 h
      exact ⟨url, md5, rfl, eq, read⟩
    · cases h
  · cases h

theorem optionalString?_merge {below above : Option String}
    (h : lower.optionalString? = some below) (h' : upper.optionalString? = some above) :
    (lower.merge upper).optionalString? = some (above <|> below) := by
  cases upper with
  | null =>
    cases h'
    rw [Tree.merge]
    exact h
  | string text =>
    cases h'
    rfl
  | _ => cases h'

/-- **A patch on a patch.** -/
theorem ofTree_merge (fits : PatchFits lower) (fits' : PatchFits upper) {below above : Patch}
    (h : ofTree lower = .ok below) (h' : ofTree upper = .ok above) :
    ofTree (lower.merge upper) = .ok (above.onto below) := by
  have read := untagged_of_ofTree h
  have read' := untagged_of_ofTree h'
  cases upper with
  | string url =>
    cases read'
    exact h'
  | mapping top =>
    have plain' : PlainNames top := fits'.named
    obtain ⟨url', md5', rfl, eqUrl', eqMd5'⟩ := detailed_of_ofTree plain' h'
    cases lower with
    | string url =>
      cases read
      exact h'
    | mapping base =>
      have plain : PlainNames base := fits.named
      obtain ⟨url, md5, rfl, eqUrl, eqMd5⟩ := detailed_of_ofTree plain h
      obtain ⟨-, once, -⟩ := (ofTree_mapping_iff plain').1 ⟨_, h'⟩
      have merged := patchFits_merge fits fits'
      rw [Tree.merge] at merged ⊢
      have plainMerged : PlainNames (Tree.mergeEntries base top) := merged.named
      obtain ⟨result, readMerged⟩ := merged.reads
      obtain ⟨url'', md5'', rfl, eqUrl'', eqMd5''⟩ := detailed_of_ofTree plainMerged readMerged
      rw [fieldValue_mergeEntries (once "url" (by decide)), eqUrl, eqUrl'] at eqUrl''
      rw [fieldValue_mergeEntries (once "md5" (by decide)),
        optionalString?_merge eqMd5 eqMd5'] at eqMd5''
      cases eqUrl''
      cases eqMd5''
      exact readMerged
    | _ => cases read
  | _ => cases read'

end Patch

/-! ## Labels -/

namespace Tree

/-- A key that gives a label in one way only: an index, or a text that reads as no integer. -/
def IsLabel : Tree → Prop
  | .number (.int _) => True
  | .string text => Text.isSignedDigits text.toList = false
  | _ => False

instance : (key : Tree) → Decidable key.IsLabel
  | .number (.int _) => isTrue trivial
  | .string text => inferInstanceAs (Decidable (Text.isSignedDigits text.toList = false))
  | .number (.float _) | .null | .bool _ | .sequence _ | .mapping _ | .tagged .. => isFalse id

/-- Keys that give labels are the same exactly if the labels are. -/
theorem same_iff_keyText (h : key.IsLabel) (h' : other.IsLabel) :
    key.same other = true ↔ key.keyText = other.keyText := by
  -- An index and a text are never one key, so they must not be one label either.
  have apart (n : Int) (text : String) (plain : Text.isSignedDigits text.toList = false) :
      toString n ≠ text := by
    rintro rfl
    exact Bool.false_ne_true (plain.symm.trans (Text.isSignedDigits_toString n))
  match key, other, h, h' with
  | .string text, .string text', _, _ => exact beq_iff_eq
  | .number (.int n), .number (.int m), _, _ =>
    exact beq_iff_eq.trans ⟨congrArg toString, Text.toString_inj⟩
  | .string text, .number (.int n), plain, _ =>
    exact ⟨nofun, fun eq => absurd eq.symm (apart n text plain)⟩
  | .number (.int n), .string text, _, plain =>
    exact ⟨nofun, fun eq => absurd eq (apart n text plain)⟩

end Tree

namespace Mapping

variable {base top : Mapping}

/-- The entries with the texts of their keys in place of the keys. -/
def byText (entries : Mapping) : Mapping :=
  entries.map fun entry => (.string entry.1.keyText, entry.2)

theorem byText_cons (rest : Mapping) :
    byText ((key, value) :: rest) = (.string key.keyText, value) :: byText rest := rfl

/-- Every key gives a label in one way only. -/
def GivesLabels (entries : Mapping) : Prop := ∀ key ∈ keys entries, key.IsLabel

theorem givesLabels_cons {rest : Mapping} :
    GivesLabels ((key, value) :: rest) ↔ key.IsLabel ∧ GivesLabels rest := List.forall_mem_cons

theorem givesLabels_insert (gives : GivesLabels entries) (isLabel : key.IsLabel) :
    GivesLabels (insert entries key value) := by
  intro one member
  rcases mem_keys_insert member with old | rfl
  · exact gives one old
  · exact isLabel

theorem same_byText (h : key.IsLabel) (h' : other.IsLabel) :
    (Tree.string key.keyText).same (.string other.keyText) = key.same other := by
  rw [Bool.eq_iff_iff, Tree.same_iff_keyText h h']
  exact beq_iff_eq

theorem find?_byText (gives : GivesLabels entries) (isLabel : key.IsLabel) :
    find? (byText entries) (.string key.keyText) = find? entries key := by
  induction entries with
  | nil => rfl
  | cons first rest ih =>
    obtain ⟨present, old⟩ := first
    obtain ⟨here, others⟩ := givesLabels_cons.1 gives
    rw [byText_cons, find?_cons, find?_cons, ih others, same_byText isLabel here]

theorem byText_insert (gives : GivesLabels entries) (isLabel : key.IsLabel) :
    byText (insert entries key value) = insert (byText entries) (.string key.keyText) value := by
  induction entries with
  | nil => rfl
  | cons first rest ih =>
    obtain ⟨present, old⟩ := first
    obtain ⟨here, others⟩ := givesLabels_cons.1 gives
    rw [byText_cons, insert, insert, same_byText isLabel here, ← ih others]
    split <;> rfl

/-- **Merging goes by the texts of the keys**, where every key gives a label in one way only. -/
theorem byText_mergeEntries (below : GivesLabels base) (above : GivesLabels top) :
    byText (Tree.mergeEntries base top) = Tree.mergeEntries (byText base) (byText top) := by
  induction top generalizing base with
  | nil => rw [Tree.mergeEntries, byText.eq_def [], List.map_nil, Tree.mergeEntries]
  | cons first rest ih =>
    obtain ⟨key, value⟩ := first
    obtain ⟨here, others⟩ := givesLabels_cons.1 above
    rw [byText_cons, Tree.mergeEntries, Tree.mergeEntries, find?_byText below here]
    cases find? base key <;>
      exact (ih (givesLabels_insert below here) others).trans (by rw [byText_insert below here])

end Mapping

/-- Labels that are given in one way only, none of them twice. -/
structure PlainLabels (labels : Mapping) : Prop where
  /-- They are given in one way only. -/
  gives : Mapping.GivesLabels labels
  /-- None is given twice. -/
  distinct : labels.Pairwise fun a b => a.1.keyText ≠ b.1.keyText

instance (labels : Mapping) : Decidable (PlainLabels labels) :=
  have : Decidable (Mapping.GivesLabels labels) :=
    inferInstanceAs (Decidable (∀ key ∈ Mapping.keys labels, key.IsLabel))
  decidable_of_iff (Mapping.GivesLabels labels ∧
      labels.Pairwise fun a b => a.1.keyText ≠ b.1.keyText)
    ⟨fun h => ⟨h.1, h.2⟩, fun h => ⟨h.gives, h.distinct⟩⟩

open Mapping (byText)

theorem once_byText_iff : (∀ label, Once (byText labels) (.string label)) ↔
    labels.Pairwise fun a b => a.1.keyText ≠ b.1.keyText := by
  have names : PlainNames (byText labels) := by
    intro key member
    obtain ⟨entry, inside, rfl⟩ := List.mem_map.1 member
    obtain ⟨given, -, rfl⟩ := List.mem_map.1 inside
    exact ⟨_, rfl⟩
  constructor
  · intro once
    refine (List.pairwise_map.1 (pairwise_ne_of_once names once)).imp fun ne eq => ne ?_
    exact congrArg Tree.string eq
  · intro distinct label
    refine List.pairwise_map.2 (distinct.imp fun ne both => ne ?_)
    exact Tree.string.inj (both.1.trans both.2.symm)

theorem plainLabels_nil : PlainLabels [] := ⟨fun _ member => (nomatch member), List.Pairwise.nil⟩

theorem plainLabels_mergeEntries {lower upper : Mapping} (below : PlainLabels lower)
    (above : PlainLabels upper) : PlainLabels (Tree.mergeEntries lower upper) := by
  refine ⟨fun key member => ?_, once_byText_iff.1 fun label => ?_⟩
  · rcases Mapping.mem_keys_mergeEntries member with old | new
    · exact below.gives key old
    · exact above.gives key new
  · rw [Mapping.byText_mergeEntries below.gives above.gives]
    exact Mapping.once_mergeEntries (Tree.textual_string label)
      (once_byText_iff.2 below.distinct label)

/-! ### The patch of a label -/

/-- The patch that stands under a label. -/
def patchUnder (labels : Mapping) (label : String) : Option Patch :=
  (Mapping.get? (byText labels) label).bind fun value => (Patch.ofTree value).toOption

theorem get?_of_readLabelled {done patches : Labelled Patch} (plain : PlainLabels labels)
    (h : Patch.readLabelled done labels = .ok patches) (label : String) :
    patches.get? label = (patchUnder labels label).or (done.get? label) := by
  induction labels generalizing done with
  | nil =>
    cases h
    rfl
  | cons first rest ih =>
    obtain ⟨key, value⟩ := first
    obtain ⟨absent, distinct⟩ := List.pairwise_cons.1 plain.distinct
    have others : PlainLabels rest := ⟨(Mapping.givesLabels_cons.1 plain.gives).2, distinct⟩
    rw [Patch.readLabelled] at h
    split at h
    · next patch read =>
      rw [ih others h, Labelled.get?_insert, patchUnder, patchUnder, Mapping.get?, Mapping.get?,
        Mapping.byText_cons, Mapping.find?_cons]
      by_cases same : key.keyText = label
      · subst same
        have none_ : Mapping.find? (byText rest) (.string key.keyText) = none := by
          refine (Mapping.find?_eq_none_iff (Tree.textual_string _)).2 fun member => ?_
          obtain ⟨entry, inside, eq⟩ := List.mem_map.1 member
          obtain ⟨given, later, rfl⟩ := List.mem_map.1 inside
          exact absent given later (Tree.string.inj eq).symm
        rw [if_pos ((Tree.same_iff_of_textual (Tree.textual_string _)).2 rfl), none_]
        simp [read, Except.toOption]
      · rw [if_neg fun eq => same (Tree.string.inj
          ((Tree.same_iff_of_textual (Tree.textual_string label)).1 eq)).symm, if_neg same]
    · cases h

/-- **Two mappings from labels are merged label by label.** -/
theorem patchUnder_mergeEntries {lower upper : Mapping} (below : PlainLabels lower)
    (above : PlainLabels upper) (fit : ∀ entry ∈ lower, PatchFits entry.2)
    (fit' : ∀ entry ∈ upper, PatchFits entry.2) (label : String) :
    patchUnder (Tree.mergeEntries lower upper) label =
      Patch.layered (patchUnder lower label) (patchUnder upper label) := by
  have textual := Tree.textual_string label
  have fits {labels : Mapping} (fit : ∀ entry ∈ labels, PatchFits entry.2) {value : Tree}
      (found : Mapping.get? (byText labels) label = some value) : PatchFits value := by
    obtain ⟨entry, inside, eq⟩ := List.mem_map.1 (Mapping.mem_of_find? textual found)
    cases eq
    exact fit entry inside
  rw [patchUnder, patchUnder, patchUnder, Mapping.byText_mergeEntries below.gives above.gives,
    Mapping.get?, Mapping.find?_mergeEntries textual (once_byText_iff.2 above.distinct label),
    ← Mapping.get?, ← Mapping.get?]
  cases found : Mapping.get? (byText lower) label with
  | none =>
    cases Mapping.get? (byText upper) label with
    | none => rfl
    | some value' => exact (Patch.layered_none_left _).symm
  | some value =>
    obtain ⟨patch, read⟩ := (fits fit found).reads
    cases found' : Mapping.get? (byText upper) label with
    | none => rfl
    | some value' =>
      obtain ⟨patch', read'⟩ := (fits fit' found').reads
      rw [Mapping.layered, Option.bind_some, Option.bind_some, Option.bind_some,
        Patch.ofTree_merge (fits fit found) (fits fit' found') read read', read, read']
      rfl

/-! ## Patches on patches -/

/-- What counts of patches when they are merged, and the patch of each label. -/
inductive PatchLayer where
  /-- None are given. -/
  | unset
  /-- They are given as a whole: a list or a bare address. -/
  | whole (patches : String → Option Patch)
  /-- They are given label by label. -/
  | labelled (patches : String → Option Patch)

namespace PatchLayer

/-- The patch of a label. -/
def get : PatchLayer → String → Option Patch
  | .unset, _ => none
  | .whole patches, label => patches label
  | .labelled patches, label => patches label

/-- The patches are given as a whole. -/
def IsWhole : PatchLayer → Prop
  | .whole _ => True
  | _ => False

instance : (layer : PatchLayer) → Decidable layer.IsWhole
  | .whole _ => isTrue trivial
  | .unset | .labelled _ => isFalse id

/-- One layer of patches on another: only what is given label by label leaves anything of the
patches below. -/
def merge : PatchLayer → PatchLayer → PatchLayer
  | below, .unset => below
  | .labelled below, .labelled above =>
    .labelled fun label => Patch.layered (below label) (above label)
  | _, above => above

variable {below above : PatchLayer}

theorem merge_unset_left (above : PatchLayer) : merge .unset above = above := by
  cases above <;> rfl

theorem not_isWhole_merge (h : ¬below.IsWhole) (h' : ¬above.IsWhole) :
    ¬(below.merge above).IsWhole := by
  cases below <;> cases above <;> simp_all [merge, IsWhole]

/-- **No label is lost**, unless patches are given as a whole. -/
theorem get_merge (h : ¬below.IsWhole) (h' : ¬above.IsWhole) (label : String) :
    (below.merge above).get label = Patch.layered (below.get label) (above.get label) := by
  cases above with
  | unset => rfl
  | whole patches => exact absurd trivial h'
  | labelled patches =>
    cases below with
    | unset => exact (Patch.layered_none_left _).symm
    | whole patches => exact absurd trivial h
    | labelled below => rfl

/-- The layer that a tree of some shape is read as. -/
def ofShape : Tree → (String → Option Patch) → PatchLayer
  | .null, _ => .unset
  | .mapping _, patches => .labelled patches
  | _, patches => .whole patches

end PatchLayer

namespace Tree

/-- The patch of a label in the patches that a tree is read as. -/
def patchAt (value : Tree) (label : String) : Option Patch :=
  (Patch.allOfTree value).toOption.bind (·.get? label)

/-- The layer that a tree is read as. -/
def patchLayer (value : Tree) : PatchLayer := .ofShape value value.patchAt

theorem get_patchLayer (value : Tree) (label : String) :
    value.patchLayer.get label = value.patchAt label := by
  cases value <;> rfl

/-- Patches that can be read and laid on others, label by label. -/
structure PlainPatches (value : Tree) : Prop where
  /-- They can be read. -/
  fits : PatchesFit value
  /-- Each label is given in one way. -/
  labels : PlainLabels value.topEntries

theorem plainPatches_null : PlainPatches .null :=
  ⟨⟨⟨.empty, rfl⟩, fun _ member => nomatch member⟩, plainLabels_nil⟩

theorem plainPatches_merge (below : PlainPatches lower) (above : PlainPatches upper) :
    PlainPatches (lower.merge upper) := by
  refine ⟨patchesFit_merge below.fits above.fits, ?_⟩
  refine merge_induction (fun value => PlainLabels value.topEntries) below.labels above.labels
    fun lower' upper' eq eq' => ?_
  subst eq eq'
  exact plainLabels_mergeEntries below.labels above.labels

theorem patchAt_mapping (plain : PlainPatches (.mapping labels)) (label : String) :
    (Tree.mapping labels).patchAt label = patchUnder labels label := by
  obtain ⟨patches, read⟩ := plain.fits.reads
  rw [patchAt, read]
  exact (get?_of_readLabelled plain.labels read label).trans Option.or_none

/-- **Patches on patches.** -/
theorem patchLayer_merge (below : PlainPatches lower) (above : PlainPatches upper) :
    (lower.merge upper).patchLayer = lower.patchLayer.merge upper.patchLayer := by
  have merged := plainPatches_merge below above
  cases upper with
  | null =>
    rw [merge]
    rfl
  | mapping top =>
    -- Only two mappings are merged label by label; everything else is one of the two trees.
    cases lower with
    | mapping base =>
      rw [merge] at merged ⊢
      refine congrArg PatchLayer.labelled (funext fun label => ?_)
      rw [patchAt_mapping merged, patchAt_mapping below, patchAt_mapping above]
      exact patchUnder_mergeEntries below.labels above.labels
        (patchesFit_mapping_iff.1 below.fits) (patchesFit_mapping_iff.1 above.fits) label
    | _ => rfl
  | _ => cases lower <;> rfl

end Tree

end BuildManifest
