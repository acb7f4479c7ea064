import BuildManifest.Proofs.Tree.Keys

/-!
# The entries of a merge

Where the entries of a merge come from, and which keys it has.  A key that is the same as itself
only is never lost; one that is the same as another, such as zero and minus zero, may give way to
the other.

## What is here

* `Tree.Rigid` — a key that is the same as itself only.
* `mem_insert` — where the entries of an insertion come from.
* `mem_keys_mergeEntries_of_base`, `mem_keys_mergeEntries_of_top` — **no rigid key is lost**.
* `forall_mem_mergeEntries` — **what holds of both layers, entry by entry, holds of the merge**.
* `Tree.merge_induction` — what holds of both trees holds of their merge, unless both are mappings.
-/

set_option autoImplicit false

namespace BuildManifest

namespace Tree

variable {key other : Tree}

/-- The entries of a mapping, and no entries of anything else. -/
def topEntries : Tree → Mapping
  | .mapping entries => entries
  | _ => []

/-- A key that is the same as itself only. -/
def Rigid (key : Tree) : Prop := ∀ other : Tree, key.same other = true → other = key

theorem rigid_of_textual (textual : key.Textual) : key.Rigid :=
  fun _ same => ((same_iff_of_textual textual).1 same).symm

theorem rigid_of_isIndexKey (index : key.isIndexKey = true) : key.Rigid := by
  intro other same
  cases key with
  | string text => exact rigid_of_textual (textual_string text) other same
  | number value =>
    cases value with
    | int given =>
      cases other with
      | number value' => cases value' <;> simp_all [Tree.same, Number.same]
      | _ => simp [Tree.same] at same
    | float given => simp [isIndexKey] at index
  | _ => simp [isIndexKey] at index

/-- Keys that are the same are both indices, or neither is. -/
theorem isIndexKey_of_same (same : key.same other = true) : other.isIndexKey = key.isIndexKey := by
  by_cases index : key.isIndexKey = true
  · rw [rigid_of_isIndexKey index other same]
  · cases key with
    | string text => rw [rigid_of_textual (textual_string text) other same]
    | number value =>
      cases other with
      | number value' =>
        cases value <;> cases value' <;> simp_all [Tree.same, Number.same, isIndexKey]
      | _ => simp [Tree.same] at same
    | _ => cases other <;> simp_all [Tree.same, isIndexKey]

end Tree

namespace Mapping

open BuildManifest.Tree (Rigid)

variable {entries base top : Mapping} {key value one : Tree} {entry : Tree × Tree}

/-! ## Insertion -/

/-- **Where the entries of an insertion come from**: they were there, or the value went to the end,
or it took the place of the value of a key that is the same. -/
theorem mem_insert (member : entry ∈ insert entries key value) :
    entry ∈ entries ∨ entry = (key, value) ∧ find? entries key = none ∨
    ∃ present current, entry = (present, value) ∧ key.same present = true ∧
      (present, current) ∈ entries ∧ find? entries key = some current := by
  induction entries with
  | nil => exact .inr (.inl ⟨List.mem_singleton.1 member, rfl⟩)
  | cons first rest ih =>
    obtain ⟨present, old⟩ := first
    rw [insert] at member
    by_cases same : key.same present = true
    · rw [if_pos same] at member
      rcases List.mem_cons.1 member with rfl | later
      · refine .inr (.inr ⟨present, old, rfl, same, List.mem_cons_self, ?_⟩)
        rw [find?_cons, if_pos same]
      · exact .inl (List.mem_cons_of_mem _ later)
    · rw [if_neg same] at member
      rw [find?_cons, if_neg same]
      rcases List.mem_cons.1 member with rfl | later
      · exact .inl List.mem_cons_self
      · rcases ih later with old | new | ⟨present, current, eq, same, inside, found⟩
        · exact .inl (List.mem_cons_of_mem _ old)
        · exact .inr (.inl new)
        · exact .inr (.inr ⟨present, current, eq, same, List.mem_cons_of_mem _ inside, found⟩)

/-- Inserting under a rigid key puts the value under that key. -/
theorem mem_insert_of_rigid (rigid : key.Rigid) (member : entry ∈ insert entries key value) :
    entry ∈ entries ∨ entry = (key, value) := by
  rcases mem_insert member with old | ⟨eq, -⟩ | ⟨present, current, rfl, same, -⟩
  · exact .inl old
  · exact .inr eq
  · exact .inr (by rw [rigid present same])

theorem mem_keys_insert_of_mem (member : one ∈ keys entries) :
    one ∈ keys (insert entries key value) := by
  rw [keys_insert]
  split
  · exact member
  · exact List.mem_append_left _ member

theorem mem_keys_insert_self (rigid : key.Rigid) : key ∈ keys (insert entries key value) := by
  induction entries with
  | nil => exact List.mem_cons_self
  | cons first rest ih =>
    obtain ⟨present, old⟩ := first
    rw [insert]
    split
    · next same =>
      rw [← rigid present same]
      exact List.mem_cons_self
    · exact List.mem_cons_of_mem _ ih

/-! ## Merging -/

/-- **No key of the lower layer is lost.** -/
theorem mem_keys_mergeEntries_of_base (member : one ∈ keys base) :
    one ∈ keys (Tree.mergeEntries base top) := by
  induction top generalizing base with
  | nil =>
    rw [Tree.mergeEntries]
    exact member
  | cons first rest ih =>
    obtain ⟨merged, step, -⟩ := mergeEntries_cons rest
    rw [step]
    exact ih (mem_keys_insert_of_mem member)

/-- **No rigid key of the upper layer is lost.** -/
theorem mem_keys_mergeEntries_of_top (rigid : one.Rigid) (member : one ∈ keys top) :
    one ∈ keys (Tree.mergeEntries base top) := by
  induction top generalizing base with
  | nil => exact nomatch member
  | cons first rest ih =>
    obtain ⟨merged, step, -⟩ := mergeEntries_cons rest
    rw [step]
    rcases List.mem_cons.1 member with rfl | later
    · exact mem_keys_mergeEntries_of_base (mem_keys_insert_self rigid)
    · exact ih later

/-- **What holds of both layers, entry by entry, holds of the merge**, if it holds of two values
merged under the lower one's key. -/
theorem forall_mem_mergeEntries (good : Tree → Tree → Prop)
    (merges : ∀ {key present lower upper : Tree}, (key, upper) ∈ top → key.same present = true →
      good present lower → good key upper → good present (lower.merge upper))
    (below : ∀ entry ∈ base, good entry.1 entry.2) (above : ∀ entry ∈ top, good entry.1 entry.2) :
    ∀ entry ∈ Tree.mergeEntries base top, good entry.1 entry.2 := by
  induction top generalizing base with
  | nil =>
    rw [Tree.mergeEntries]
    exact below
  | cons first rest ih =>
    obtain ⟨key, value⟩ := first
    have upper : good key value := above _ List.mem_cons_self
    have ih := fun {base : Mapping} (below : ∀ entry ∈ base, good entry.1 entry.2) =>
      ih (fun member => merges (List.mem_cons_of_mem _ member)) below
        fun entry member => above entry (List.mem_cons_of_mem _ member)
    obtain ⟨merged, step, value_eq⟩ := mergeEntries_cons rest
    rw [step]
    refine ih fun entry member => ?_
    rcases mem_insert member with old | ⟨rfl, missing⟩ | ⟨present, old, rfl, same, inside, found⟩
    · exact below entry old
    · rw [missing] at value_eq
      obtain rfl : value = merged := Option.some.inj value_eq
      exact upper
    · rw [found] at value_eq
      obtain rfl : old.merge value = merged := Option.some.inj value_eq
      exact merges List.mem_cons_self same (below _ inside) upper

/-- What is found in both layers is merged, where what is missing is null. -/
theorem getD_layered (lower upper : Option Tree) :
    (layered lower upper).getD .null = (lower.getD .null).merge (upper.getD .null) := by
  cases upper with
  | none =>
    cases lower with
    | none => rfl
    | some below => cases below <;> rfl
  | some above =>
    cases lower with
    | none => cases above <;> rfl
    | some below => rfl

end Mapping

/-- The values inside a mapping are smaller than the mapping. -/
theorem Tree.sizeOf_lt_of_mem {entries : Mapping} {key value : Tree}
    (member : (key, value) ∈ entries) : sizeOf value < sizeOf (Tree.mapping entries) := by
  have inside := List.sizeOf_lt_of_mem member
  rw [Prod.mk.sizeOf_spec] at inside
  rw [Tree.mapping.sizeOf_spec]
  omega

@[simp] theorem Tree.merge_null_left (top : Tree) : Tree.null.merge top = top := by
  cases top <;> rfl

@[simp] theorem Tree.merge_null_right (base : Tree) : base.merge .null = base := by rw [merge]

/-- **What a merge is**: one of the two trees, unless both are mappings. -/
theorem Tree.merge_induction (good : Tree → Prop) {base top : Tree} (below : good base)
    (above : good top) (both : ∀ lower upper : Mapping, base = .mapping lower →
      top = .mapping upper → good (.mapping (mergeEntries lower upper))) :
    good (base.merge top) := by
  cases top with
  | null =>
    rw [merge]
    exact below
  | mapping upper =>
    cases base with
    | mapping lower =>
      rw [merge]
      exact both lower upper rfl rfl
    | _ => exact above
  | _ => exact above

end BuildManifest
