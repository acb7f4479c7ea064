import BuildManifest.Proofs.Tree.Layers
import BuildManifest.Tree.Equal

/-!
# Along the paths of a merge

A path is a list of keys, each to be looked up in the mapping that the keys before it lead to.  As
long as nothing in the upper tree stands in the way, what is found at a path of a merge is what the
two trees have there, merged; and whatever replaces the lower tree on the way decides alone.

## What is here

* `valueAt?`, `isMapping`, `replaces` — the value at a path, and what may stand there.
* `valueAt?_merge_of_replaces`, `valueAt?_merge` — **a merge along a path**, with and without a
  value in the way.
* `merge_along_paths` — **which of the two trees a value of the merge comes from**, and the order of
  the keys where both have mappings.
-/

set_option autoImplicit false

namespace BuildManifest.Tree

open BuildManifest.Mapping (Apart contains find? keys layered)

variable {base top tree value : Tree} {path shorter rest : List Tree} {key : Tree}

/-- A mapping, without a tag. -/
def isMapping : Tree → Bool
  | .mapping _ => true
  | _ => false

/-- What replaces whatever it is laid on: neither null nor a mapping. -/
def replaces : Tree → Bool
  | .null => false
  | .mapping _ => false
  | _ => true

/-- The value at a path: each key is looked up in the mapping that the keys before it lead to. -/
def valueAt? (tree : Tree) : List Tree → Option Tree
  | [] => some tree
  | key :: rest => (find? tree.topEntries key).bind (valueAt? · rest)

/-! ## What may stand at a path -/

theorem not_replaces_of_isMapping (h : tree.isMapping = true) : tree.replaces = false := by
  cases tree with
  | mapping entries => rfl
  | _ => cases h

theorem eq_null_of_free (unmapped : tree.isMapping = false) (free : tree.replaces = false) :
    tree = .null := by
  cases tree with
  | null => rfl
  | mapping entries => cases unmapped
  | _ => cases free

theorem isMapping_iff : tree.isMapping = true ↔ ∃ entries, tree = .mapping entries := by
  cases tree <;> simp [isMapping]

/-- Only a mapping has values inside. -/
theorem isMapping_of_valueAt? (found : tree.valueAt? (key :: rest) = some value) :
    tree.isMapping = true := by
  cases tree with
  | mapping entries => rfl
  | _ => cases found

theorem valueAt?_append (tree : Tree) (path rest : List Tree) :
    tree.valueAt? (path ++ rest) = (tree.valueAt? path).bind (valueAt? · rest) := by
  induction path generalizing tree with
  | nil => rfl
  | cons key path ih =>
    rw [List.cons_append, valueAt?, valueAt?, Option.bind_assoc]
    simp only [ih]

theorem wellKeyed_of_valueAt? (keyed : tree.wellKeyed = true)
    (found : tree.valueAt? path = some value) : value.wellKeyed = true := by
  induction path generalizing tree with
  | nil => exact Option.some.inj found ▸ keyed
  | cons key path ih =>
    obtain ⟨entries, rfl⟩ := isMapping_iff.1 (isMapping_of_valueAt? found)
    obtain ⟨next, here, there⟩ := Option.bind_eq_some_iff.1 found
    exact ih (wellKeyed_of_find? keyed here) there

/-- Whether anything stands in the way can be computed. -/
theorem free_of_inits (free : ∀ shorter ∈ path.inits,
    (tree.valueAt? shorter).all (fun current => !current.replaces) = true) :
    ∀ shorter, shorter <+: path → ∀ current, tree.valueAt? shorter = some current →
      current.replaces = false := by
  intro shorter before current here
  have free := free shorter ((List.mem_inits _ _).2 before)
  rw [here] at free
  simpa using free

/-! ## One step of a merge -/

theorem merge_of_replaces (h : top.replaces = true) : base.merge top = top := by
  cases top with
  | null => cases h
  | mapping entries => cases h
  | _ => rfl

/-- Under a key, a merge is the merge of what the two trees have there. -/
theorem find?_topEntries_merge (keyed : top.wellKeyed = true) (free : top.replaces = false)
    (keyedKey : key.wellKeyed = true) :
    find? (base.merge top).topEntries key =
      layered (find? base.topEntries key) (find? top.topEntries key) := by
  cases top with
  | null =>
    rw [merge_null_right]
    rfl
  | mapping upper =>
    cases base with
    | mapping lower => exact Mapping.find?_mergeEntries_of_keyed keyed keyedKey
    | _ =>
      exact (Mapping.layered_none_left _).symm
  | _ => cases free

/-! ## Along a path -/

/-- What replaces the lower tree decides alone, and there is nothing inside it. -/
theorem valueAt?_merge_of_replaces (keyed : top.wellKeyed = true)
    (keyedPath : ∀ key ∈ path, key.wellKeyed = true) (before : shorter <+: path)
    (found : top.valueAt? shorter = some value) (replaced : value.replaces = true) :
    (base.merge top).valueAt? path = top.valueAt? path := by
  induction shorter generalizing base top path with
  | nil =>
    obtain rfl := Option.some.inj found
    rw [merge_of_replaces replaced]
  | cons key shorter ih =>
    obtain ⟨rest, rfl⟩ := before
    obtain ⟨keyedKey, keyedPath⟩ := List.forall_mem_cons.1 keyedPath
    obtain ⟨upper, rfl⟩ := isMapping_iff.1 (isMapping_of_valueAt? found)
    obtain ⟨next, here, there⟩ := Option.bind_eq_some_iff.1 found
    have keyedNext : next.wellKeyed = true := wellKeyed_of_find? keyed here
    have step : find? (base.merge (.mapping upper)).topEntries key =
        layered (find? base.topEntries key) (some next) := by
      rw [find?_topEntries_merge keyed rfl keyedKey, ← here]
    rw [List.cons_append, valueAt?, valueAt?, step,
      show find? (Tree.mapping upper).topEntries key = some next from here]
    cases find? base.topEntries key with
    | none => rfl
    | some current => exact ih keyedNext keyedPath ⟨rest, rfl⟩ there

/-- **Where nothing stands in the way, a merge has at a path what the two trees have there**,
merged. -/
theorem valueAt?_merge (keyed : top.wellKeyed = true)
    (keyedPath : ∀ key ∈ path, key.wellKeyed = true)
    (free : ∀ shorter, shorter <+: path → shorter ≠ path → ∀ value,
      top.valueAt? shorter = some value → value.replaces = false) :
    (base.merge top).valueAt? path = layered (base.valueAt? path) (top.valueAt? path) := by
  induction path generalizing base top with
  | nil => rfl
  | cons key path ih =>
    obtain ⟨keyedKey, keyedPath⟩ := List.forall_mem_cons.1 keyedPath
    have open_ : top.replaces = false :=
      free [] List.nil_prefix (List.cons_ne_nil key path).symm top rfl
    rw [valueAt?, valueAt?, valueAt?, find?_topEntries_merge keyed open_ keyedKey]
    cases upper : find? top.topEntries key with
    | none => rfl
    | some next =>
      have keyedNext : next.wellKeyed = true := by
        have found : top.valueAt? [key] = some next := by rw [valueAt?, upper]; rfl
        obtain ⟨entries, rfl⟩ := isMapping_iff.1 (isMapping_of_valueAt? found)
        exact wellKeyed_of_find? keyed upper
      cases find? base.topEntries key with
      | none => rw [Mapping.layered_none_left, Option.bind_none, Mapping.layered_none_left]
      | some current =>
        refine ih keyedNext keyedPath fun shorter before ne value found => ?_
        refine free (key :: shorter) (List.cons_prefix_cons.2 ⟨rfl, before⟩)
          (fun eq => ne (List.cons.inj eq).2) value ?_
        rw [valueAt?, upper]
        exact found

/-- A mapping in the upper tree has nothing in the way to it. -/
theorem not_replaces_of_valueAt? (found : top.valueAt? path = some value)
    (mapped : value.isMapping = true) (before : shorter <+: path) {current : Tree}
    (here : top.valueAt? shorter = some current) : current.replaces = false := by
  obtain ⟨rest, rfl⟩ := before
  rw [valueAt?_append, here] at found
  refine not_replaces_of_isMapping ?_
  cases rest with
  | nil => exact Option.some.inj found ▸ mapped
  | cons key rest => exact isMapping_of_valueAt? found

/-! ## Where the values of a merge come from -/

theorem valueAt?_merge_of_replaced (keyed : top.wellKeyed = true)
    (keyedPath : ∀ key ∈ path, key.wellKeyed = true) (found : top.valueAt? path = some value)
    (replaced : value.replaces = true) : (base.merge top).valueAt? path = some value := by
  rw [valueAt?_merge_of_replaces keyed keyedPath List.prefix_rfl found replaced, found]

/-- What the upper tree leaves alone stays. -/
theorem valueAt?_merge_of_free (keyed : top.wellKeyed = true)
    (keyedPath : ∀ key ∈ path, key.wellKeyed = true) (found : base.valueAt? path = some value)
    (unmapped : ∀ current, top.valueAt? path = some current → current.isMapping = false)
    (free : ∀ shorter, shorter <+: path → ∀ current,
      top.valueAt? shorter = some current → current.replaces = false) :
    (base.merge top).valueAt? path = some value := by
  rw [valueAt?_merge keyed keyedPath fun shorter before _ => free shorter before, found]
  cases upper : top.valueAt? path with
  | none => rfl
  | some current =>
    rw [eq_null_of_free (unmapped current upper) (free path List.prefix_rfl current upper), layered,
      merge_null_right]

/-- What is no mapping comes from one of the two trees as it is. -/
theorem valueAt?_of_valueAt?_merge (keyed : top.wellKeyed = true)
    (keyedPath : ∀ key ∈ path, key.wellKeyed = true)
    (found : (base.merge top).valueAt? path = some value) (unmapped : value.isMapping = false) :
    top.valueAt? path = some value ∨ base.valueAt? path = some value := by
  by_cases free : ∀ shorter, shorter <+: path → shorter ≠ path → ∀ current,
      top.valueAt? shorter = some current → current.replaces = false
  · rw [valueAt?_merge keyed keyedPath free] at found
    cases upper : top.valueAt? path with
    | none =>
      rw [upper] at found
      exact .inr found
    | some above =>
      rw [upper] at found
      cases lower : base.valueAt? path with
      | none =>
        rw [lower] at found
        exact .inl found
      | some below =>
        rw [lower] at found
        obtain rfl := Option.some.inj found
        refine merge_induction (fun tree => tree.isMapping = false →
          some above = some tree ∨ some below = some tree) ?_ ?_ ?_ unmapped
        · exact fun _ => .inr rfl
        · exact fun _ => .inl rfl
        · exact fun _ _ _ _ mapped => nomatch mapped
  · push Not at free
    obtain ⟨shorter, before, -, current, here, replaced⟩ := free
    rw [valueAt?_merge_of_replaces keyed keyedPath before here (Bool.of_not_eq_false replaced)]
      at found
    exact .inl found

/-- A mapping stands only where one of the two trees has one. -/
theorem exists_isMapping_of_valueAt?_merge (keyed : top.wellKeyed = true)
    (keyedPath : ∀ key ∈ path, key.wellKeyed = true)
    (found : (base.merge top).valueAt? path = some value) (mapped : value.isMapping = true) :
    ∃ given, given.isMapping = true ∧
      (top.valueAt? path = some given ∨ base.valueAt? path = some given) := by
  by_cases free : ∀ shorter, shorter <+: path → shorter ≠ path → ∀ current,
      top.valueAt? shorter = some current → current.replaces = false
  · rw [valueAt?_merge keyed keyedPath free] at found
    cases upper : top.valueAt? path with
    | none =>
      rw [upper] at found
      exact ⟨value, mapped, .inr found⟩
    | some above =>
      rw [upper] at found
      cases lower : base.valueAt? path with
      | none =>
        rw [lower] at found
        exact ⟨value, mapped, .inl found⟩
      | some below =>
        rw [lower] at found
        obtain rfl := Option.some.inj found
        refine merge_induction (fun tree => tree.isMapping = true → ∃ given,
          given.isMapping = true ∧ (some above = some given ∨ some below = some given)) ?_ ?_ ?_
          mapped
        · exact fun mapped => ⟨below, mapped, .inr rfl⟩
        · exact fun mapped => ⟨above, mapped, .inl rfl⟩
        · rintro lower upper - rfl -
          exact ⟨_, rfl, .inl rfl⟩
  · push Not at free
    obtain ⟨shorter, before, -, current, here, replaced⟩ := free
    rw [valueAt?_merge_of_replaces keyed keyedPath before here (Bool.of_not_eq_false replaced)]
      at found
    exact ⟨value, mapped, .inl found⟩

/-- Where both trees have a mapping, so does the merge. -/
theorem keys_of_valueAt?_merge {lower upper : Mapping} (keyed : base.wellKeyed = true)
    (keyed' : top.wellKeyed = true) (keyedPath : ∀ key ∈ path, key.wellKeyed = true)
    (below : base.valueAt? path = some (.mapping lower))
    (above : top.valueAt? path = some (.mapping upper)) :
    ∃ merged, (base.merge top).valueAt? path = some (.mapping merged) ∧
      keys merged = keys lower ++ (keys upper).filter (fun key => !contains lower key) ∧
      Apart merged := by
  have free (shorter : List Tree) (before : shorter <+: path) (_ : shorter ≠ path)
      (current : Tree) (here : top.valueAt? shorter = some current) : current.replaces = false :=
    not_replaces_of_valueAt? above rfl before here
  refine ⟨mergeEntries lower upper, ?_, ?_, ?_⟩
  · rw [valueAt?_merge keyed' keyedPath free, below, above, layered, merge]
  · exact Mapping.keys_mergeEntries (wellKeyed_of_valueAt? keyed' above)
  · exact Mapping.apart_mergeEntries (wellKeyed_mapping_iff.1 (wellKeyed_of_valueAt? keyed below)).1

/-- **Which of the two trees a value of a merge comes from.**  What replaces anything in the upper
tree stands in the merge.  What is no mapping in the lower tree stays unless the upper tree has a
mapping there or something in the way.  Nothing but mappings is made by merging, and a mapping made
of two has the keys of the lower one in order, then the other keys of the upper one in order, each
of them once. -/
theorem merge_along_paths (keyed : base.wellKeyed = true) (keyed' : top.wellKeyed = true)
    (keyedPath : ∀ key ∈ path, key.wellKeyed = true) :
    (∀ value, top.valueAt? path = some value → value.replaces = true →
      (base.merge top).valueAt? path = some value) ∧
    (∀ value, base.valueAt? path = some value → value.isMapping = false →
      (∀ current, top.valueAt? path = some current → current.isMapping = false) →
      (∀ shorter, shorter <+: path → ∀ current, top.valueAt? shorter = some current →
        current.replaces = false) →
      (base.merge top).valueAt? path = some value) ∧
    (∀ value, (base.merge top).valueAt? path = some value → value.isMapping = false →
      top.valueAt? path = some value ∨ base.valueAt? path = some value) ∧
    ∀ lower upper, base.valueAt? path = some (.mapping lower) →
      top.valueAt? path = some (.mapping upper) →
      ∃ merged, (base.merge top).valueAt? path = some (.mapping merged) ∧
        keys merged = keys lower ++ (keys upper).filter (fun key => !contains lower key) ∧
        Apart merged :=
  ⟨fun _ found replaced => valueAt?_merge_of_replaced keyed' keyedPath found replaced,
    fun _ found _ unmapped free => valueAt?_merge_of_free keyed' keyedPath found unmapped free,
    fun _ found unmapped => valueAt?_of_valueAt?_merge keyed' keyedPath found unmapped,
    fun _ _ below above => keys_of_valueAt?_merge keyed keyed' keyedPath below above⟩

/-- The version comes from above, the directory stays although it is null above, and the project
that is only above comes last. -/
theorem merge_along_paths_projects :
    let views (version subdir : Tree) : Tree :=
      .mapping [(.string "version", version), (.string "subdir", subdir)]
    let base : Tree := .mapping [(.string "projects", .mapping [
      (.string "views", views (.string "3.1") (.string "contrib")), (.string "ctools", .null)])]
    let top : Tree := .mapping [(.string "projects", .mapping [
      (.string "token", .mapping []), (.string "views", views (.string "3.2") .null)])]
    let merged := base.merge top
    base.wellKeyed = true ∧ top.wellKeyed = true ∧
      merged.valueAt? [.string "projects", .string "views", .string "version"] =
        some (.string "3.2") ∧
      merged.valueAt? [.string "projects", .string "views", .string "subdir"] =
        some (.string "contrib") ∧
      ∃ entries, merged.valueAt? [.string "projects"] = some (.mapping entries) ∧
        keys entries = [.string "views", .string "ctools", .string "token"] := by
  intro views base top merged
  have keyed : base.wellKeyed = true := by decide +kernel
  have keyed' : top.wellKeyed = true := by decide +kernel
  have law (path : List Tree) (h : ∀ key ∈ path, key.wellKeyed = true) :=
    merge_along_paths keyed keyed' h
  let projects : List Tree := [.string "projects"]
  let version : List Tree := [.string "projects", .string "views", .string "version"]
  let subdir : List Tree := [.string "projects", .string "views", .string "subdir"]
  refine ⟨keyed, keyed', (law version (by decide +kernel)).1 _ rfl rfl, ?_, ?_⟩
  · refine (law subdir (by decide +kernel)).2.1 _ rfl rfl (fun current here => ?_)
      fun shorter before current here => ?_
    · cases here
      rfl
    · have free : ∀ shorter ∈ subdir.inits,
          (top.valueAt? shorter).all (fun current => !current.replaces) = true := by decide +kernel
      have free := free shorter ((List.mem_inits _ _).2 before)
      rw [here] at free
      simpa using free
  · obtain ⟨entries, found, sameKeys, -⟩ := (law projects (by decide +kernel)).2.2.2 _ _ rfl rfl
    exact ⟨entries, found, sameKeys.trans (by decide +kernel)⟩

end BuildManifest.Tree
