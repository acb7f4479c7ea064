import BuildManifest.Proofs.Tree.Paths

/-!
# Layers in other groups

Three layers give one merge, whichever two are merged first, unless the middle one changes the
shape of what the others have: a mapping above merges with a mapping below, but not when the value
between them was laid on the lower one before.

## What is here

* `KeepsShape` — the middle layer never stands between two mappings.
* `merge_assoc` — **then the layers may be regrouped**, with the order of all keys.
* `merge_self`, `merge_merge_self` — **a layer that is there already changes nothing**.
-/

set_option autoImplicit false

namespace BuildManifest.Tree

open BuildManifest.Mapping (Apart contains find? keys layered)

variable {bottom middle top : Tree} {base current upper : Mapping} {key : Tree}

/-- Nowhere between two mappings does the middle layer hold what is neither null nor a mapping. -/
def KeepsShape (bottom middle top : Tree) : Prop :=
  ∀ path, (∀ key ∈ path, key.wellKeyed = true) → ∀ lower upper, ∀ current,
    bottom.valueAt? path = some (.mapping lower) → middle.valueAt? path = some current →
    top.valueAt? path = some (.mapping upper) → current.replaces = false

/-- Under one key, the shape is kept as well. -/
theorem KeepsShape.under (shape : KeepsShape bottom middle top) (keyed : key.wellKeyed = true)
    {lower between above : Tree} (below : find? bottom.topEntries key = some lower)
    (here : find? middle.topEntries key = some between)
    (on : find? top.topEntries key = some above) : KeepsShape lower between above := by
  intro path keyedPath inner outer value found found' found''
  refine shape (key :: path) (List.forall_mem_cons.2 ⟨keyed, keyedPath⟩) inner outer value ?_ ?_ ?_
  · rw [valueAt?, below]
    exact found
  · rw [valueAt?, here]
    exact found'
  · rw [valueAt?, on]
    exact found''

/-! ## Three layers -/

theorem layered_assoc {lower between above : Option Tree}
    (values : ∀ below ∈ lower, ∀ value ∈ between, ∀ on ∈ above,
      (below.merge value).merge on = below.merge (value.merge on)) :
    layered (layered lower between) above = layered lower (layered between above) := by
  cases above with
  | none => rfl
  | some on =>
    cases between with
    | none => rfl
    | some value =>
      cases lower with
      | none => rfl
      | some below => exact congrArg some (values below rfl value rfl on rfl)

/-- The keys of three layers are the same ones in the same order, however they are grouped. -/
theorem keys_mergeEntries_assoc (keyed : wellKeyed (.mapping current) = true)
    (keyed' : wellKeyed (.mapping upper) = true) :
    keys (mergeEntries (mergeEntries base current) upper) =
      keys (mergeEntries base (mergeEntries current upper)) := by
  have both : wellKeyed (.mapping (mergeEntries current upper)) = true :=
    wellKeyed_merge (.mapping upper) keyed keyed'
  have known (key : Tree) (member : key ∈ keys upper) :
      contains (mergeEntries base current) key = (contains base key || contains current key) := by
    obtain ⟨entry, inside, rfl⟩ := List.mem_map.1 member
    rw [contains, Mapping.find?_mergeEntries_of_keyed keyed
      ((wellKeyed_mapping_iff.1 keyed').2 entry inside).1, contains, contains]
    cases find? current entry.1 <;> cases find? base entry.1 <;> rfl
  rw [Mapping.keys_mergeEntries keyed', Mapping.keys_mergeEntries keyed,
    Mapping.keys_mergeEntries both, Mapping.keys_mergeEntries keyed', List.filter_append,
    List.filter_filter, List.append_assoc]
  refine congrArg _ (congrArg _ (List.filter_congr fun key member => ?_))
  rw [known key member, Bool.not_or]

theorem mergeEntries_assoc (keyedBase : wellKeyed (.mapping base) = true)
    (keyed : wellKeyed (.mapping current) = true) (keyed' : wellKeyed (.mapping upper) = true)
    (values : ∀ key : Tree, key.wellKeyed = true → ∀ below ∈ find? base key,
      ∀ value ∈ find? current key, ∀ on ∈ find? upper key,
      (below.merge value).merge on = below.merge (value.merge on)) :
    mergeEntries (mergeEntries base current) upper =
      mergeEntries base (mergeEntries current upper) := by
  have both : wellKeyed (.mapping (mergeEntries current upper)) = true :=
    wellKeyed_merge (.mapping upper) keyed keyed'
  have lower : wellKeyed (.mapping (mergeEntries base current)) = true :=
    wellKeyed_merge (.mapping current) keyedBase keyed
  have all : wellKeyed (.mapping (mergeEntries (mergeEntries base current) upper)) = true :=
    wellKeyed_merge (.mapping upper) lower keyed'
  obtain ⟨apart, inside⟩ := wellKeyed_mapping_iff.1 all
  refine Mapping.ext_of_apart apart (keys_mergeEntries_assoc keyed keyed') fun key member => ?_
  obtain ⟨entry, here, rfl⟩ := List.mem_map.1 member
  have keyedKey := (inside entry here).1
  rw [Mapping.find?_mergeEntries_of_keyed keyed' keyedKey,
    Mapping.find?_mergeEntries_of_keyed keyed keyedKey,
    Mapping.find?_mergeEntries_of_keyed both keyedKey,
    Mapping.find?_mergeEntries_of_keyed keyed' keyedKey,
    layered_assoc (values entry.1 keyedKey)]

/-- **Layers may be regrouped** if the middle one never stands between two mappings. -/
theorem merge_assoc {bottom middle : Tree} : (top : Tree) → bottom.wellKeyed = true →
    middle.wellKeyed = true → top.wellKeyed = true → KeepsShape bottom middle top →
    (bottom.merge middle).merge top = bottom.merge (middle.merge top)
  | top, keyed, keyed', keyed'', shape => by
    cases top with
    | null => rw [merge_null_right, merge_null_right]
    | mapping upper =>
      cases middle with
      | null => rw [merge_null_right, merge_null_left]
      | mapping current =>
        cases bottom with
        | mapping base =>
          refine congrArg mapping (mergeEntries_assoc keyed keyed' keyed'' ?_)
          intro key keyedKey below found value found' on found''
          obtain ⟨present, member, -⟩ := Mapping.exists_mem_of_find? found''
          have smaller : sizeOf on < sizeOf (mapping upper) := sizeOf_lt_of_mem member
          exact merge_assoc on (wellKeyed_of_find? keyed found) (wellKeyed_of_find? keyed' found')
            (wellKeyed_of_find? keyed'' found'') (shape.under keyedKey found found' found'')
        | _ => rfl
      | _ =>
        cases bottom with
        | mapping base => cases shape [] (fun _ member => nomatch member) base upper _ rfl rfl rfl
        | _ => rfl
    | _ => rfl
  termination_by top => sizeOf top

/-! ## A layer that is there already -/

/-- **Laid on itself, a tree stays as it is.** -/
theorem merge_self : (tree : Tree) → tree.wellKeyed = true → tree.merge tree = tree
  | tree, keyed => by
    cases tree with
    | mapping entries =>
      obtain ⟨apart, inside⟩ := wellKeyed_mapping_iff.1 keyed
      have sameKeys : keys (mergeEntries entries entries) = keys entries := by
        rw [Mapping.keys_mergeEntries keyed, List.filter_eq_nil_iff.2, List.append_nil]
        intro key member
        simp [contains, Mapping.find?_isSome_of_mem member]
      refine congrArg mapping (Mapping.ext_of_apart (Mapping.apart_mergeEntries apart) sameKeys ?_)
      intro key member
      rw [sameKeys] at member
      obtain ⟨entry, here, rfl⟩ := List.mem_map.1 member
      rw [Mapping.find?_mergeEntries_of_keyed keyed (inside entry here).1]
      cases found : find? entries entry.1 with
      | none => rfl
      | some value =>
        obtain ⟨present, member, -⟩ := Mapping.exists_mem_of_find? found
        have smaller : sizeOf value < sizeOf (mapping entries) := sizeOf_lt_of_mem member
        exact congrArg some (merge_self value (wellKeyed_of_find? keyed found))
    | _ => rfl
  termination_by tree => sizeOf tree

/-- **A layer that is there already changes nothing** when it is laid below again. -/
theorem merge_merge_self {base top : Tree} (keyed : base.wellKeyed = true)
    (keyed' : top.wellKeyed = true) : base.merge (base.merge top) = base.merge top := by
  have shape : KeepsShape base base top := by
    intro path _ lower upper current below here _
    rw [below] at here
    exact Option.some.inj here ▸ rfl
  rw [← merge_assoc top keyed keyed keyed' shape, merge_self base keyed]

/-! ## Both laws -/

/-- **Layers may be regrouped and laid again.**  Unless the middle layer holds something else than
null or a mapping where the layers around it hold mappings, it does not matter which two of three
layers are merged first, not even for the order of the keys; and a layer that is laid below what
was merged with it changes nothing. -/
theorem merge_regroup (keyed : bottom.wellKeyed = true) (keyed' : middle.wellKeyed = true) :
    (∀ top : Tree, top.wellKeyed = true → KeepsShape bottom middle top →
      (bottom.merge middle).merge top = bottom.merge (middle.merge top)) ∧
    bottom.merge (bottom.merge middle) = bottom.merge middle :=
  ⟨fun top keyed'' shape => merge_assoc top keyed keyed' keyed'' shape,
    merge_merge_self keyed keyed'⟩

/-- The middle layer leaves `views` alone, and its value for `ctools` stands below a mapping but
above none. -/
theorem merge_regroup_projects :
    let bottom : Tree := .mapping [(.string "views", .mapping [(.string "version", .string "3.1")])]
    let middle : Tree := .mapping [(.string "ctools", .string "1.0"), (.string "views", .null)]
    let top : Tree := .mapping [(.string "views", .mapping [(.string "subdir", .string "contrib")]),
      (.string "ctools", .mapping [])]
    (bottom.wellKeyed = true ∧ middle.wellKeyed = true ∧ top.wellKeyed = true ∧
      KeepsShape bottom middle top) ∧
      (bottom.merge middle).merge top = bottom.merge (middle.merge top) ∧
      bottom.merge (bottom.merge middle) = bottom.merge middle := by
  intro bottom middle top
  have keyed : bottom.wellKeyed = true := by decide +kernel
  have keyed' : middle.wellKeyed = true := by decide +kernel
  have keyed'' : top.wellKeyed = true := by decide +kernel
  have shape : KeepsShape bottom middle top := by
    intro path _ lower upper current below here on
    cases path with
    | nil => exact Option.some.inj here ▸ rfl
    | cons key rest =>
      -- The only value of the bottom layer stands under `views`, where the middle one has null.
      obtain ⟨value, found, -⟩ := Option.bind_eq_some_iff.1 below
      obtain ⟨present, member, same⟩ := Mapping.exists_mem_of_find? found
      obtain ⟨rfl, -⟩ := Prod.mk.inj (List.mem_singleton.1 member)
      obtain rfl := (same_iff_of_textual_right (textual_string "views")).1 same
      cases rest with
      | nil => exact Option.some.inj here ▸ rfl
      | cons key rest => cases here
  exact ⟨⟨keyed, keyed', keyed'', shape⟩, (merge_regroup keyed keyed').1 top keyed'' shape,
    (merge_regroup keyed keyed').2⟩

/-- A value between two mappings makes a difference. -/
example :
    let bottom : Tree := .mapping [(.string "version", .string "3.1")]
    let top : Tree := .mapping [(.string "subdir", .string "contrib")]
    (bottom.merge (.string "3.2")).merge top = top ∧
      bottom.merge (Tree.merge (.string "3.2") top) =
        .mapping [(.string "version", .string "3.1"), (.string "subdir", .string "contrib")] := by
  decide +kernel

end BuildManifest.Tree
