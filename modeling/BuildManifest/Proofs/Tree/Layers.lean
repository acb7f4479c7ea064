import BuildManifest.Proofs.Tree.Apart

/-!
# What is found in a merge, whatever the key

Keys that are not texts may have more than one spelling: zero is looked up by minus zero.  On well
keyed trees a look-up does not tell spellings apart, so what is found in a merge is what the layers
say for every key; and the merge keeps the spelling of the lower layer.

## What is here

* `find?_of_same`, `find?_insert` — looking up under another spelling, and after an insertion.
* `ext_of_apart` — a mapping is given by its keys in order and what is found under them.
* `find?_mergeEntries_of_keyed` — **what is found in a merge is what the layers say**.
* `keys_mergeEntries` — **the keys of a merge**: those of the lower layer, then what is new above.
* `mergeEntries_eq_append` — **a merge, entry by entry**.
-/

set_option autoImplicit false

namespace BuildManifest.Mapping

open BuildManifest.Tree (mergeEntries same_refl same_symm same_trans wellKeyed
  wellKeyed_mapping_iff)

variable {entries others base top : Mapping} {key wanted value : Tree}

/-! ## Looking up -/

/-- A key is found under each of its spellings. -/
theorem find?_of_same (keyed : wanted.wellKeyed = true) (same : wanted.same key = true) :
    find? entries wanted = find? entries key := by
  have spelt (present : Tree) : wanted.same present = key.same present := by
    refine Bool.eq_iff_iff.2 ⟨fun here => ?_, fun here => same_trans wanted same here⟩
    exact same_trans key (same_symm wanted keyed same) here
  induction entries with
  | nil => rfl
  | cons first rest ih =>
    obtain ⟨present, old⟩ := first
    rw [find?_cons, find?_cons, spelt, ih]

/-- **Inserting changes what is found under the key**, in each of its spellings, and nothing
else. -/
theorem find?_insert (keyed : wanted.wellKeyed = true) (keyedKey : key.wellKeyed = true) :
    find? (insert entries key value) wanted =
      if wanted.same key then some value else find? entries wanted := by
  induction entries with
  | nil => rfl
  | cons first rest ih =>
    obtain ⟨present, old⟩ := first
    rw [insert]
    by_cases here : key.same present = true
    · have spelt : wanted.same present = wanted.same key := Bool.eq_iff_iff.2
        ⟨fun same => same_trans wanted same (same_symm key keyedKey here),
          fun same => same_trans wanted same here⟩
      rw [if_pos here, find?_cons, find?_cons, spelt]
      split <;> rfl
    · rw [if_neg here, find?_cons, find?_cons, ih]
      by_cases same : wanted.same key = true
      · have ne : ¬wanted.same present = true := fun other =>
          here (same_trans key (same_symm wanted keyed same) other)
        rw [if_pos same, if_neg ne, if_pos same]
      · rw [if_neg same, if_neg same]

theorem find?_append (entries others : Mapping) (wanted : Tree) :
    find? (entries ++ others) wanted = (find? entries wanted).or (find? others wanted) := by
  induction entries with
  | nil => rfl
  | cons first rest ih =>
    rw [List.cons_append, find?_cons, find?_cons, ih]
    split <;> rfl

theorem find?_isSome_of_mem (member : key ∈ keys entries) : (find? entries key).isSome = true := by
  rw [Option.isSome_iff_ne_none]
  intro absent
  obtain ⟨entry, inside, rfl⟩ := List.mem_map.1 member
  have apart := find?_eq_none_iff_forall.1 absent entry inside
  rw [same_refl] at apart
  cases apart

/-- Where keys are apart, each has the value that it stands beside. -/
theorem find?_of_apart (apart : Apart entries) (member : (key, value) ∈ entries) :
    find? entries key = some value := by
  induction entries with
  | nil => cases member
  | cons first rest ih =>
    obtain ⟨present, old⟩ := first
    obtain ⟨ahead, apart⟩ := apart_cons.1 apart
    rw [find?_cons]
    rcases List.mem_cons.1 member with here | later
    · cases here
      rw [if_pos (same_refl key)]
    · rw [if_neg (Bool.eq_false_iff.1 (ahead _ later)), ih apart later]

/-- **A mapping is given by its keys in order and what is found under them.** -/
theorem ext_of_apart (apart : Apart entries) (sameKeys : keys entries = keys others)
    (found : ∀ key ∈ keys entries, find? entries key = find? others key) : entries = others := by
  induction entries generalizing others with
  | nil => exact (List.map_eq_nil_iff.1 sameKeys.symm).symm
  | cons first rest ih =>
    obtain ⟨present, value⟩ := first
    cases others with
    | nil => cases sameKeys
    | cons first' rest' =>
      obtain ⟨present', value'⟩ := first'
      obtain ⟨rfl, sameRest⟩ := List.cons.inj sameKeys
      obtain ⟨ahead, apart⟩ := apart_cons.1 apart
      obtain ⟨here, later⟩ := List.forall_mem_cons.1 found
      rw [find?_cons, find?_cons, if_pos (same_refl _), if_pos (same_refl _)] at here
      have rest_eq : rest = rest' := ih apart sameRest fun key member => by
        obtain ⟨entry, inside, rfl⟩ := List.mem_map.1 member
        have ne : ¬entry.1.same present = true := Bool.eq_false_iff.1 (ahead entry inside)
        have next := later entry.1 member
        rwa [find?_cons, find?_cons, if_neg ne, if_neg ne] at next
      rw [Option.some.inj here, rest_eq]

/-! ## Merging -/

/-- What is laid on the rest is not found under the first key. -/
theorem find?_eq_none_of_ahead (keyed : wanted.wellKeyed = true)
    (ahead : ∀ after ∈ entries, after.1.same key = false) (same : wanted.same key = true) :
    find? entries wanted = none := by
  refine find?_eq_none_iff_forall.2 fun after member => Bool.eq_false_iff.2 fun here => ?_
  have again := ahead after member
  rw [same_trans _ (same_symm wanted keyed here) same] at again
  cases again

/-- **What is found in a merge is what the layers say.** -/
theorem find?_mergeEntries_of_keyed (keyedTop : wellKeyed (.mapping top) = true)
    (keyed : wanted.wellKeyed = true) :
    find? (mergeEntries base top) wanted = layered (find? base wanted) (find? top wanted) := by
  induction top generalizing base with
  | nil => rfl
  | cons first rest ih =>
    obtain ⟨key, value⟩ := first
    obtain ⟨apart, inside⟩ := wellKeyed_mapping_iff.1 keyedTop
    obtain ⟨ahead, apart⟩ := apart_cons.1 apart
    obtain ⟨⟨keyedKey, -⟩, inside⟩ := List.forall_mem_cons.1 inside
    obtain ⟨merged, step, value_eq⟩ := mergeEntries_cons rest
    rw [step, ih (wellKeyed_mapping_iff.2 ⟨apart, inside⟩), find?_insert keyed keyedKey,
      find?_cons]
    by_cases same : wanted.same key = true
    · rw [if_pos same, if_pos same, find?_eq_none_of_ahead keyed ahead same,
        find?_of_same keyed same, value_eq]
      rfl
    · rw [if_neg same, if_neg same]

/-- **The keys of a merge** are those of the lower layer in order, then what the upper layer has
besides, in its order. -/
theorem keys_mergeEntries (keyedTop : wellKeyed (.mapping top) = true) :
    keys (mergeEntries base top) =
      keys base ++ (keys top).filter fun key => !contains base key := by
  induction top generalizing base with
  | nil => exact (List.append_nil _).symm
  | cons first rest ih =>
    obtain ⟨key, value⟩ := first
    obtain ⟨apart, inside⟩ := wellKeyed_mapping_iff.1 keyedTop
    obtain ⟨ahead, apart⟩ := apart_cons.1 apart
    obtain ⟨⟨keyedKey, -⟩, inside⟩ := List.forall_mem_cons.1 inside
    obtain ⟨merged, step, -⟩ := mergeEntries_cons rest
    -- The keys that follow are as new as they were before the first one was inserted.
    have later : (keys rest).filter (fun other => !contains (insert base key merged) other) =
        (keys rest).filter fun other => !contains base other := by
      refine List.filter_congr fun other member => ?_
      obtain ⟨entry, here, rfl⟩ := List.mem_map.1 member
      have ne : ¬entry.1.same key = true := Bool.eq_false_iff.1 (ahead entry here)
      rw [contains, contains, find?_insert (inside entry here).1 keyedKey, if_neg ne]
    rw [step, ih (wellKeyed_mapping_iff.2 ⟨apart, inside⟩), later, keys_insert]
    by_cases present : contains base key = true
    · simp [keys, present]
    · simp [keys, present]

/-- An entry with what is laid on it. -/
def overlaid (top : Mapping) (entry : Tree × Tree) : Tree × Tree :=
  (entry.1, match find? top entry.1 with
    | some above => entry.2.merge above
    | none => entry.2)

theorem find?_map_overlaid (keyed : wanted.wellKeyed = true) :
    find? (base.map (overlaid top)) wanted =
      (find? base wanted).bind fun current => layered (some current) (find? top wanted) := by
  induction base with
  | nil => rfl
  | cons first rest ih =>
    obtain ⟨present, old⟩ := first
    rw [List.map_cons, overlaid, find?_cons, find?_cons, ih]
    by_cases same : wanted.same present = true
    · rw [if_pos same, if_pos same, ← find?_of_same keyed same]
      cases find? top wanted <;> rfl
    · rw [if_neg same, if_neg same]

theorem find?_filter_new (keyed : wanted.wellKeyed = true) (absent : find? base wanted = none) :
    find? (top.filter fun entry => !contains base entry.1) wanted = find? top wanted := by
  induction top with
  | nil => rfl
  | cons first rest ih =>
    obtain ⟨present, old⟩ := first
    rw [List.filter_cons, find?_cons]
    by_cases same : wanted.same present = true
    · have new : contains base present = false := by
        rw [contains, ← find?_of_same keyed same, absent]
        rfl
      simp [new, find?_cons, same]
    · rw [if_neg same]
      split
      · rw [find?_cons, if_neg same, ih]
      · exact ih

/-- **What a merge is, entry by entry**: what is below, with what is above laid on it, and then what
is only above. -/
theorem mergeEntries_eq_append (keyedBase : wellKeyed (.mapping base) = true)
    (keyedTop : wellKeyed (.mapping top) = true) :
    mergeEntries base top =
      base.map (overlaid top) ++ top.filter fun entry => !contains base entry.1 := by
  obtain ⟨apart, inside⟩ := wellKeyed_mapping_iff.1 keyedBase
  obtain ⟨-, inside'⟩ := wellKeyed_mapping_iff.1 keyedTop
  refine ext_of_apart (apart_mergeEntries apart) ?_ fun key member => ?_
  · have below : keys (base.map (overlaid top)) = keys base := List.map_map ..
    have above : keys (top.filter fun entry => !contains base entry.1) =
        (keys top).filter fun key => !contains base key := by
      rw [keys, keys, List.filter_map]
      rfl
    rw [keys_mergeEntries keyedTop, ← below, ← above]
    exact List.map_append.symm
  · have keyed : key.wellKeyed = true := by
      rcases mem_keys_mergeEntries member with below | above
      · obtain ⟨entry, here, rfl⟩ := List.mem_map.1 below
        exact (inside entry here).1
      · obtain ⟨entry, here, rfl⟩ := List.mem_map.1 above
        exact (inside' entry here).1
    rw [find?_mergeEntries_of_keyed keyedTop keyed, find?_append, find?_map_overlaid keyed]
    cases found : find? base key with
    | none => rw [Option.bind_none, Option.none_or, find?_filter_new keyed found, layered_none_left]
    | some current => cases find? top key <;> rfl

/-- On nothing, a mapping is laid as it is. -/
theorem mergeEntries_nil_left (keyed : wellKeyed (.mapping top) = true) :
    mergeEntries [] top = top := by
  obtain ⟨apart, inside⟩ := wellKeyed_mapping_iff.1 keyed
  refine (ext_of_apart apart ?_ fun key member => ?_).symm
  · rw [keys_mergeEntries keyed]
    exact (List.filter_eq_self.2 fun _ _ => rfl).symm
  · obtain ⟨entry, here, rfl⟩ := List.mem_map.1 member
    rw [find?_mergeEntries_of_keyed keyed (inside entry here).1]
    exact (layered_none_left _).symm

end BuildManifest.Mapping
