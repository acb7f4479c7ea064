import BuildManifest.Proofs.Tree.Same

/-!
# Keys that are apart

A mapping has each of its keys once.  Inserting, merging and numbering the items of a list keep it
so, and so does another order of the entries.

## What is here

* `apart_insert`, `apart_mergeEntries`, `apart_of_perm` — what keeps the keys apart.
* `Mapping.insertAll` — entries inserted one after the other; where their keys are apart, they come
  out as they went in.
* `wellKeyed_insert`, `wellKeyed_merge` — **a merge of well keyed trees is well keyed**.
-/

set_option autoImplicit false

namespace BuildManifest

namespace Mapping

variable {entries others base top done list : Mapping} {key value one : Tree}

/-! ## Operations on entries whose keys are apart -/

theorem apart_iff_keys :
    Apart entries ↔ (keys entries).Pairwise fun before after => after.same before = false := by
  rw [Apart, keys, List.pairwise_map]

theorem find?_eq_none_iff_forall :
    find? entries key = none ↔ ∀ entry ∈ entries, key.same entry.1 = false := by
  induction entries with
  | nil => simp
  | cons first rest ih =>
    obtain ⟨present, old⟩ := first
    rw [find?_cons, List.forall_mem_cons, ← ih]
    by_cases same : key.same present = true
    · simp [same]
    · simp [Bool.eq_false_iff.2 same]

/-- What is found stands under a key that is the same. -/
theorem exists_mem_of_find? (found : find? entries key = some value) :
    ∃ present, (present, value) ∈ entries ∧ key.same present = true := by
  induction entries with
  | nil => cases found
  | cons first rest ih =>
    obtain ⟨present, old⟩ := first
    rw [find?_cons] at found
    by_cases same : key.same present = true
    · rw [if_pos same] at found
      cases found
      exact ⟨present, List.mem_cons_self, same⟩
    · rw [if_neg same] at found
      obtain ⟨other, inside, same⟩ := ih found
      exact ⟨other, List.mem_cons_of_mem _ inside, same⟩

theorem distinct_of_apart (apart : Apart entries) : Distinct entries := by
  intro wanted textual
  refine apart.imp fun {before after} apart both => ?_
  rw [both.1, both.2, (Tree.same_iff_of_textual textual).2 rfl] at apart
  cases apart

theorem insert_of_find?_eq_none (absent : find? entries key = none) :
    insert entries key value = entries ++ [(key, value)] := by
  induction entries with
  | nil => rfl
  | cons first rest ih =>
    obtain ⟨present, old⟩ := first
    obtain ⟨here, later⟩ := List.forall_mem_cons.1 (find?_eq_none_iff_forall.1 absent)
    rw [insert, if_neg (by simp [here]), ih (find?_eq_none_iff_forall.2 later)]
    rfl

/-- Giving a key the value that it has changes nothing. -/
theorem insert_of_find?_eq_some (found : find? entries key = some value) :
    insert entries key value = entries := by
  induction entries with
  | nil => cases found
  | cons first rest ih =>
    obtain ⟨present, old⟩ := first
    rw [find?_cons] at found
    rw [insert]
    by_cases same : key.same present = true
    · rw [if_pos same] at found ⊢
      rw [Option.some.inj found]
    · rw [if_neg same] at found ⊢
      rw [ih found]

theorem apart_append_singleton (apart : Apart entries)
    (absent : find? entries key = none) : Apart (entries ++ [(key, value)]) := by
  refine List.pairwise_append.2 ⟨apart, List.pairwise_singleton _ _, ?_⟩
  intro before inside after last
  rw [List.mem_singleton.1 last]
  exact find?_eq_none_iff_forall.1 absent before inside

theorem apart_insert (apart : Apart entries) : Apart (insert entries key value) := by
  cases found : find? entries key with
  | none =>
    rw [insert_of_find?_eq_none found]
    exact apart_append_singleton apart found
  | some current =>
    have kept := keys_insert entries key value
    rw [if_pos (by rw [contains, found]; rfl)] at kept
    rw [apart_iff_keys, kept]
    exact apart_iff_keys.1 apart

theorem apart_mergeEntries (apart : Apart base) : Apart (Tree.mergeEntries base top) := by
  induction top generalizing base with
  | nil =>
    rw [Tree.mergeEntries]
    exact apart
  | cons first rest ih =>
    obtain ⟨merged, step, -⟩ := mergeEntries_cons rest
    rw [step]
    exact ih (apart_insert apart)

theorem le_of_mem_keys_indexedFrom {first : Nat} {items : List Tree}
    (member : one ∈ keys (Tree.indexedFrom first items)) :
    ∃ position : Nat, first ≤ position ∧ one = .number (.int position) := by
  induction items generalizing first with
  | nil => cases member
  | cons item rest ih =>
    rcases List.mem_cons.1 member with rfl | later
    · exact ⟨first, Nat.le_refl _, rfl⟩
    · obtain ⟨position, le, eq⟩ := ih later
      exact ⟨position, Nat.le_of_succ_le le, eq⟩

/-- The positions of a list's items are apart. -/
theorem apart_indexedFrom (first : Nat) (items : List Tree) :
    Apart (Tree.indexedFrom first items) := by
  induction items generalizing first with
  | nil => exact List.Pairwise.nil
  | cons item rest ih =>
    refine apart_cons.2 ⟨fun after member => ?_, ih (first + 1)⟩
    obtain ⟨position, le, eq⟩ := le_of_mem_keys_indexedFrom (List.mem_map_of_mem member)
    rw [eq]
    simp only [Tree.same, Number.same, beq_eq_false_iff_ne]
    omega

/-- **Well keyed keys that are apart are so in every order.** -/
theorem apart_of_perm (keyed : ∀ entry ∈ entries, entry.1.wellKeyed = true)
    (apart : Apart entries) (perm : entries.Perm others) : Apart others := by
  have both : entries.Pairwise fun a b => a.1.same b.1 = false ∧ b.1.same a.1 = false := by
    refine apart.imp_of_mem fun {before after} inside _ apart => ⟨?_, apart⟩
    refine Bool.eq_false_iff.2 fun same => ?_
    rw [Tree.same_symm before.1 (keyed before inside) same] at apart
    cases apart
  exact ((List.Perm.pairwise_iff And.symm perm).1 both).imp fun h => h.2

/-! ## Entries inserted one after the other -/

/-- Insert entries one after the other. -/
def insertAll (done list : Mapping) : Mapping :=
  list.foldl (fun done entry => insert done entry.1 entry.2) done

theorem insertAll_cons (first : Tree × Tree) :
    insertAll done (first :: list) = insertAll (insert done first.1 first.2) list := rfl

/-- Entries whose keys are apart are appended. -/
theorem insertAll_of_apart (apart : Apart (done ++ list)) : insertAll done list = done ++ list := by
  induction list generalizing done with
  | nil => exact (List.append_nil done).symm
  | cons first rest ih =>
    obtain ⟨key, value⟩ := first
    have absent : find? done key = none := by
      refine find?_eq_none_iff_forall.2 fun entry member => ?_
      exact (List.pairwise_append.1 apart).2.2 entry member _ List.mem_cons_self
    rw [insertAll_cons, insert_of_find?_eq_none absent, ih, List.append_assoc]
    · rfl
    · rwa [List.append_assoc]

theorem ofList_of_apart (apart : Apart list) : ofList list = list := insertAll_of_apart apart

theorem length_insert (entries : Mapping) (key value : Tree) :
    (insert entries key value).length = entries.length + if contains entries key then 0 else 1 := by
  have length (entries : Mapping) : (keys entries).length = entries.length := List.length_map ..
  rw [← length, keys_insert]
  split <;> simp [length]

theorem length_insertAll_le (done list : Mapping) :
    (insertAll done list).length ≤ done.length + list.length := by
  induction list generalizing done with
  | nil => exact Nat.le_refl _
  | cons first rest ih =>
    have step := length_insert done first.1 first.2
    have later := ih (insert done first.1 first.2)
    rw [insertAll_cons, List.length_cons]
    split at step <;> omega

/-- Where as many entries come out as went in, they come out as they went in. -/
theorem insertAll_of_length
    (length : (insertAll done list).length = done.length + list.length) :
    insertAll done list = done ++ list := by
  induction list generalizing done with
  | nil => exact (List.append_nil done).symm
  | cons first rest ih =>
    have step := length_insert done first.1 first.2
    have later := length_insertAll_le (insert done first.1 first.2) rest
    rw [insertAll_cons, List.length_cons] at length
    have absent : find? done first.1 = none := by
      by_contra found
      rw [contains, Option.isSome_iff_ne_none.2 found, if_pos rfl] at step
      omega
    have grown : insert done first.1 first.2 = done ++ [first] := insert_of_find?_eq_none absent
    rw [grown] at length
    rw [insertAll_cons, grown, ih, List.append_assoc]
    · rfl
    · rw [length, List.length_append, List.length_singleton]
      omega

theorem ofList_of_length (length : (ofList list).length = list.length) : ofList list = list :=
  insertAll_of_length (by rw [List.length_nil, Nat.zero_add]; exact length)

theorem apart_insertAll (apart : Apart done) : Apart (insertAll done list) := by
  induction list generalizing done with
  | nil => exact apart
  | cons first rest ih => exact ih (apart_insert apart)

theorem apart_ofList : Apart (ofList list) := apart_insertAll List.Pairwise.nil

/-- **What holds of all entries inserted holds of what comes out**, if it is the same for keys that
are the same. -/
theorem forall_mem_insertAll (good : Tree → Tree → Prop)
    (stable : ∀ {key present value : Tree}, key.same present = true → good key value →
      good present value)
    (before : ∀ entry ∈ done, good entry.1 entry.2) (all : ∀ entry ∈ list, good entry.1 entry.2) :
    ∀ entry ∈ insertAll done list, good entry.1 entry.2 := by
  induction list generalizing done with
  | nil => exact before
  | cons first rest ih =>
    refine ih (fun entry member => ?_) fun entry member => all entry (List.mem_cons_of_mem _ member)
    have here := all first List.mem_cons_self
    rcases mem_insert member with old | ⟨rfl, -⟩ | ⟨present, _, rfl, same, -⟩
    · exact before entry old
    · exact here
    · exact stable same here

theorem forall_mem_ofList (good : Tree → Tree → Prop)
    (stable : ∀ {key present value : Tree}, key.same present = true → good key value →
      good present value)
    (all : ∀ entry ∈ list, good entry.1 entry.2) :
    ∀ entry ∈ ofList list, good entry.1 entry.2 :=
  forall_mem_insertAll good stable (fun _ member => nomatch member) all

theorem mem_keys_insertAll_of_done (member : one ∈ keys done) :
    one ∈ keys (insertAll done list) := by
  induction list generalizing done with
  | nil => exact member
  | cons first rest ih => exact ih (mem_keys_insert_of_mem member)

/-- No rigid key is lost. -/
theorem mem_keys_insertAll_of_rigid (rigid : one.Rigid) (member : one ∈ keys list) :
    one ∈ keys (insertAll done list) := by
  induction list generalizing done with
  | nil => cases member
  | cons first rest ih =>
    rw [insertAll_cons]
    rcases List.mem_cons.1 member with rfl | later
    · exact mem_keys_insertAll_of_done (mem_keys_insert_self rigid)
    · exact ih later

/-- A key that is the same as none inserted before it is there in the end. -/
theorem mem_keys_insertAll {before after : Mapping}
    (fresh : ∀ entry ∈ done ++ before, one.same entry.1 = false) :
    one ∈ keys (insertAll done (before ++ (one, value) :: after)) := by
  induction before generalizing done with
  | nil =>
    rw [List.append_nil] at fresh
    rw [List.nil_append, insertAll_cons]
    refine mem_keys_insertAll_of_done ?_
    rw [insert_of_find?_eq_none (find?_eq_none_iff_forall.2 fresh)]
    simp [keys]
  | cons first rest ih =>
    refine ih fun entry member => ?_
    rcases List.mem_append.1 member with inserted | later
    · rcases mem_insert inserted with old | ⟨rfl, -⟩ | ⟨present, current, rfl, -, inside, -⟩
      · exact fresh entry (List.mem_append_left _ old)
      · exact fresh _ (List.mem_append_right _ List.mem_cons_self)
      · exact fresh (present, current) (List.mem_append_left _ inside)
    · exact fresh entry (List.mem_append_right _ (List.mem_cons_of_mem _ later))

theorem mem_insert_self (rigid : key.Rigid) : (key, value) ∈ insert entries key value := by
  induction entries with
  | nil => exact List.mem_singleton_self _
  | cons first rest ih =>
    obtain ⟨present, old⟩ := first
    rw [insert]
    split
    · next same =>
      rw [rigid present same]
      exact List.mem_cons_self
    · exact List.mem_cons_of_mem _ ih

theorem mem_insert_of_mem {entry : Tree × Tree} (other : key.same entry.1 = false)
    (member : entry ∈ entries) : entry ∈ insert entries key value := by
  induction entries with
  | nil => cases member
  | cons first rest ih =>
    obtain ⟨present, old⟩ := first
    rw [insert]
    rcases List.mem_cons.1 member with rfl | later
    · rw [other, if_neg Bool.false_ne_true]
      exact List.mem_cons_self
    · split
      · exact List.mem_cons_of_mem _ later
      · exact List.mem_cons_of_mem _ (ih later)

/-- An entry whose key is the same as none inserted after it is there in the end. -/
theorem mem_insertAll {before after : Mapping} (rigid : one.Rigid)
    (last : ∀ entry ∈ after, entry.1.same one = false) :
    (one, value) ∈ insertAll done (before ++ (one, value) :: after) := by
  have stays {entries : Mapping} (member : (one, value) ∈ entries) :
      (one, value) ∈ insertAll entries after := by
    induction after generalizing entries with
    | nil => exact member
    | cons first rest ih =>
      obtain ⟨here, later⟩ := List.forall_mem_cons.1 last
      exact ih later (mem_insert_of_mem here member)
  rw [insertAll, List.foldl_append]
  exact stays (mem_insert_self rigid)

end Mapping

/-! ## Trees that stay well keyed -/

namespace Tree

variable {entries : Mapping} {key value : Tree}

theorem wellKeyed_of_find? (keyed : wellKeyed (.mapping entries) = true)
    (found : Mapping.find? entries key = some value) : value.wellKeyed = true := by
  obtain ⟨present, inside, -⟩ := Mapping.exists_mem_of_find? found
  exact ((wellKeyed_mapping_iff.1 keyed).2 _ inside).2

theorem wellKeyed_insert (keyed : wellKeyed (.mapping entries) = true)
    (keyedKey : key.wellKeyed = true) (keyedValue : value.wellKeyed = true) :
    wellKeyed (.mapping (Mapping.insert entries key value)) = true := by
  obtain ⟨apart, inside⟩ := wellKeyed_mapping_iff.1 keyed
  refine wellKeyed_mapping_iff.2 ⟨Mapping.apart_insert apart, fun entry member => ?_⟩
  rcases Mapping.mem_insert member with old | ⟨rfl, -⟩ | ⟨present, current, rfl, -, old, -⟩
  · exact inside entry old
  · exact ⟨keyedKey, keyedValue⟩
  · exact ⟨(inside _ old).1, keyedValue⟩

theorem wellKeyed_indexedFrom {items : List Tree} (keyed : ∀ item ∈ items, item.wellKeyed = true)
    (first : Nat) : wellKeyed (.mapping (indexedFrom first items)) = true := by
  refine wellKeyed_mapping_iff.2 ⟨Mapping.apart_indexedFrom first items, ?_⟩
  induction items generalizing first with
  | nil => exact fun _ member => nomatch member
  | cons item rest ih =>
    exact List.forall_mem_cons.2 ⟨⟨rfl, keyed item List.mem_cons_self⟩,
      ih (fun item member => keyed item (List.mem_cons_of_mem _ member)) (first + 1)⟩

theorem wellKeyed_indexed (keyed : value.wellKeyed = true) : value.indexed.wellKeyed = true := by
  cases value with
  | sequence items => exact wellKeyed_indexedFrom (wellKeyed_sequence_iff.1 keyed) 0
  | _ => exact keyed

/-- **A merge of well keyed trees is well keyed.** -/
theorem wellKeyed_merge {base : Tree} : (top : Tree) → base.wellKeyed = true →
    top.wellKeyed = true → (base.merge top).wellKeyed = true
  | top, below, above => by
    refine merge_induction (fun tree => tree.wellKeyed = true) below above
      fun lower upper eq eq' => ?_
    obtain ⟨apart, insideLower⟩ := wellKeyed_mapping_iff.1 (eq ▸ below)
    obtain ⟨-, insideUpper⟩ := wellKeyed_mapping_iff.1 (eq' ▸ above)
    refine wellKeyed_mapping_iff.2 ⟨Mapping.apart_mergeEntries apart, ?_⟩
    refine Mapping.forall_mem_mergeEntries (fun key value => key.wellKeyed = true ∧
      value.wellKeyed = true) (fun {key _ _ value} member _ lower upper => ?_)
      insideLower insideUpper
    have smaller : sizeOf value < sizeOf top := eq' ▸ sizeOf_lt_of_mem member
    exact ⟨lower.1, wellKeyed_merge value lower.2 upper.2⟩
  termination_by top => sizeOf top

end Tree

end BuildManifest
