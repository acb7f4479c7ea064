import BuildManifest.Ini.Reading
import BuildManifest.Proofs.Ini.Spelling
import BuildManifest.Proofs.Tree.Layers

/-!
# A tree as assignments

A tree of mappings is given by its leaves, each with the keys that lead to it.  Assigned one after
the other, from the first to the last, they make the tree again, with its keys in their order: the
leaves under one key follow each other, so the first of them makes the key and the others find it
last.

## What is here

* `Tree.leaves`, `Tree.leavesOf` — the leaves of a tree, and of a mapping.
* `Writable`, `WritableRoot` — the trees whose leaves can all be assigned by lines.
* `foldlM_leavesOf` — **assigning the leaves of a mapping makes the mapping**.
-/

set_option autoImplicit false

namespace BuildManifest

namespace Tree

/-- A leaf one key further down. -/
def under (key : Tree) (leaf : List Tree × Tree) : List Tree × Tree := (key :: leaf.1, leaf.2)

mutual

/-- What a tree holds that is no mapping, each with the keys that lead to it, in order. -/
def leaves : Tree → List (List Tree × Tree)
  | .mapping entries => leavesOf entries
  | value => [([], value)]

/-- The leaves of a mapping. -/
def leavesOf : List (Tree × Tree) → List (List Tree × Tree)
  | [] => []
  | (key, value) :: rest => (leaves value).map (under key) ++ leavesOf rest

end

theorem mem_leavesOf {entries : Mapping} {leaf : List Tree × Tree} :
    leaf ∈ leavesOf entries ↔ ∃ entry ∈ entries, ∃ inner ∈ leaves entry.2,
      under entry.1 inner = leaf := by
  induction entries with
  | nil => simp [leavesOf]
  | cons first rest ih =>
    obtain ⟨key, value⟩ := first
    rw [leavesOf, List.mem_append, List.mem_map, ih]
    simp

end Tree

namespace Mapping

variable {entries more : Mapping} {key value : Tree}

theorem insert_append_of_none (absent : find? entries key = none) (more : Mapping) :
    insert (entries ++ more) key value = entries ++ insert more key value := by
  induction entries with
  | nil => rfl
  | cons first rest ih =>
    obtain ⟨present, old⟩ := first
    rw [find?_cons] at absent
    rw [List.cons_append, insert]
    split at absent
    · cases absent
    · next other =>
      rw [if_neg other, ih absent]
      rfl

end Mapping

namespace Ini

open Mapping (find? Apart)
open BuildManifest.Tree (leaves leavesOf under)

variable {entries done inner : Mapping} {key value : Tree} {leaf : List Tree × Tree}
  {list : List (List Tree × Tree)}

/-! ## Assigning below a key -/

/-- Give a leaf its place. -/
def putLeaf (entries : Mapping) (leaf : List Tree × Tree) : Except IniFault Mapping :=
  assign entries (leaf.1.map .named) leaf.2

theorem putLeaf_under (some_ : leaf.1 ≠ []) :
    putLeaf entries (under key leaf) =
      match find? entries key with
      | none => (putLeaf [] leaf).map fun inner => Mapping.insert entries key (.mapping inner)
      | some (.mapping child) =>
        (putLeaf child leaf).map fun inner => Mapping.insert entries key (.mapping inner)
      | some _ => .error (.occupied key) := by
  rw [putLeaf, under, List.map_cons, assign]
  · rfl
  · exact mt List.map_eq_nil_iff.1 some_

/-- A leaf below a key that is not there makes it, at the end. -/
theorem putLeaf_new (absent : find? done key = none) (some_ : leaf.1 ≠ []) :
    putLeaf done (under key leaf) =
      (putLeaf [] leaf).map fun inner => done ++ [(key, .mapping inner)] := by
  rw [putLeaf_under some_, absent]
  simp only [Mapping.insert_of_find?_eq_none absent]

/-- A leaf below the last key stays there. -/
theorem putLeaf_last (absent : find? done key = none) (self : key.same key = true)
    (some_ : leaf.1 ≠ []) :
    putLeaf (done ++ [(key, .mapping inner)]) (under key leaf) =
      (putLeaf inner leaf).map fun inner => done ++ [(key, .mapping inner)] := by
  have found : find? (done ++ [(key, .mapping inner)]) key = some (.mapping inner) := by
    rw [Mapping.find?_append, absent, Option.none_or, Mapping.find?_cons, if_pos self]
  rw [putLeaf_under some_, found]
  simp only [Mapping.insert_append_of_none absent, Mapping.insert, if_pos self]

/-- So do any number of them. -/
theorem foldlM_last (absent : find? done key = none) (self : key.same key = true)
    (paths : ∀ leaf ∈ list, leaf.1 ≠ []) :
    (list.map (under key)).foldlM putLeaf (done ++ [(key, .mapping inner)]) =
      (list.foldlM putLeaf inner).map fun inner => done ++ [(key, .mapping inner)] := by
  induction list generalizing inner with
  | nil => rfl
  | cons first rest ih =>
    obtain ⟨here, later⟩ := List.forall_mem_cons.1 paths
    rw [List.map_cons, List.foldlM_cons, List.foldlM_cons, putLeaf_last absent self here]
    cases putLeaf inner first with
    | error fault => rfl
    | ok grown => exact ih later

/-- The first of them makes the key. -/
theorem foldlM_new (absent : find? done key = none) (self : key.same key = true)
    (some_ : list ≠ []) (paths : ∀ leaf ∈ list, leaf.1 ≠ []) :
    (list.map (under key)).foldlM putLeaf done =
      (list.foldlM putLeaf []).map fun inner => done ++ [(key, .mapping inner)] := by
  obtain ⟨first, rest, rfl⟩ := List.exists_cons_of_ne_nil some_
  obtain ⟨here, later⟩ := List.forall_mem_cons.1 paths
  rw [List.map_cons, List.foldlM_cons, List.foldlM_cons, putLeaf_new absent here]
  cases putLeaf [] first with
  | error fault => rfl
  | ok grown => exact foldlM_last absent self later

/-! ## Trees that lines can give -/

/-- The values that lines can give: scalars, and mappings that hold something under keys that can
stand between brackets, none of them twice. -/
inductive Writable : Tree → Prop
  | scalar {value : Tree} (scalar : Scalar value) : Writable value
  | mapping {entries : Mapping} (some_ : entries ≠ []) (apart : Apart entries)
      (keys : ∀ entry ∈ entries, BracketKey entry.1)
      (values : ∀ entry ∈ entries, Writable entry.2) : Writable (.mapping entries)

/-- The mappings that lines can make: their own keys are the names before the brackets. -/
structure WritableRoot (entries : Mapping) : Prop where
  /-- No key is there twice. -/
  apart : Apart entries
  /-- Every key is a name. -/
  keys : ∀ entry ∈ entries, ∃ name : String, entry.1 = .string name ∧ IsBase name.toList
  /-- Lines can give the values. -/
  values : ∀ entry ∈ entries, Writable entry.2

theorem BracketKey.same_self (h : BracketKey key) : key.same key = true := by
  cases h <;> simp [Tree.same, Number.same]

theorem leaves_of_scalar (scalar : Scalar value) : leaves value = [([], value)] := by
  cases scalar <;> rfl

theorem Writable.leaves_ne_nil (h : Writable value) : leaves value ≠ [] := by
  induction h with
  | scalar scalar =>
    rw [leaves_of_scalar scalar]
    exact List.cons_ne_nil _ _
  | @mapping entries some_ _ _ _ ih =>
    obtain ⟨first, rest, rfl⟩ := List.exists_cons_of_ne_nil some_
    obtain ⟨key, value⟩ := first
    rw [leaves, leavesOf]
    exact List.append_ne_nil_of_left_ne_nil
      (mt List.map_eq_nil_iff.1 (ih (key, value) List.mem_cons_self)) _

/-- The keys that lead to a leaf can stand between brackets, and the leaf can stand in a line. -/
theorem Writable.of_mem_leaves (h : Writable value) :
    ∀ leaf ∈ leaves value, (∀ key ∈ leaf.1, BracketKey key) ∧ Scalar leaf.2 := by
  induction h with
  | scalar scalar =>
    rw [leaves_of_scalar scalar]
    intro leaf member
    rw [List.mem_singleton.1 member]
    exact ⟨nofun, scalar⟩
  | mapping _ _ keys _ ih =>
    intro leaf member
    rw [leaves] at member
    obtain ⟨entry, inside, inner, below, rfl⟩ := Tree.mem_leavesOf.1 member
    obtain ⟨bracketed, scalar⟩ := ih entry inside inner below
    exact ⟨List.forall_mem_cons.2 ⟨keys entry inside, bracketed⟩, scalar⟩

theorem WritableRoot.of_mem_leaves (h : WritableRoot entries) :
    ∀ leaf ∈ leavesOf entries, ValidPath leaf.1 ∧ Scalar leaf.2 := by
  intro leaf member
  obtain ⟨entry, inside, inner, below, rfl⟩ := Tree.mem_leavesOf.1 member
  obtain ⟨bracketed, scalar⟩ := (h.values entry inside).of_mem_leaves inner below
  obtain ⟨name, eq, named⟩ := h.keys entry inside
  exact ⟨by rw [under, eq]; exact .mk named bracketed, scalar⟩

/-! ## Making them -/

/-- Entries are made one after the other, if each of them is made at the end of what there is. -/
theorem foldlM_entries (apart : Apart (done ++ entries))
    (self : ∀ entry ∈ entries, entry.1.same entry.1 = true)
    (made : ∀ entry ∈ entries, ∀ done, find? done entry.1 = none →
      ((leaves entry.2).map (under entry.1)).foldlM putLeaf done = .ok (done ++ [entry])) :
    (leavesOf entries).foldlM putLeaf done = .ok (done ++ entries) := by
  induction entries generalizing done with
  | nil =>
    rw [leavesOf, List.append_nil]
    rfl
  | cons entry rest ih =>
    have absent : find? done entry.1 = none := Mapping.find?_eq_none_iff_forall.2 fun one member =>
      (List.pairwise_append.1 apart).2.2 one member entry List.mem_cons_self
    have regrouped : done ++ entry :: rest = (done ++ [entry]) ++ rest := by simp
    rw [regrouped] at apart ⊢
    rw [leavesOf, List.foldlM_append, made entry List.mem_cons_self done absent]
    exact ih apart (fun one member => self one (List.mem_cons_of_mem _ member))
      fun one member => made one (List.mem_cons_of_mem _ member)

/-- The leaves under a key make the key with its value, at the end. -/
theorem Writable.foldlM_leaves (h : Writable value) :
    ∀ key, key.same key = true → ∀ done, find? done key = none →
      ((leaves value).map (under key)).foldlM putLeaf done = .ok (done ++ [(key, value)]) := by
  induction h with
  | scalar scalar =>
    intro key _ done absent
    rw [leaves_of_scalar scalar, ← Mapping.insert_of_find?_eq_none absent]
    rfl
  | @mapping entries some_ apart keys values ih =>
    intro key self done absent
    have nonempty := (Writable.mapping some_ apart keys values).leaves_ne_nil
    have paths : ∀ leaf ∈ leavesOf entries, leaf.1 ≠ [] := by
      intro leaf member
      obtain ⟨entry, -, inner, -, rfl⟩ := Tree.mem_leavesOf.1 member
      exact List.cons_ne_nil _ _
    have made : (leavesOf entries).foldlM putLeaf [] = .ok entries :=
      foldlM_entries apart (fun entry member => (keys entry member).same_self)
        fun entry member => ih entry member entry.1 (keys entry member).same_self
    rw [leaves] at nonempty ⊢
    rw [foldlM_new absent self nonempty paths, made]
    rfl

/-- **Assigning the leaves of a mapping makes the mapping**, with its keys in their order. -/
theorem foldlM_leavesOf (h : WritableRoot entries) :
    (leavesOf entries).foldlM putLeaf [] = .ok entries := by
  have self : ∀ entry ∈ entries, entry.1.same entry.1 = true := by
    intro entry member
    obtain ⟨name, eq, -⟩ := h.keys entry member
    rw [eq]
    simp [Tree.same]
  exact foldlM_entries h.apart self fun entry member =>
    (h.values entry member).foldlM_leaves entry.1 (self entry member)

end Ini

end BuildManifest
