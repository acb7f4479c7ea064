import BuildManifest.Proofs.Tree.Keys
import BuildManifest.Resolve.Load

/-!
# The keys of a manifest

What loading does to a manifest it does key by key.  The laws here say what stands under a key of
a manifest after each of the steps: normalization, moving the core project to the front, laying
one manifest on another, and taking a key out.

## What is here

* `Tree.field?`, `Tree.Rooted` — what a manifest has under a key, and that no key occurs twice.
* `field?_merge`, `field?_settle`, `field?_without` — the laws of the steps.
* `Consumed` — all references of the manifest have been followed.
-/

set_option autoImplicit false

namespace BuildManifest

open Mapping (Distinct Once layered)

namespace Tree

/-- What a manifest has under a key. -/
def field? : Tree → String → Option Tree
  | .mapping root, name => Mapping.get? root name
  | _, _ => none

/-- A mapping in which no text occurs twice as a key. -/
def Rooted (tree : Tree) : Prop := ∃ root, tree = .mapping root ∧ Distinct root

theorem rooted_empty : Rooted (.mapping []) := ⟨[], rfl, Mapping.distinct_nil⟩

/-! ## Normalization -/

theorem get?_changeKey_self (change : Tree → Tree) (root : Mapping) (name : String) :
    Mapping.get? (changeKey change root name) name = (Mapping.get? root name).map change := by
  rw [changeKey]
  cases h : Mapping.get? root name with
  | none => rw [Option.map_none, h]
  | some value => exact Mapping.find?_insert_self (textual_string name)

theorem get?_changeKey_other (change : Tree → Tree) (root : Mapping) {name other : String}
    (ne : name ≠ other) :
    Mapping.get? (changeKey change root name) other = Mapping.get? root other := by
  rw [changeKey]
  cases Mapping.get? root name with
  | none => rfl
  | some value =>
    exact Mapping.find?_insert_other (textual_string other) fun h => ne (string.inj h)

theorem distinct_changeKey {change : Tree → Tree} {root : Mapping} {name : String}
    (distinct : Distinct root) : Distinct (changeKey change root name) := by
  rw [changeKey]
  cases Mapping.get? root name with
  | none => exact distinct
  | some value => exact Mapping.distinct_insert distinct

theorem rooted_normalize {tree : Tree} (h : Rooted tree) : Rooted tree.normalize := by
  obtain ⟨root, rfl, distinct⟩ := h
  exact ⟨_, rfl, distinct_changeKey (distinct_changeKey distinct)⟩

/-- Normalization leaves every key alone that does not hold entries. -/
theorem field?_normalize_other (tree : Tree) {name : String} (h : name ∉ entrySections) :
    tree.normalize.field? name = tree.field? name := by
  have apart (one : String) (member : one ∈ entrySections) : one ≠ name :=
    fun eq => h (eq ▸ member)
  cases tree with
  | mapping root =>
    simp only [normalize, entrySections, List.foldl, field?]
    rw [get?_changeKey_other _ _ (apart _ (by decide)),
      get?_changeKey_other _ _ (apart _ (by decide))]
  | _ => rfl

/-- Normalization puts both sections into their canonical shape. -/
theorem field?_normalize_section (tree : Tree) {name : String} (h : name ∈ entrySections) :
    tree.normalize.field? name = (tree.field? name).map normalizeSection := by
  cases tree with
  | mapping root =>
    simp only [entrySections, List.mem_cons, List.not_mem_nil, or_false] at h
    simp only [normalize, entrySections, List.foldl, field?]
    rcases h with rfl | rfl
    · rw [get?_changeKey_other _ _ (by decide), get?_changeKey_self]
    · rw [get?_changeKey_self, get?_changeKey_other _ _ (by decide)]
  | _ => rfl

/-! ## The core project in front -/

/-- Projects with the core project in front. -/
def projectsCoreFirst : Tree → Tree
  | .mapping projects => .mapping (entriesCoreFirst projects)
  | other => other

theorem coreFirst_eq_changeKey (root : Mapping) :
    coreFirst root = root ∨ coreFirst root = changeKey projectsCoreFirst root "projects" := by
  rw [coreFirst, changeKey]
  split
  · next projects h =>
    rw [h]
    exact .inr rfl
  · exact .inl rfl

theorem distinct_coreFirst {root : Mapping} (distinct : Distinct root) :
    Distinct (coreFirst root) := by
  rcases coreFirst_eq_changeKey root with h | h
  · rw [h]
    exact distinct
  · rw [h]
    exact distinct_changeKey distinct

theorem get?_coreFirst_other (root : Mapping) {name : String} (ne : name ≠ "projects") :
    Mapping.get? (coreFirst root) name = Mapping.get? root name := by
  rcases coreFirst_eq_changeKey root with h | h
  · rw [h]
  · rw [h, get?_changeKey_other _ _ ne.symm]

theorem get?_coreFirst_projects (root : Mapping) :
    Mapping.get? (coreFirst root) "projects" =
      (Mapping.get? root "projects").map projectsCoreFirst := by
  rw [coreFirst]
  split
  · next projects h =>
    rw [h]
    exact Mapping.find?_insert_self (textual_string _)
  · next h =>
    cases found : Mapping.get? root "projects" with
    | none => rfl
    | some value =>
      cases value with
      | mapping projects => exact absurd found (h projects)
      | _ => rfl

theorem rooted_settle {tree : Tree} (h : Rooted tree) : Rooted (settle tree) := by
  obtain ⟨root, rfl, distinct⟩ := h
  exact rooted_normalize ⟨_, rfl, distinct_coreFirst distinct⟩

theorem field?_settle_other (tree : Tree) {name : String} (h : name ∉ entrySections) :
    (settle tree).field? name = tree.field? name := by
  cases tree with
  | mapping root =>
    rw [settle, field?_normalize_other _ h]
    exact get?_coreFirst_other root fun eq => h (eq ▸ by decide)
  | _ => rfl

/-- Settling puts the core project in front, and then both sections into their canonical shape. -/
theorem field?_settle_projects (tree : Tree) :
    (settle tree).field? "projects" =
      ((tree.field? "projects").map projectsCoreFirst).map normalizeSection := by
  cases tree with
  | mapping root =>
    rw [settle, field?_normalize_section _ (by decide)]
    exact congrArg _ (get?_coreFirst_projects root)
  | _ => rfl

theorem field?_settle_libraries (tree : Tree) :
    (settle tree).field? "libraries" = (tree.field? "libraries").map normalizeSection := by
  cases tree with
  | mapping root =>
    rw [settle, field?_normalize_section _ (by decide)]
    exact congrArg _ (get?_coreFirst_other root (by decide))
  | _ => rfl

/-- What settling makes of the value under a key: the core project moves to the front of the
projects, and both sections get their canonical shape. -/
def settledUnder : Tree → Tree → Tree
  | .string "projects", value => (projectsCoreFirst value).normalizeSection
  | .string "libraries", value => value.normalizeSection
  | _, value => value

/-- **A key of a settled manifest.** -/
theorem field?_settle (tree : Tree) (name : String) :
    (settle tree).field? name = (tree.field? name).map (settledUnder (.string name)) := by
  by_cases projects : name = "projects"
  · subst projects
    rw [field?_settle_projects, Option.map_map]
    rfl
  · by_cases libraries : name = "libraries"
    · subst libraries
      exact field?_settle_libraries tree
    · have plain : name ∉ entrySections := by simp [entrySections, projects, libraries]
      have same : settledUnder (.string name) = id := by
        funext value
        rw [settledUnder]
        · rfl
        · rintro ⟨⟩
          exact projects rfl
        · rintro ⟨⟩
          exact libraries rfl
      rw [field?_settle_other tree plain, same, Option.map_id, id]

/-! ## One manifest on another -/

theorem rooted_merge {base top : Tree} (h : Rooted base) (h' : Rooted top) :
    Rooted (base.merge top) := by
  obtain ⟨root, rfl, distinct⟩ := h
  obtain ⟨above, rfl, -⟩ := h'
  exact ⟨_, rfl, Mapping.distinct_mergeEntries distinct⟩

/-- **A key of two layers.** -/
theorem field?_merge {base top : Tree} (h : Rooted base) (h' : Rooted top) (name : String) :
    (base.merge top).field? name = layered (base.field? name) (top.field? name) := by
  obtain ⟨root, rfl, -⟩ := h
  obtain ⟨above, rfl, distinct⟩ := h'
  exact Mapping.find?_mergeEntries (textual_string name) (distinct _ (textual_string name))

/-! ## A key taken out -/

/-- A manifest without one of its keys. -/
def without (tree : Tree) (name : String) : Tree :=
  match tree with
  | .mapping root => .mapping (Mapping.erase root (.string name))
  | other => other

theorem rooted_without {tree : Tree} (h : Rooted tree) (name : String) :
    Rooted (tree.without name) := by
  obtain ⟨root, rfl, distinct⟩ := h
  exact ⟨_, rfl, Mapping.distinct_erase distinct⟩

theorem field?_without_self {tree : Tree} (h : Rooted tree) (name : String) :
    (tree.without name).field? name = none := by
  obtain ⟨root, rfl, distinct⟩ := h
  exact Mapping.find?_erase_self (textual_string name) (distinct _ (textual_string name))

theorem field?_without_other {tree : Tree} (h : Rooted tree) {name other : String}
    (ne : name ≠ other) : (tree.without name).field? other = tree.field? other := by
  obtain ⟨root, rfl, distinct⟩ := h
  exact Mapping.find?_erase_other (textual_string other) (distinct _ (textual_string other))
    fun eq => ne (string.inj eq)

end Tree

/-! ## What a policy leaves of an override -/

theorem rooted_allowedPart {policy : OverridePolicy} {tree : Tree} (h : tree.Rooted) :
    (allowedPart policy tree).Rooted := by
  obtain ⟨root, rfl, distinct⟩ := h
  have kept (keep : Tree × Tree → Bool) : Tree.Rooted (.mapping (root.filter keep)) :=
    ⟨_, rfl, fun key textual => List.Pairwise.filter _ (distinct key textual)⟩
  cases policy with
  | everything => exact ⟨root, rfl, distinct⟩
  | nothing => exact kept _
  | only keys => exact kept _

/-- A key that is not there is not there in a part of it. -/
theorem field?_allowedPart_eq_none {policy : OverridePolicy} {tree : Tree} {name : String}
    (h : tree.field? name = none) : (allowedPart policy tree).field? name = none := by
  have kept (root : Mapping) (keep : Tree × Tree → Bool) (h : Mapping.get? root name = none) :
      Mapping.get? (root.filter keep) name = none := by
    rw [Mapping.get?, Mapping.find?_eq_none_iff (Tree.textual_string name)] at h ⊢
    intro member
    obtain ⟨entry, inside, eq⟩ := List.mem_map.1 member
    exact h (List.mem_map.2 ⟨entry, (List.mem_filter.1 inside).1, eq⟩)
  cases policy <;> cases tree <;> first | exact h | exact kept _ _ h

/-- A manifest all of whose references have been followed. -/
structure Consumed (tree : Tree) : Prop where
  /-- It is a mapping without repeated keys. -/
  rooted : tree.Rooted
  /-- It includes nothing. -/
  includes : tree.field? "includes" = none
  /-- Nothing overrides it. -/
  overrides : tree.field? "overrides" = none

end BuildManifest
