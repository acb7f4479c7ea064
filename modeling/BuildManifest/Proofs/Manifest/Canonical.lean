import BuildManifest.Proofs.Manifest.Fields
import BuildManifest.Proofs.Tree.CanonicalMerge

/-!
# Manifests in their canonical shape

A manifest is in its canonical shape if both of its sections are.  Normalizing gives the canonical
shape unless a name in digits is left in a list.

Laying one manifest in its canonical shape on another gives the canonical shape again, unless the
upper one lists a name that it declares by a key which the lower one has in another spelling.

## What is here

* `normalize_eq_self_iff` — **a manifest is in its canonical shape exactly if its sections are**.
* `normalize_normalize` — **when normalizing once is enough**.
* `normalize_merge` — **a merge is in its canonical shape if both manifests are**, also with the
  core project in front.
-/

set_option autoImplicit false

namespace BuildManifest.Tree

variable {root : Mapping} {base top tree : Tree} {name : String}

/-! ## Fixed points -/

theorem wellKeyed_fieldOrNull (keyed : tree.wellKeyed = true) (name : String) :
    (tree.fieldOrNull name).wellKeyed = true := by
  rw [fieldOrNull]
  cases found : tree.field? name with
  | none => rfl
  | some value =>
    cases tree with
    | mapping root => exact wellKeyed_of_find? keyed found
    | _ => cases found

/-- What has no key of that name has nothing to change. -/
theorem changeKey_eq_self {change : Tree → Tree}
    (fixed : change ((Mapping.get? root name).getD .null) = (Mapping.get? root name).getD .null) :
    changeKey change root name = root := by
  rw [changeKey]
  cases found : Mapping.get? root name with
  | none => rfl
  | some value =>
    rw [found, Option.getD_some] at fixed
    dsimp only
    rw [fixed]
    exact Mapping.insert_of_find?_eq_some found

/-- **A manifest is in its canonical shape exactly if its sections are.** -/
theorem normalize_eq_self_iff : tree.normalize = tree ↔ ∀ kind : SectionKind,
    normalizeSection (tree.fieldOrNull kind.name) = tree.fieldOrNull kind.name := by
  constructor
  · intro fixed kind
    rw [← fieldOrNull_normalize_section, fixed]
  · intro fixed
    cases tree with
    | mapping root =>
      have projects : changeKey normalizeSection root "projects" = root :=
        changeKey_eq_self (fixed .projects)
      have libraries : changeKey normalizeSection root "libraries" = root :=
        changeKey_eq_self (fixed .libraries)
      rw [normalize, entrySections, List.foldl_cons, List.foldl_cons, List.foldl_nil, projects,
        libraries]
    | _ => rfl

/-- **Normalizing twice is normalizing once** exactly if no name in digits is left in a list, and
none is where no list has such a name twice. -/
theorem normalize_normalize (keyed : tree.wellKeyed = true) :
    (tree.normalize.normalize = tree.normalize ↔
      ∀ kind : SectionKind, strayNumerals (tree.normalize.fieldOrNull kind.name) = []) ∧
    ((∀ (kind : SectionKind) (name : String), Text.isDigits name.toList = true →
        (itemNames (tree.fieldOrNull kind.name).indexed.topEntries).count name ≤ 1) →
      tree.normalize.normalize = tree.normalize) := by
  have exact_ : tree.normalize.normalize = tree.normalize ↔
      ∀ kind : SectionKind, strayNumerals (tree.normalize.fieldOrNull kind.name) = [] := by
    rw [normalize_eq_self_iff]
    refine forall_congr' fun kind => ?_
    rw [fieldOrNull_normalize_section]
    exact normalizeSection_normalizeSection_eq_iff (wellKeyed_fieldOrNull keyed kind.name)
  refine ⟨exact_, fun once => exact_.2 fun kind => ?_⟩
  rw [fieldOrNull_normalize_section]
  exact strayNumerals_normalizeSection (wellKeyed_fieldOrNull keyed kind.name) (once kind)

/-- A manifest with one section. -/
def ofSection (kind : SectionKind) (value : Tree) : Tree := .mapping [(.string kind.name, value)]

/-- Entries of every kind: a name that is listed twice, one that is a key as well, a version, and
attributes of which two are written short. -/
def shorthands : Tree :=
  .mapping [(.number (.int 0), .string "views"), (.number (.int 1), .string "views"),
    (.string "ctools", .string "1.4"), (.number (.int 2), .string "ctools"),
    (.string "token", .mapping [(.string "patch", .sequence [.string "fix"]),
      (.string "download", .string "u")])]

theorem normalize_normalize_shorthands :
    (ofSection .projects shorthands).normalize.normalize =
        (ofSection .projects shorthands).normalize ∧
      (ofSection .libraries (.sequence [.string "7", .string "7"])).normalize.normalize ≠
        (ofSection .libraries (.sequence [.string "7", .string "7"])).normalize := by
  constructor
  · refine (normalize_normalize (show (ofSection .projects shorthands).wellKeyed = true by
      decide)).1.2 fun kind => ?_
    cases kind <;> decide
  · intro fixed
    exact absurd ((normalize_normalize (by decide)).1.1 fixed .libraries) (by decide)

/-! ## Merging -/

/-- A manifest in its canonical shape keeps it when its core project moves to the front. -/
theorem normalize_coreFirst (keyed : wellKeyed (.mapping root) = true)
    (fixed : normalize (.mapping root) = .mapping root) :
    normalize (.mapping (coreFirst root)) = .mapping (coreFirst root) := by
  refine normalize_eq_self_iff.2 fun kind => ?_
  have section_ := normalize_eq_self_iff.1 fixed kind
  cases kind with
  | projects =>
    have projects : (Tree.mapping (coreFirst root)).fieldOrNull "projects" =
        projectsCoreFirst ((Tree.mapping root).fieldOrNull "projects") := by
      rw [fieldOrNull, fieldOrNull, field?, field?, get?_coreFirst_projects]
      cases Mapping.get? root "projects" <;> rfl
    rw [SectionKind.name, projects]
    exact normalizeSection_projectsCoreFirst (wellKeyed_fieldOrNull keyed _) section_
  | libraries =>
    have libraries : (Tree.mapping (coreFirst root)).fieldOrNull "libraries" =
        (Tree.mapping root).fieldOrNull "libraries" := by
      rw [fieldOrNull, fieldOrNull, field?, field?, get?_coreFirst_other root (by decide)]
    rw [SectionKind.name, libraries]
    exact section_

/-- **A merge of manifests in their canonical shape is in its canonical shape**, with the core
project in front or not, if every key that declares a name listed is spelt alike in both. -/
theorem normalize_merge (keyed : base.wellKeyed = true) (keyed' : top.wellKeyed = true)
    (below : base.normalize = base) (above : top.normalize = top)
    (alike : ∀ kind : SectionKind, SpeltAlike (base.fieldOrNull kind.name).topEntries
      (top.fieldOrNull kind.name).topEntries) :
    (base.merge top).normalize = base.merge top ∧
      ∀ root, base.merge top = .mapping root →
        normalize (.mapping (coreFirst root)) = .mapping (coreFirst root) := by
  have merged : (base.merge top).normalize = base.merge top := by
    refine merge_induction (fun tree => tree.normalize = tree) below above
      fun lower upper eq eq' => ?_
    have rooted {tree : Tree} {root : Mapping} (keyed : tree.wellKeyed = true)
        (eq : tree = .mapping root) : tree.Rooted :=
      ⟨root, eq, Mapping.distinct_of_apart (wellKeyed_mapping_iff.1 (eq ▸ keyed)).1⟩
    have merge_eq : base.merge top = .mapping (mergeEntries lower upper) := by
      rw [eq, eq', merge]
    rw [← merge_eq]
    refine normalize_eq_self_iff.2 fun kind => ?_
    rw [fieldOrNull_merge (rooted keyed eq) (rooted keyed' eq')]
    exact normalizeSection_merge (wellKeyed_fieldOrNull keyed _) (wellKeyed_fieldOrNull keyed' _)
      (normalize_eq_self_iff.1 below kind) (normalize_eq_self_iff.1 above kind) (alike kind)
  refine ⟨merged, fun root eq => normalize_coreFirst ?_ (eq ▸ merged)⟩
  rw [← eq]
  exact wellKeyed_merge top keyed keyed'

/-- A manifest that lists a name which it has as a key as well, and has the core project last. -/
def listsItsKey : Tree :=
  .mapping [(.string "core", .string "7.x"),
    (.string "projects", .mapping [(.string "views", .mapping [(.string "version", .null)]),
      (.number (.int 2), .string "views"), (.string "drupal", .mapping [])])]

theorem normalize_merge_listsItsKey :
    ∃ root, (ofSection .projects shorthands).normalize.merge listsItsKey = .mapping root ∧
      normalize (.mapping root) = .mapping root ∧
      normalize (.mapping (coreFirst root)) = .mapping (coreFirst root) := by
  have alike (kind : SectionKind) :
      SpeltAlike ((ofSection .projects shorthands).normalize.fieldOrNull kind.name).topEntries
        (listsItsKey.fieldOrNull kind.name).topEntries := by cases kind <;> decide
  obtain ⟨fixed, inFront⟩ :=
    normalize_merge (by decide) (by decide) (by decide) (by decide) alike
  exact ⟨_, rfl, fixed, inFront _ rfl⟩

/-- Without that, it need not be: zero and minus zero are one key, and the merge goes by the lower
one, which leaves the name of the other one in the list without a key. -/
theorem not_normalize_merge_zeros : ¬∀ base top : Tree, base.wellKeyed = true →
    top.wellKeyed = true → base.normalize = base → top.normalize = top →
    (base.merge top).normalize = base.merge top := by
  intro closed
  refine absurd (closed (ofSection .projects (.mapping [(.number (.float ⟨0⟩), .mapping [])]))
    (ofSection .projects (.mapping [(.number (.float ⟨0x8000000000000000⟩), .mapping []),
      (.number (.int 0), .string "-0.0")])) ?_ ?_ ?_ ?_) ?_ <;> decide

end BuildManifest.Tree
