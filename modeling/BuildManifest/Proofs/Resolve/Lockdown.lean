import BuildManifest.Proofs.Resolve.Calls
import BuildManifest.Proofs.Resolve.Fetchers
import BuildManifest.Proofs.Tree.Merging
import BuildManifest.Tree.Equal
import Mathlib.Logic.Function.Iterate

/-!
# What a policy locks

An override changes the keys that the policy allows and no others.  The policy looks at an
override after its own references have been followed, and what comes after the policy, merging and
settling, brings nothing back: two overrides that agree on the allowed keys do the same to a
manifest, and a key that is not allowed keeps its value.

The policy goes by the text of a key, but the merge by what the key is.  So a policy that allows
`0.0` lets an override replace what a manifest has under `-0.0`, which is the same key in another
spelling.  Keys that are texts have one spelling only.

## What is here

* `OverridePolicy.allowedEntries` — what an override may say.
* `same_string_of_allows` — no allowed key is another spelling of a name.
* `mem_mergeEntries_iff`, `mem_settle_iff` — the entries under a key after merging and settling.
* `mem_layersOver_iff` — a key that is not allowed, under any number of overrides.
* `overrideAll_of_allowedEntries_eq` — **overrides that agree on the allowed keys do the same**, and
  leave alone every other key that they do not have in an allowed spelling.
* `not_overrideAll_keeps` — an allowed spelling replaces what is there.
-/

set_option autoImplicit false

namespace BuildManifest

open Load
open Mapping (Distinct Once)

variable {policy : OverridePolicy} {key value other : Tree} {name : String}

/-- The entries of an override that the policy allows. -/
def OverridePolicy.allowedEntries (policy : OverridePolicy) (tree : Tree) : Mapping :=
  tree.topEntries.filter fun entry => policy.allows entry.1.keyText

/-- A key that is a text has one spelling only, so that no allowed key is the same as a name that is
not allowed. -/
theorem same_string_of_allows (refused : policy.allows name = false)
    (allowed : policy.allows other.keyText = true) : other.same (.string name) = false := by
  refine Bool.eq_false_iff.2 fun same => ?_
  obtain rfl := (Tree.same_iff_of_textual_right (Tree.textual_string name)).1 same
  rw [show policy.allows (Tree.string name).keyText = false from refused] at allowed
  cases allowed

/-! ## The entries under a key -/

variable {root base top : Mapping}

/-- An insertion under a key that is not the same changes nothing. -/
theorem mem_insert_iff {given : Tree} (apart : other.same key = false) (ne : other ≠ key) :
    (key, value) ∈ Mapping.insert root other given ↔ (key, value) ∈ root := by
  induction root with
  | nil =>
    rw [Mapping.insert, List.mem_singleton, Prod.mk.injEq]
    exact ⟨fun h => absurd h.1.symm ne, fun member => absurd member List.not_mem_nil⟩
  | cons entry rest ih =>
    obtain ⟨present, old⟩ := entry
    by_cases same : other.same present = true
    · have notKey : key ≠ present := by
        rintro rfl
        rw [apart] at same
        cases same
      simp [Mapping.insert, same, notKey]
    · rw [Mapping.insert, if_neg same, List.mem_cons, List.mem_cons, ih]

/-- **A merge leaves alone what the upper layer does not name.** -/
theorem mem_mergeEntries_iff
    (apart : ∀ other ∈ Mapping.keys top, other.same key = false ∧ other ≠ key) :
    (key, value) ∈ Tree.mergeEntries base top ↔ (key, value) ∈ base := by
  induction top generalizing base with
  | nil => rw [Tree.mergeEntries]
  | cons entry rest ih =>
    obtain ⟨here, later⟩ := List.forall_mem_cons.1 apart
    obtain ⟨merged, step, -⟩ := Mapping.mergeEntries_cons rest
    rw [step, ih later, mem_insert_iff here.1 here.2]

theorem mem_iff_get? (distinct : Distinct root) :
    (.string name, value) ∈ root ↔ Mapping.get? root name = some value :=
  have textual := Tree.textual_string name
  ⟨Mapping.find?_of_mem textual (distinct _ textual), Mapping.mem_of_find? textual⟩

theorem mem_changeKey_iff {change : Tree → Tree} (ne : .string name ≠ key) :
    (key, value) ∈ Tree.changeKey change root name ↔ (key, value) ∈ root := by
  have apart : (Tree.string name).same key = false :=
    Bool.eq_false_iff.2 fun same =>
      ne ((Tree.same_iff_of_textual (Tree.textual_string name)).1 same)
  rw [Tree.changeKey]
  cases Mapping.get? root name with
  | none => exact Iff.rfl
  | some old => exact mem_insert_iff apart ne

theorem mem_topEntries_iff {tree : Tree} (rooted : tree.Rooted) :
    (.string name, value) ∈ tree.topEntries ↔ tree.field? name = some value := by
  obtain ⟨root, rfl, distinct⟩ := rooted
  exact mem_iff_get? distinct

/-- **What stands under a key of a settled manifest** stood there before. -/
theorem mem_settle_iff {tree : Tree} (rooted : tree.Rooted) :
    (key, value) ∈ (settle tree).topEntries ↔
      ∃ old, (key, old) ∈ tree.topEntries ∧ value = Tree.settledUnder key old := by
  by_cases text : ∃ name, key = .string name
  · obtain ⟨name, rfl⟩ := text
    simp only [mem_topEntries_iff (Tree.rooted_settle rooted), mem_topEntries_iff rooted,
      Tree.field?_settle, Option.map_eq_some_iff]
    exact exists_congr fun old => and_congr_right fun _ => eq_comm
  · -- No other key is one of a section, so every step leaves its entries alone.
    have ne (name : String) : .string name ≠ key := fun eq => text ⟨name, eq.symm⟩
    have same (old : Tree) : Tree.settledUnder key old = old := by
      rw [Tree.settledUnder]
      · exact fun eq => ne _ eq.symm
      · exact fun eq => ne _ eq.symm
    obtain ⟨root, rfl, -⟩ := rooted
    have coreFirst : (key, value) ∈ Tree.coreFirst root ↔ (key, value) ∈ root := by
      rcases Tree.coreFirst_eq_changeKey root with eq | eq
      · rw [eq]
      · rw [eq, mem_changeKey_iff (ne _)]
    have settled : (key, value) ∈ (settle (.mapping root)).topEntries ↔ (key, value) ∈ root := by
      show (key, value) ∈ Tree.changeKey _ (Tree.changeKey _ (Tree.coreFirst root) _) _ ↔ _
      rw [mem_changeKey_iff (ne _), mem_changeKey_iff (ne _), coreFirst]
    rw [settled]
    constructor
    · exact fun member => ⟨value, member, (same value).symm⟩
    · rintro ⟨old, member, rfl⟩
      rw [same]
      exact member

/-! ## Keys that are not allowed -/

theorem allows_of_mem_allowedEntries {tree : Tree}
    (member : other ∈ Mapping.keys (policy.allowedEntries tree)) :
    policy.allows other.keyText = true := by
  obtain ⟨entry, inside, rfl⟩ := List.mem_map.1 member
  exact (List.mem_filter.1 inside).2

theorem allowedPart_eq {tree : Tree} (rooted : tree.Rooted) :
    allowedPart policy tree = .mapping (policy.allowedEntries tree) := by
  obtain ⟨root, rfl, -⟩ := rooted
  cases policy with
  | everything => exact congrArg Tree.mapping (List.filter_eq_self.2 fun _ _ => rfl).symm
  | nothing => rfl
  | only keys => rfl

theorem distinct_topEntries {tree : Tree} (rooted : tree.Rooted) : Distinct tree.topEntries := by
  obtain ⟨root, rfl, distinct⟩ := rooted
  exact distinct

/-- A manifest over a tree is a manifest, whatever the tree is. -/
theorem rooted_merge_of_distinct {base top : Tree} (below : Distinct base.topEntries)
    (above : top.Rooted) : (base.merge top).Rooted := by
  cases base with
  | mapping root => exact Tree.rooted_merge ⟨root, rfl, below⟩ above
  | _ =>
    obtain ⟨entries, rfl, distinct⟩ := above
    exact ⟨entries, rfl, distinct⟩

/-- The part of an override that the policy allows does not touch a key that it does not allow,
unless it has that key in another spelling. -/
theorem mem_merge_allowedPart_iff {base tree : Tree} (above : tree.Rooted)
    (refused : policy.allows key.keyText = false)
    (unlike : ∀ other ∈ Mapping.keys (policy.allowedEntries tree), other.same key = false) :
    (key, value) ∈ (base.merge (allowedPart policy tree)).topEntries ↔
      (key, value) ∈ base.topEntries := by
  have apart : ∀ other ∈ Mapping.keys (policy.allowedEntries tree),
      other.same key = false ∧ other ≠ key := by
    refine fun other member => ⟨unlike other member, ?_⟩
    rintro rfl
    cases refused.symm.trans (allows_of_mem_allowedEntries member)
  rw [allowedPart_eq above]
  cases base with
  | mapping root => exact mem_mergeEntries_iff apart
  | _ =>
    constructor
    · exact fun member => absurd rfl (apart key (List.mem_map_of_mem member)).2
    · exact fun member => nomatch member

/-- **A key that is not allowed** has under an override what it had, settled. -/
theorem mem_settle_merge_iff {base tree : Tree} (below : Distinct base.topEntries)
    (above : tree.Rooted) (refused : policy.allows key.keyText = false)
    (unlike : ∀ other ∈ Mapping.keys (policy.allowedEntries tree), other.same key = false) :
    (key, value) ∈ (settle (base.merge (allowedPart policy tree))).topEntries ↔
      ∃ old, (key, old) ∈ base.topEntries ∧ value = Tree.settledUnder key old := by
  rw [mem_settle_iff (rooted_merge_of_distinct below (rooted_allowedPart above))]
  exact exists_congr fun old => and_congr_left fun _ =>
    mem_merge_allowedPart_iff above refused unlike

/-- **Under any number of overrides** it has what it had, settled once for each. -/
theorem mem_layersOver_iff {layer : Tree} (below : Distinct layer.topEntries) {trees : List Tree}
    (above : ∀ tree ∈ trees, tree.Rooted) (refused : policy.allows key.keyText = false)
    (unlike : ∀ tree ∈ trees, ∀ other ∈ Mapping.keys (policy.allowedEntries tree),
      other.same key = false) :
    (key, value) ∈ (layersOver layer (trees.map (allowedPart policy))).topEntries ↔
      ∃ old, (key, old) ∈ layer.topEntries ∧
        value = (Tree.settledUnder key)^[trees.length] old := by
  induction trees generalizing layer with
  | nil => simp
  | cons tree rest ih =>
    obtain ⟨here, later⟩ := List.forall_mem_cons.1 above
    obtain ⟨unlikeHere, unlikeLater⟩ := List.forall_mem_cons.1 unlike
    have settled : Distinct (settle (layer.merge (allowedPart policy tree))).topEntries :=
      distinct_topEntries
        (Tree.rooted_settle (rooted_merge_of_distinct below (rooted_allowedPart here)))
    rw [List.map_cons, layersOver_cons, ih settled later unlikeLater]
    simp only [mem_settle_merge_iff below here refused unlikeHere, List.length_cons,
      Function.iterate_succ_apply]
    constructor
    · rintro ⟨_, ⟨old, member, rfl⟩, rfl⟩
      exact ⟨old, member, rfl⟩
    · rintro ⟨old, member, rfl⟩
      exact ⟨_, ⟨old, member, rfl⟩, rfl⟩

/-! ## Two runs -/

/-- Load the manifests that override another one, and warn of what the policy refuses of them. -/
def loadOverrides (policy : OverridePolicy) (nesting : Nat) (location : Location)
    (references : List Reference) : Load (List Child) :=
  loadAll (loadOverride (loadReference (loadTree policy nesting) location) policy) references

section

variable {σ : Type} {fetcher : Fetcher σ} {nesting : Nat} {location : Location} {parent : Tree}
variable {references : List Reference} {before after : Session} {world last : σ}
variable {children : List Child}

theorem length_of_loadAll {α : Type} {may : Answering} {load : Reference → Load α}
    {all : List α} (ends : Ends may before (loadAll load references) (.ok all) after) :
    all.length = references.length := by
  induction references generalizing before after all with
  | nil =>
    obtain ⟨eq, -⟩ := ends_pure_iff.1 ends
    cases eq
    rfl
  | cons reference rest ih =>
    obtain ⟨one, middle, -, ends⟩ := ends_bind_ok_iff.1 ends
    obtain ⟨others, last, loaded, ends⟩ := ends_bind_ok_iff.1 ends
    obtain ⟨eq, -⟩ := ends_pure_iff.1 ends
    cases eq
    rw [List.length_cons, List.length_cons, ih loaded]

/-- Loading overrides gives one manifest for each of them. -/
theorem rooted_of_loadOverrides
    (ran : fetcher.run (loadOverrides policy nesting location references) before world =
      ((.ok children, after), last)) :
    children.length = references.length ∧ ∀ tree ∈ children.map Prod.fst, tree.Rooted := by
  have ends := fetcher.ends_run ran
  refine ⟨length_of_loadAll ends, fun tree member => ?_⟩
  obtain ⟨child, inside, rfl⟩ := List.mem_map.1 member
  have honest : Honest (.ofActions fetcher.answer) (loadTree policy nesting) :=
    honest_loadTree policy nesting
  have consumed := (steady_loadAll fun reference _ =>
    honest.steady_loadOverride location reference) _ _ _ ends
  exact (consumed.2 child inside).rooted

/-- Applying overrides loads them, and lays what the policy allows of them over what is there. -/
theorem run_overrideAll
    (ran : fetcher.run (loadOverrides policy nesting location references) before world =
      ((.ok children, after), last)) :
    fetcher.run (overrideAll (loadReference (loadTree policy nesting) location) policy parent
        references) before world =
      ((.ok (layersOver parent ((children.map Prod.fst).map (allowedPart policy))), after),
        last) := by
  rw [overrideAll_eq]
  exact (fetcher.run_map_ok_iff).2 ⟨children, ran, rfl⟩

end

/-- What the policy allows of some overrides depends on what stands under the allowed keys. -/
theorem map_allowedPart_eq {trees : List Tree} (rooted : ∀ tree ∈ trees, tree.Rooted) :
    trees.map (allowedPart policy) =
      (trees.map policy.allowedEntries).map Tree.mapping := by
  rw [List.map_map]
  exact List.map_congr_left fun tree member => allowedPart_eq (rooted tree member)

/-- **Overrides that agree on the allowed keys do the same**, and leave the other keys alone.  Two
fetchers, each with a state of its own, lead the references of a manifest to overrides with the
same entries under the keys that the policy allows; what else is in them, and in what they
themselves include and override, may differ.  Applied to any tree they then give one and the same
tree, and under each key that the policy does not allow, and that no override has in another
spelling which it allows, that tree has what was there before, except for the order and the shape
of the two sections. -/
theorem overrideAll_of_allowedEntries_eq {σ τ : Type} (one : Fetcher σ) (other : Fetcher τ)
    (policy : OverridePolicy) (nesting : Nat) (location : Location) (parent : Tree)
    (references : List Reference) (distinct : Distinct parent.topEntries)
    {before after before' after' : Session} {world last : σ} {world' last' : τ}
    {children children' : List Child}
    (ran : one.run (loadOverrides policy nesting location references) before world =
      ((.ok children, after), last))
    (ran' : other.run (loadOverrides policy nesting location references) before' world' =
      ((.ok children', after'), last'))
    (agree : (children.map Prod.fst).map policy.allowedEntries =
      (children'.map Prod.fst).map policy.allowedEntries) :
    ∃ merged,
      one.run (overrideAll (loadReference (loadTree policy nesting) location) policy parent
        references) before world = ((.ok merged, after), last) ∧
      other.run (overrideAll (loadReference (loadTree policy nesting) location) policy parent
        references) before' world' = ((.ok merged, after'), last') ∧
      ∀ key, policy.allows key.keyText = false →
        (∀ tree ∈ children.map Prod.fst, ∀ other ∈ Mapping.keys (policy.allowedEntries tree),
          other.same key = false) →
        ∀ value, (key, value) ∈ merged.topEntries ↔
          ∃ old, (key, old) ∈ parent.topEntries ∧
            value = (Tree.settledUnder key)^[references.length] old := by
  obtain ⟨length, rooted⟩ := rooted_of_loadOverrides ran
  obtain ⟨-, rooted'⟩ := rooted_of_loadOverrides ran'
  refine ⟨_, run_overrideAll ran, ?_, fun key refused unlike value => ?_⟩
  · rw [map_allowedPart_eq rooted, agree, ← map_allowedPart_eq rooted']
    exact run_overrideAll ran'
  · rw [mem_layersOver_iff distinct rooted refused unlike, List.length_map, length]

/-! ### A site whose projects may be overridden -/

/-- The overrides of the site may change its projects only. -/
def projectsOnly : OverridePolicy := .only (.ofNames ["projects"])

/-- The site. -/
def site : Tree :=
  .mapping [(.string "core", .string "8.x"), (.string "projects", .sequence [.string "views"])]

/-- An override that says more than it may. -/
def outspoken : List (String × String) := [("/m/local", "core: 6.x\nprojects: [ctools]\n")]

/-- An override that leaves it to another manifest to say what it may. -/
def roundabout : List (String × String) :=
  [("/m/local", "includes: [base]\nlibraries: [jq]\n"), ("/m/base", "projects: [ctools]\n")]

/-- What loading the override gives. -/
def loadedFrom (files : List (String × String)) :
    (Except ResolveError (List Child) × Session) × Unit :=
  (Fetcher.ofFiles files).run
    (loadOverrides projectsOnly 9 (.file "/m/site") [.plain "local"]) {} ()

/-- What applying the override to a manifest gives. -/
def appliedFrom (files : List (String × String)) (policy : OverridePolicy) (parent : Tree) :
    (Except ResolveError Tree × Session) × Unit :=
  (Fetcher.ofFiles files).run
    (overrideAll (loadReference (loadTree policy 9) (.file "/m/site")) policy parent
      [.plain "local"]) {} ()

theorem exists_of_toOption {ε α : Type} {outcome : (Except ε α × Session) × Unit} {value : α}
    (succeeds : outcome.1.1.toOption = some value) :
    ∃ after, outcome = ((.ok value, after), ()) := by
  obtain ⟨⟨result, after⟩, _⟩ := outcome
  obtain rfl := toOption_eq_some_iff.1 succeeds
  exact ⟨after, rfl⟩

theorem overrideAll_of_allowedEntries_eq_site : ∃ merged after after',
    appliedFrom outspoken projectsOnly site = ((.ok merged, after), ()) ∧
    appliedFrom roundabout projectsOnly site = ((.ok merged, after'), ()) ∧
    ((.string "core", .string "8.x") : Tree × Tree) ∈ merged.topEntries := by
  obtain ⟨children, loads⟩ := Option.isSome_iff_exists.1
    (show (loadedFrom outspoken).1.1.toOption.isSome = true by decide +kernel)
  obtain ⟨children', loads'⟩ := Option.isSome_iff_exists.1
    (show (loadedFrom roundabout).1.1.toOption.isSome = true by decide +kernel)
  have distinct : Distinct (Mapping.insert (Mapping.insert [] (.string "core") (.string "8.x"))
      (.string "projects") (.sequence [.string "views"])) :=
    Mapping.distinct_insert (Mapping.distinct_insert Mapping.distinct_nil)
  have agree : (loadedFrom outspoken).1.1.toOption.map
        (fun children => (children.map Prod.fst).map projectsOnly.allowedEntries) =
      (loadedFrom roundabout).1.1.toOption.map
        fun children => (children.map Prod.fst).map projectsOnly.allowedEntries := by
    decide +kernel
  rw [loads, loads'] at agree
  obtain ⟨after, ran⟩ := exists_of_toOption loads
  obtain ⟨after', ran'⟩ := exists_of_toOption loads'
  obtain ⟨merged, applied, applied', kept⟩ := overrideAll_of_allowedEntries_eq _ _ projectsOnly 9
    _ site _ distinct ran ran' (Option.some.inj agree)
  refine ⟨merged, after, after', applied, applied', ?_⟩
  have refused : projectsOnly.allows "core" = false := by decide
  have unlike : ∀ tree ∈ children.map Prod.fst,
      ∀ other ∈ Mapping.keys (projectsOnly.allowedEntries tree),
        other.same (.string "core") = false := fun _ _ _ member =>
    same_string_of_allows refused (allows_of_mem_allowedEntries member)
  exact (kept (.string "core") refused unlike _).2 ⟨.string "8.x", List.mem_cons_self, rfl⟩

/-! ### A key in two spellings -/

/-- A policy that allows one spelling of a key. -/
def zeroOnly : OverridePolicy := .only (.ofNames ["0.0"])

/-- The key in the other spelling. -/
def minusZero : Tree := .number (.float ⟨0x8000000000000000⟩)

/-- **A key is not kept that an override has in a spelling which the policy allows.** -/
theorem not_overrideAll_keeps : ¬∀ (fetcher : Fetcher Unit) (policy : OverridePolicy)
    (nesting : Nat) (location : Location) (parent : Tree) (references : List Reference)
    (before after : Session) (world last : Unit) (merged : Tree), Distinct parent.topEntries →
    fetcher.run (overrideAll (loadReference (loadTree policy nesting) location) policy parent
      references) before world = ((.ok merged, after), last) →
    ∀ key, policy.allows key.keyText = false → ∀ value, (key, value) ∈ merged.topEntries ↔
      ∃ old, (key, old) ∈ parent.topEntries ∧
        value = (Tree.settledUnder key)^[references.length] old := by
  intro keeps
  have replaced : (appliedFrom [("/m/local", "0.0: b\n")] zeroOnly
      (.mapping (Mapping.insert [] minusZero (.string "a")))).1.1.toOption =
        some (.mapping [(minusZero, .string "b")]) := by decide +kernel
  obtain ⟨after, ran⟩ := exists_of_toOption replaced
  have distinct : Distinct (Mapping.insert [] minusZero (.string "a")) :=
    Mapping.distinct_insert Mapping.distinct_nil
  have refused : zeroOnly.allows minusZero.keyText = false := by decide +kernel
  obtain ⟨old, member, eq⟩ := (keeps _ zeroOnly 9 _ (.mapping _) _ _ _ _ _ _ distinct ran minusZero
    refused (.string "b")).1 List.mem_cons_self
  obtain rfl : old = .string "a" := (Prod.mk.inj (List.mem_singleton.1 member)).2
  exact absurd eq (by decide)

end BuildManifest
