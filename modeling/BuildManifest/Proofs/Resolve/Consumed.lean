import BuildManifest.Proofs.Resolve.Step
import BuildManifest.Proofs.Tree.Parsed

/-!
# References are followed once

What a reference leads to has no references left, so a merge of such manifests has none either,
and the overrides that are followed are those that the manifest itself names.

## What is here

* `field?_layersOver` — a key that no layer has comes from below.
* `field?_withIncludes_overrides` — what a manifest includes does not change its overrides.
* `consumed_withOverrides` — **nothing is left of the references in the end**.
-/

set_option autoImplicit false

namespace BuildManifest

open Mapping (layered)

/-- Manifests that references led to, with their own references followed. -/
def AllConsumed (trees : List Tree) : Prop := ∀ tree ∈ trees, Consumed tree

theorem rooted_layersOver {layer : Tree} (rooted : layer.Rooted) {trees : List Tree}
    (h : ∀ tree ∈ trees, tree.Rooted) : (layersOver layer trees).Rooted := by
  induction trees generalizing layer with
  | nil => exact rooted
  | cons tree rest ih =>
    rw [layersOver_cons]
    refine ih ?_ fun other member => h other (List.mem_cons_of_mem _ member)
    exact Tree.rooted_settle (Tree.rooted_merge rooted (h tree List.mem_cons_self))

/-- **A key that no layer has comes from below.** -/
theorem field?_layersOver {layer : Tree} (rooted : layer.Rooted) {trees : List Tree}
    {name : String} (plain : name ∉ Tree.entrySections)
    (h : ∀ tree ∈ trees, tree.Rooted ∧ tree.field? name = none) :
    (layersOver layer trees).field? name = layer.field? name := by
  induction trees generalizing layer with
  | nil => rfl
  | cons tree rest ih =>
    obtain ⟨rootedTree, absent⟩ := h tree List.mem_cons_self
    rw [layersOver_cons,
      ih (Tree.rooted_settle (Tree.rooted_merge rooted rootedTree))
        fun other member => h other (List.mem_cons_of_mem _ member),
      Tree.field?_settle_other _ plain, Tree.field?_merge rooted rootedTree, absent]
    cases layer.field? name <;> rfl

/-! ## What is included -/

theorem rooted_withIncludes {own : Tree} (rooted : own.Rooted) {included : Option (List Tree)}
    (h : ∀ trees, included = some trees → AllConsumed trees) :
    (withIncludes own included).Rooted := by
  cases included with
  | none => exact rooted
  | some trees =>
    refine Tree.rooted_settle (Tree.rooted_merge ?_ (Tree.rooted_without rooted _))
    exact rooted_layersOver Tree.rooted_empty fun tree member => (h _ rfl tree member).rooted

/-- What stands over the included manifests, under a key that none of them has. -/
theorem field?_over_included {own : Tree} (rooted : own.Rooted) {trees : List Tree}
    {name : String} (plain : name ∉ Tree.entrySections)
    (h : ∀ tree ∈ trees, tree.Rooted ∧ tree.field? name = none) :
    (withIncludes own (some trees)).field? name =
      (own.without "includes").field? name := by
  have below := field?_layersOver Tree.rooted_empty plain h
  rw [withIncludes, Tree.field?_settle_other _ plain,
    Tree.field?_merge (rooted_layersOver Tree.rooted_empty fun tree member => (h tree member).1)
      (Tree.rooted_without rooted _), below]
  cases (own.without "includes").field? name <;> rfl

theorem field?_withIncludes_includes {own : Tree} (rooted : own.Rooted)
    {included : Option (List Tree)} (absent : included = none → own.field? "includes" = none)
    (h : ∀ trees, included = some trees → AllConsumed trees) :
    (withIncludes own included).field? "includes" = none := by
  cases included with
  | none => exact absent rfl
  | some trees =>
    rw [field?_over_included rooted (by decide)
      fun tree member => ⟨(h _ rfl tree member).rooted, (h _ rfl tree member).includes⟩]
    exact Tree.field?_without_self rooted _

/-- **What a manifest includes does not change what overrides it.** -/
theorem field?_withIncludes_overrides {own : Tree} (rooted : own.Rooted)
    {included : Option (List Tree)}
    (h : ∀ trees, included = some trees → AllConsumed trees) :
    (withIncludes own included).field? "overrides" = own.field? "overrides" := by
  cases included with
  | none => rfl
  | some trees =>
    rw [field?_over_included rooted (by decide)
      fun tree member => ⟨(h _ rfl tree member).rooted, (h _ rfl tree member).overrides⟩]
    exact Tree.field?_without_other rooted (by decide)

/-! ## What overrides -/

/-- **A manifest whose includes and overrides have been followed has none left.** -/
theorem consumed_withOverrides {policy : OverridePolicy} {merged : Tree} (rooted : merged.Rooted)
    (includes : merged.field? "includes" = none) {overriding : Option (List Tree)}
    (absent : overriding = none → merged.field? "overrides" = none)
    (h : ∀ trees, overriding = some trees → AllConsumed trees) :
    Consumed (withOverrides policy merged overriding) := by
  cases overriding with
  | none => exact ⟨rooted, includes, absent rfl⟩
  | some trees =>
    have rootedBelow := Tree.rooted_without rooted "overrides"
    have lacking {name : String}
        (lacks : ∀ tree ∈ trees, tree.field? name = none) :
        ∀ tree ∈ trees.map (allowedPart policy), tree.Rooted ∧ tree.field? name = none := by
      intro tree member
      obtain ⟨one, inside, rfl⟩ := List.mem_map.1 member
      exact ⟨rooted_allowedPart (h _ rfl one inside).rooted,
        field?_allowedPart_eq_none (lacks one inside)⟩
    have noIncludes := lacking fun tree inside => (h _ rfl tree inside).includes
    have noOverrides := lacking fun tree inside => (h _ rfl tree inside).overrides
    rw [withOverrides]
    refine ⟨rooted_layersOver rootedBelow fun tree member => (noIncludes tree member).1, ?_, ?_⟩
    · rw [field?_layersOver rootedBelow (by decide) noIncludes,
        Tree.field?_without_other rooted (by decide), includes]
    · rw [field?_layersOver rootedBelow (by decide) noOverrides,
        Tree.field?_without_self rooted]

end BuildManifest
