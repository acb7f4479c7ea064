import BuildManifest.Proofs.Resolve.Root
import BuildManifest.Proofs.Resolve.Run

/-!
# One step of loading

Loading a manifest interleaves two things: it follows references, which asks the outside world,
and it merges what they lead to, which does not.  Here the two are taken apart.  A manifest is
first read, then its references are followed one after the other, and what they led to is merged
by functions on trees.

## What is here

* `loadAll`, `followed` — what references lead to, without merging it.
* `withIncludes`, `withOverrides` — the merging, without following anything.
* `loadStep_eq` — **a step of loading is the two of them**.
-/

set_option autoImplicit false

namespace BuildManifest

open Mapping (layered)

variable {α β : Type}

/-! ## Following references -/

/-- What references lead to, one after the other. -/
def loadAll (load : Reference → Load α) : List Reference → Load (List α)
  | [] => return []
  | reference :: rest => do
    let one ← load reference
    let others ← loadAll load rest
    return one :: others

/-- What the references that a manifest has under some key lead to, if it has that key. -/
def followed (load : Reference → Load α) (location : Location) :
    Option Tree → Load (Option (List α))
  | none => return none
  | some value => do
    let references ← referencesOf location value
    some <$> loadAll load references

theorem loadAll_map (load : Reference → Load α) (f : α → β) (references : List Reference) :
    loadAll (fun reference => f <$> load reference) references =
      List.map f <$> loadAll load references := by
  induction references with
  | nil => simp [loadAll]
  | cons reference rest ih => simp [loadAll, ih]

theorem followed_map (load : Reference → Load α) (f : α → β) (location : Location)
    (value : Option Tree) :
    followed (fun reference => f <$> load reference) location value =
      Option.map (List.map f) <$> followed load location value := by
  cases value with
  | none => simp [followed]
  | some value => simp [followed, loadAll_map]

/-! ## Merging what they lead to -/

/-- Trees one over the other, the later ones over the earlier ones. -/
def layersOver (layer : Tree) (trees : List Tree) : Tree :=
  trees.foldl (fun layer tree => settle (layer.merge tree)) layer

@[simp] theorem layersOver_nil (layer : Tree) : layersOver layer [] = layer := rfl

@[simp] theorem layersOver_cons (layer tree : Tree) (rest : List Tree) :
    layersOver layer (tree :: rest) = layersOver (settle (layer.merge tree)) rest := rfl

/-- A manifest over everything it includes. -/
def withIncludes (tree : Tree) : Option (List Tree) → Tree
  | none => tree
  | some trees => settle ((layersOver (.mapping []) trees).merge (tree.without "includes"))

/-- A manifest under everything that overrides it. -/
def withOverrides (policy : OverridePolicy) (tree : Tree) : Option (List Tree) → Tree
  | none => tree
  | some trees => layersOver (tree.without "overrides") (trees.map (allowedPart policy))

/-- What references led to, without the places. -/
def treesOf : Option (List Child) → Option (List Tree) := Option.map (List.map Prod.fst)

/-- Load an override and warn of what the policy refuses of it. -/
def loadOverride (load : Reference → Load Child) (policy : OverridePolicy)
    (reference : Reference) : Load Child := do
  let child ← load reference
  liftM (Dialogue.warnings (refusalWarnings policy child))
  return child

theorem layerAll_eq (load : Reference → Load Child) (layer : Tree) (references : List Reference) :
    layerAll load layer references =
      (fun children => layersOver layer (children.map Prod.fst)) <$> loadAll load references := by
  induction references generalizing layer with
  | nil => simp [layerAll, loadAll]
  | cons reference rest ih => simp [layerAll, loadAll, ih]

theorem overrideAll_eq (load : Reference → Load Child) (policy : OverridePolicy) (merged : Tree)
    (references : List Reference) :
    overrideAll load policy merged references =
      (fun children => layersOver merged ((children.map Prod.fst).map (allowedPart policy))) <$>
        loadAll (loadOverride load policy) references := by
  induction references generalizing merged with
  | nil => simp [overrideAll, loadAll]
  | cons reference rest ih => simp [overrideAll, loadAll, loadOverride, ih]

theorem mergeIncludes_eq (load : Reference → Load Child) (location : Location) (tree : Tree) :
    mergeIncludes load location tree =
      (fun included => withIncludes tree (treesOf included)) <$>
        followed load location (tree.field? "includes") := by
  cases tree with
  | mapping root =>
    simp only [mergeIncludes, Tree.field?]
    cases Mapping.get? root "includes" with
    | none => simp [followed, withIncludes, treesOf]
    | some value => simp [followed, withIncludes, treesOf, layerAll_eq, Tree.without]
  | _ => simp [mergeIncludes, Tree.field?, followed, withIncludes, treesOf]

theorem mergeOverrides_eq (load : Reference → Load Child) (policy : OverridePolicy)
    (location : Location) (tree : Tree) :
    mergeOverrides load policy location tree =
      (fun overriding => withOverrides policy tree (treesOf overriding)) <$>
        followed (loadOverride load policy) location (tree.field? "overrides") := by
  cases tree with
  | mapping root =>
    simp only [mergeOverrides, Tree.field?]
    cases Mapping.get? root "overrides" with
    | none => simp [followed, withOverrides, treesOf]
    | some value => simp [followed, withOverrides, treesOf, overrideAll_eq, Tree.without]
  | _ => simp [mergeOverrides, Tree.field?, followed, withOverrides, treesOf]

/-- **A step of loading follows the references of a manifest and merges what they lead to.** -/
theorem loadStep_eq (policy : OverridePolicy) (load : String → Location → Load (Tree × Dialect))
    (text : String) (location : Location) :
    loadStep policy load text location = do
      enter location
      let read ← readTree text location
      let own := read.1.normalize
      let included ← followed (loadReference load location) location (own.field? "includes")
      let merged := withIncludes own (treesOf included)
      let overriding ← followed (loadOverride (loadReference load location) policy) location
        (merged.field? "overrides")
      leave
      return (withOverrides policy merged (treesOf overriding), read.2) := by
  simp [loadStep, mergeIncludes_eq, mergeOverrides_eq]

end BuildManifest
