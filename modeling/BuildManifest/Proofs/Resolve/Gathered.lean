import BuildManifest.Proofs.Resolve.Watch

/-!
# Manifests before they are merged

Loading merges manifests while it finds them.  Here the same manifests are found by the same
requests and kept apart: each one as it was read, with those that its references led to.  Loading
is this, followed by a merge that asks for nothing.

## What is here

* `Gathered` — a manifest with what its references led to.
* `Gathered.merged`, `Gathered.lookup` — what loading makes of it, and the first value that is
  set when the overrides are asked first, then the manifest itself, then what it includes.
* `gatherTree` — the manifests of a text found at a location.
* `loadTree_eq_gatherTree` — **loading gathers manifests and merges them**.
-/

set_option autoImplicit false

namespace BuildManifest

open Load

/-- A manifest as it was read, with the manifests that its references led to, in order. -/
inductive Gathered where
  | node (read : Tree) (dialect : Dialect) (includes overrides : List Gathered)

namespace Gathered

/-- The dialect of the manifest. -/
def dialect : Gathered → Dialect
  | .node _ dialect _ _ => dialect

mutual

/-- The tree that loading makes of the manifests. -/
def merged : Gathered → Tree
  | .node read _ includes overrides =>
    withOverrides .everything
      (withIncludes read.normalize
        ((read.normalize.field? "includes").map fun _ => mergedAll includes))
      ((read.normalize.field? "overrides").map fun _ => mergedAll overrides)

/-- The trees that loading makes of several manifests. -/
def mergedAll : List Gathered → List Tree
  | [] => []
  | one :: rest => merged one :: mergedAll rest

end

mutual

/-- The first value that is set, where `own` is what a manifest sets itself: the overrides are
asked first, the last one before the others, and the included manifests last, the last one before
the others. -/
def lookup (own : Tree → Dialect → Option String) : Gathered → Option String
  | .node read dialect includes overrides =>
    (lookupLast own overrides).or ((own read dialect).or (lookupLast own includes))

/-- The first value that is set in several manifests, from the last one to the first. -/
def lookupLast (own : Tree → Dialect → Option String) : List Gathered → Option String
  | [] => none
  | one :: rest => (lookupLast own rest).or (lookup own one)

end

/-- Something holds of every manifest. -/
inductive All (holds : Tree → Dialect → Prop) : Gathered → Prop
  | node {read : Tree} {dialect : Dialect} {includes overrides : List Gathered}
      (here : holds read dialect) (below : ∀ one ∈ includes, All holds one)
      (above : ∀ one ∈ overrides, All holds one) : All holds (.node read dialect includes overrides)

section

variable {holds : Tree → Dialect → Prop} [∀ read dialect, Decidable (holds read dialect)]

mutual

/-- Whether something holds of every manifest is decided manifest by manifest. -/
def decidableAll : (gathered : Gathered) → Decidable (All holds gathered)
  | .node read dialect includes overrides =>
    have := decidableAllOf includes
    have := decidableAllOf overrides
    decidable_of_iff
      (holds read dialect ∧ (∀ one ∈ includes, All holds one) ∧ ∀ one ∈ overrides, All holds one)
      ⟨fun h => .node h.1 h.2.1 h.2.2, fun | .node here below above => ⟨here, below, above⟩⟩

/-- Whether something holds of several manifests. -/
def decidableAllOf : (list : List Gathered) → Decidable (∀ one ∈ list, All holds one)
  | [] => .isTrue fun _ member => nomatch member
  | one :: rest =>
    have := decidableAll one
    have := decidableAllOf rest
    decidable_of_iff (All holds one ∧ ∀ other ∈ rest, All holds other) List.forall_mem_cons.symm

end

instance (gathered : Gathered) : Decidable (All holds gathered) := decidableAll gathered

end

variable {holds also : Tree → Dialect → Prop} {own other : Tree → Dialect → Option String}
  {gathered : Gathered} {list : List Gathered}

theorem All.imp (h : All holds gathered) (le : ∀ read dialect, holds read dialect →
    also read dialect) : All also gathered := by
  induction h with
  | node here _ _ below above => exact .node (le _ _ here) below above

theorem All.and (h : All holds gathered) (h' : All also gathered) :
    All (fun read dialect => holds read dialect ∧ also read dialect) gathered := by
  induction h with
  | node here _ _ below above =>
    cases h' with
    | node here' below' above' =>
      exact .node ⟨here, here'⟩ (fun one member => below one member (below' one member))
        fun one member => above one member (above' one member)

theorem lookupLast_congr (h : ∀ one ∈ list, lookup own one = lookup other one) :
    lookupLast own list = lookupLast other list := by
  induction list with
  | nil => rfl
  | cons first rest ih =>
    rw [lookupLast, lookupLast, h first List.mem_cons_self,
      ih fun one member => h one (List.mem_cons_of_mem _ member)]

/-- The first value depends on the values of the manifests only. -/
theorem lookup_congr (h : All (fun read dialect => own read dialect = other read dialect)
    gathered) : lookup own gathered = lookup other gathered := by
  induction h with
  | node here _ _ below above =>
    rw [lookup, lookup, here, lookupLast_congr below, lookupLast_congr above]

theorem lookupLast_eq_none_iff :
    lookupLast own list = none ↔ ∀ one ∈ list, lookup own one = none := by
  induction list with
  | nil => simp [lookupLast]
  | cons first rest ih => simp [lookupLast, ih, and_comm]

/-- **Nothing is found exactly if no manifest sets the value.** -/
theorem lookup_eq_none_iff (h : All holds gathered) :
    lookup own gathered = none ↔ All (fun read dialect => own read dialect = none) gathered := by
  induction h with
  | node here _ _ below above =>
    rw [lookup, Option.or_eq_none_iff, Option.or_eq_none_iff, lookupLast_eq_none_iff,
      lookupLast_eq_none_iff]
    constructor
    · rintro ⟨above', here', below'⟩
      exact .node here' (fun one member => (below one member).1 (below' one member))
        fun one member => (above one member).1 (above' one member)
    · rintro ⟨here', below', above'⟩
      exact ⟨fun one member => (above one member).2 (above' one member), here',
        fun one member => (below one member).2 (below' one member)⟩

theorem mergedAll_eq_map (list : List Gathered) : mergedAll list = list.map merged := by
  induction list with
  | nil => rfl
  | cons one rest ih => rw [mergedAll, ih, List.map_cons]

end Gathered

/-! ## Gathering -/

/-- Gather what a reference leads to. -/
def gatherReference (load : String → Location → Load Gathered) (includer : Location)
    (reference : Reference) : Load Gathered := do
  let (text, location) ← locate includer reference
  load text location

/-- Gather the manifests of a text found at a location, with those it refers to gathered by
`load`. -/
def gatherStep (load : String → Location → Load Gathered) (text : String) (location : Location) :
    Load Gathered := do
  enter location
  let (read, dialect) ← readTree text location
  let includes ← followed (gatherReference load location) location
    (read.normalize.field? "includes")
  let overrides ← followed (gatherReference load location) location
    (read.normalize.field? "overrides")
  leave
  return .node read dialect (includes.getD []) (overrides.getD [])

/-- Gather the manifests of a text found at a location. -/
def gatherTree : Nat → String → Location → Load Gathered
  | 0 => fun _ _ => Load.fail .nestedTooDeeply
  | nesting + 1 => gatherStep (gatherTree nesting)

/-- Gather the manifests of a source. -/
def gatherManifests (nesting : Nat) (source : Source) : Load (Gathered × Location) := do
  let (text, location) ← readSource source
  let gathered ← gatherTree nesting text location
  return (gathered, location)

/-! ## Loading gathers and merges -/

/-- What loading gives for gathered manifests. -/
def Gathered.loaded (gathered : Gathered) : Tree × Dialect := (gathered.merged, gathered.dialect)

theorem loadOverride_everything (load : Reference → Load Child) (reference : Reference) :
    loadOverride load .everything reference = load reference := by
  have silent (child : Child) :
      (liftM (Dialogue.warnings (refusalWarnings .everything child)) : Load Unit) = pure () := rfl
  simp [loadOverride, silent]

variable {load : String → Location → Load (Tree × Dialect)}
  {gather : String → Location → Load Gathered}

theorem loadReference_map (eq : ∀ text location,
      load text location = Gathered.loaded <$> gather text location)
    (location : Location) (reference : Reference) :
    Prod.fst <$> loadReference load location reference =
      Gathered.merged <$> gatherReference gather location reference := by
  simp [loadReference, gatherReference, eq, Gathered.loaded]

theorem followed_loadReference (eq : ∀ text location,
      load text location = Gathered.loaded <$> gather text location)
    (location : Location) (value : Option Tree) :
    treesOf <$> followed (loadReference load location) location value =
      Option.map (List.map Gathered.merged) <$>
        followed (gatherReference gather location) location value := by
  rw [← followed_map, ← funext (loadReference_map eq location), followed_map]
  rfl

/-- What goes on with the trees that references led to may go on with gathered manifests. -/
theorem bind_followed_loadReference {α : Type} (eq : ∀ text location,
      load text location = Gathered.loaded <$> gather text location)
    (location : Location) (value : Option Tree) (f : Option (List Tree) → Load α) :
    (followed (loadReference load location) location value >>= fun all => f (treesOf all)) =
      followed (gatherReference gather location) location value >>= fun all =>
        f (all.map (List.map Gathered.merged)) := by
  rw [← bind_map_left, followed_loadReference eq, bind_map_left]

/-- References are followed exactly if there are some. -/
theorem isSome_of_followed {α : Type} {may : Answering} {before after : Session}
    {load : Reference → Load α} {location : Location} {value : Option Tree}
    {all : Option (List α)}
    (ends : Ends may before (followed load location value) (.ok all) after) :
    value.map (fun _ => all.getD []) = all := by
  cases value with
  | none =>
    obtain ⟨eq, -⟩ := ends_pure_iff.1 ends
    cases eq
    rfl
  | some value =>
    obtain ⟨list, middle, -, ends⟩ := ends_bind_ok_iff.1 ends
    rw [map_eq_pure_bind] at ends
    obtain ⟨one, last, -, ends⟩ := ends_bind_ok_iff.1 ends
    obtain ⟨eq, -⟩ := ends_pure_iff.1 ends
    cases eq
    rfl

theorem steady_gatherReference (honest : Honest .any load) (eq : ∀ text location,
      load text location = Gathered.loaded <$> gather text location)
    (location : Location) (reference : Reference) :
    Steady .any (gatherReference gather location reference) fun one => Consumed one.merged := by
  intro before one after ends
  have merged : Ends .any before (Gathered.merged <$> gatherReference gather location reference)
      (.ok one.merged) after := ends_map_ok_iff.2 ⟨one, ends, rfl⟩
  rw [← loadReference_map eq] at merged
  obtain ⟨child, loaded, same⟩ := ends_map_ok_iff.1 merged
  show after.stack = before.stack ∧ Consumed one.merged
  rw [← same]
  exact honest.steady_loadReference location reference _ _ _ loaded

theorem map_mergedAll {value : Option Tree} {all : Option (List Gathered)}
    (h : value.map (fun _ => all.getD []) = all) :
    (value.map fun _ => Gathered.mergedAll (all.getD [])) =
      all.map (List.map Gathered.merged) := by
  cases value with
  | none =>
    obtain rfl : all = none := h.symm
    rfl
  | some value =>
    rw [Option.map_some] at h ⊢
    rw [Gathered.mergedAll_eq_map, ← h]
    rfl

theorem run_loadStep_eq_gatherStep (honest : Honest .any load) (eq : ∀ text location,
      load text location = Gathered.loaded <$> gather text location)
    (text : String) (location : Location) (session : Session) :
    (loadStep .everything load text location).run session =
      (Gathered.loaded <$> gatherStep gather text location).run session := by
  rw [loadStep_eq, gatherStep, map_bind]
  refine run_bind_eq rfl fun _ inside entered => ?_
  rw [map_bind]
  refine run_bind_eq rfl fun read s₁ parsed => ?_
  have rooted := rooted_of_parseDetected (flat_readTree text location _ _ _ parsed).2
  have plain (reference : Reference) :
      loadOverride (loadReference load location) .everything reference =
        loadReference load location reference := loadOverride_everything _ reference
  dsimp only
  rw [funext plain, map_bind]
  refine (congrArg (fun loading : Load (Tree × Dialect) => loading.run s₁)
    (bind_followed_loadReference eq location _ fun trees => do
      let overriding ← followed (loadReference load location) location
        ((withIncludes read.1.normalize trees).field? "overrides")
      leave
      return (withOverrides .everything (withIncludes read.1.normalize trees)
        (treesOf overriding), read.2))).trans ?_
  refine run_bind_eq rfl fun includes s₂ followed₁ => ?_
  have consumed : ∀ trees, includes.map (List.map Gathered.merged) = some trees →
      AllConsumed trees := by
    intro trees some_
    obtain ⟨all, rfl, rfl⟩ := Option.map_eq_some_iff.1 some_
    intro tree member
    obtain ⟨one, inside, rfl⟩ := List.mem_map.1 member
    exact (steady_followed (fun reference _ => steady_gatherReference honest eq location reference)
      _ _ _ followed₁).2.2 all rfl one inside
  rw [field?_withIncludes_overrides rooted consumed, map_bind]
  refine (congrArg (fun loading : Load (Tree × Dialect) => loading.run s₂)
    (bind_followed_loadReference eq location _ fun trees => do
      leave
      return (withOverrides .everything (withIncludes read.1.normalize
        (includes.map (List.map Gathered.merged))) trees, read.2))).trans ?_
  refine run_bind_eq rfl fun overrides s₃ followed₂ => ?_
  rw [map_bind]
  refine run_bind_eq rfl fun _ s₄ left => ?_
  rw [map_pure, Gathered.loaded, Gathered.merged, Gathered.dialect,
    map_mergedAll (isSome_of_followed followed₁), map_mergedAll (isSome_of_followed followed₂)]

/-- **Loading gathers manifests and merges them.** -/
theorem loadTree_eq_gatherTree (nesting : Nat) (text : String) (location : Location) :
    loadTree .everything nesting text location =
      Gathered.loaded <$> gatherTree nesting text location := by
  induction nesting generalizing text location with
  | zero => rfl
  | succ nesting ih =>
    exact funext fun session =>
      run_loadStep_eq_gatherStep (honest_loadTree .everything nesting) ih text location session

end BuildManifest
