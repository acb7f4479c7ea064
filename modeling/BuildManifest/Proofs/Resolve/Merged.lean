import BuildManifest.Proofs.Resolve.Fetchers
import BuildManifest.Proofs.Resolve.Precedence

/-!
# What merging keeps

Under one key, a merged manifest has what the gathered manifests have under that key, laid one over
the other and settled in between.  What laying over and settling keep is therefore kept by the
whole merge, however deeply manifests are nested.

## What is here

* `Closed`, `Closed.merged` — **something that holds of every manifest, and that one step keeps,
  holds of the merged one**.
* `Kept`, `Kept.merged` — **something that one manifest has, and that no step loses, the merged one
  has**.
* `Gathered.fold`, `Measured.merged` — **what merging adds up step by step, it adds up for the
  merged manifest**.
* `run_loadManifest_ok_iff` — loading succeeds exactly if gathering does and what is merged can be
  read.
-/

set_option autoImplicit false

namespace BuildManifest

open Load

/-- Something about the value of a field that one step of merging keeps. -/
structure Closed (name : String) (good : Tree → Prop) : Prop where
  /-- It holds where the field is missing. -/
  null : good .null
  /-- Laying one value over another keeps it. -/
  merge {base top : Tree} (below : good base) (above : good top) : good (base.merge top)
  /-- Settling keeps it. -/
  settled {value : Tree} (h : good value) : good (Tree.settledUnder (.string name) value)

/-- Something about the value of a field that is not lost in a step of merging, provided that both
values are good. -/
structure Kept (name : String) (good kept : Tree → Prop) : Prop where
  /-- What the lower value has is not lost. -/
  lower {base top : Tree} (below : good base) (above : good top) (has : kept base) :
    kept (base.merge top)
  /-- What the upper value has is not lost. -/
  upper {base top : Tree} (below : good base) (above : good top) (has : kept top) :
    kept (base.merge top)
  /-- Settling loses nothing. -/
  settled {value : Tree} (h : good value) (has : kept value) :
    kept (Tree.settledUnder (.string name) value)

variable {name : String} {good kept : Tree → Prop} {layer base top own : Tree} {trees : List Tree}

/-- A field that is no section is not changed by settling. -/
theorem settledUnder_of_not_section (plain : name ∉ Tree.entrySections) (value : Tree) :
    Tree.settledUnder (.string name) value = value := by
  rw [Tree.settledUnder]
  · rintro ⟨⟩
    exact plain (by decide)
  · rintro ⟨⟩
    exact plain (by decide)

/-- What is kept in a field that is no section. -/
theorem Closed.of_not_section (plain : name ∉ Tree.entrySections) (null : good .null)
    (merge : ∀ {base top : Tree}, good base → good top → good (base.merge top)) :
    Closed name good where
  null := null
  merge := merge
  settled h := by
    rw [settledUnder_of_not_section plain]
    exact h

/-- What is kept in a section. -/
theorem Closed.of_section (kind : SectionKind) (null : good .null)
    (merge : ∀ {base top : Tree}, good base → good top → good (base.merge top))
    (coreFirst : ∀ {value : Tree}, good value → good value.projectsCoreFirst)
    (normalized : ∀ {value : Tree}, good value → good value.normalizeSection) :
    Closed kind.name good where
  null := null
  merge := merge
  settled h := by
    cases kind with
    | projects => exact normalized (coreFirst h)
    | libraries => exact normalized h

/-- What is not lost in a section. -/
theorem Kept.of_section (kind : SectionKind)
    (lower : ∀ {base top : Tree}, good base → good top → kept base → kept (base.merge top))
    (upper : ∀ {base top : Tree}, good base → good top → kept top → kept (base.merge top))
    (coreFirst : ∀ {value : Tree}, kept value → kept value.projectsCoreFirst)
    (normalized : ∀ {value : Tree}, kept value → kept value.normalizeSection) :
    Kept kind.name good kept where
  lower := lower
  upper := upper
  settled _ has := by
    cases kind with
    | projects => exact normalized (coreFirst has)
    | libraries => exact normalized has

/-! ## What holds of every manifest -/

/-- A manifest with a good value of a field. -/
structure GoodUnder (name : String) (good : Tree → Prop) (tree : Tree) : Prop where
  /-- It is a mapping without repeated keys. -/
  rooted : tree.Rooted
  /-- The value of the field is good. -/
  value : good (tree.fieldOrNull name)

theorem allowedPart_everything (trees : List Tree) :
    trees.map (allowedPart .everything) = trees := List.map_id _

theorem mem_mergedAll_iff {tree : Tree} {list : List Gathered} :
    tree ∈ Gathered.mergedAll list ↔ ∃ one ∈ list, one.merged = tree := by
  rw [Gathered.mergedAll_eq_map, List.mem_map]

theorem forall_mem_mergedAll {good : Tree → Prop} {list : List Gathered}
    (h : ∀ one ∈ list, good one.merged) : ∀ tree ∈ Gathered.mergedAll list, good tree := by
  intro tree member
  obtain ⟨one, inside, rfl⟩ := mem_mergedAll_iff.1 member
  exact h one inside

namespace Closed

variable (closed : Closed name good)
include closed

theorem empty : GoodUnder name good (.mapping []) := ⟨Tree.rooted_empty, closed.null⟩

theorem settle_merge (below : GoodUnder name good base) (above : GoodUnder name good top) :
    GoodUnder name good (settle (base.merge top)) := by
  refine ⟨Tree.rooted_settle (Tree.rooted_merge below.rooted above.rooted), ?_⟩
  rw [Tree.fieldOrNull_settle, Tree.fieldOrNull_merge below.rooted above.rooted]
  exact closed.settled (closed.merge below.value above.value)

theorem without (h : GoodUnder name good base) (other : String) :
    GoodUnder name good (base.without other) := by
  refine ⟨Tree.rooted_without h.rooted _, ?_⟩
  by_cases same : other = name
  · rw [same, Tree.fieldOrNull_without_self h.rooted]
    exact closed.null
  · rw [Tree.fieldOrNull_without_other h.rooted same]
    exact h.value

theorem layersOver (h : GoodUnder name good layer)
    (above : ∀ tree ∈ trees, GoodUnder name good tree) :
    GoodUnder name good (layersOver layer trees) := by
  induction trees generalizing layer with
  | nil => exact h
  | cons tree rest ih =>
    rw [layersOver_cons]
    exact ih (closed.settle_merge h (above tree List.mem_cons_self))
      fun other member => above other (List.mem_cons_of_mem _ member)

theorem withIncludes (h : GoodUnder name good own)
    (below : ∀ tree ∈ trees, GoodUnder name good tree) (value : Option Tree) :
    GoodUnder name good (withIncludes own (value.map fun _ => trees)) := by
  cases value with
  | none => exact h
  | some value =>
    exact closed.settle_merge (closed.layersOver closed.empty below) (closed.without h _)

theorem withOverrides (h : GoodUnder name good own)
    (above : ∀ tree ∈ trees, GoodUnder name good tree) (value : Option Tree) :
    GoodUnder name good (withOverrides .everything own (value.map fun _ => trees)) := by
  cases value with
  | none => exact h
  | some value =>
    rw [Option.map_some, BuildManifest.withOverrides, allowedPart_everything]
    exact closed.layersOver (closed.without h _) above

/-- **What holds of every manifest holds of the merged one.** -/
theorem merged {gathered : Gathered} (formed : gathered.WellFormed)
    (all : gathered.All fun read _ => good (read.normalize.fieldOrNull name)) :
    GoodUnder name good gathered.merged := by
  induction formed with
  | node rooted _ _ _ _ below above =>
    cases all with
    | node here lower upper =>
      have own : GoodUnder name good _ := ⟨Tree.rooted_normalize rooted, here⟩
      rw [Gathered.merged]
      refine closed.withOverrides (closed.withIncludes own ?_ _) ?_ _
      · exact forall_mem_mergedAll fun one member => below one member (lower one member)
      · exact forall_mem_mergedAll fun one member => above one member (upper one member)

end Closed

/-! ## What one manifest has -/

namespace Kept

variable (keeps : Kept name good kept) (closed : Closed name good)
include keeps closed

theorem settle_merge (below : GoodUnder name good base) (above : GoodUnder name good top)
    (has : kept (base.fieldOrNull name) ∨ kept (top.fieldOrNull name)) :
    kept ((settle (base.merge top)).fieldOrNull name) := by
  rw [Tree.fieldOrNull_settle, Tree.fieldOrNull_merge below.rooted above.rooted]
  refine keeps.settled (closed.merge below.value above.value) ?_
  rcases has with lower | upper
  · exact keeps.lower below.value above.value lower
  · exact keeps.upper below.value above.value upper

theorem layersOver (h : GoodUnder name good layer)
    (above : ∀ tree ∈ trees, GoodUnder name good tree)
    (has : kept (layer.fieldOrNull name) ∨ ∃ tree ∈ trees, kept (tree.fieldOrNull name)) :
    kept ((layersOver layer trees).fieldOrNull name) := by
  induction trees generalizing layer with
  | nil =>
    rcases has with here | ⟨_, member, _⟩
    · exact here
    · exact nomatch member
  | cons tree rest ih =>
    have next := above tree List.mem_cons_self
    rw [layersOver_cons]
    refine ih (closed.settle_merge h next)
      (fun other member => above other (List.mem_cons_of_mem _ member)) ?_
    rcases has with here | ⟨other, member, later⟩
    · exact .inl (keeps.settle_merge closed h next (.inl here))
    · rcases List.mem_cons.1 member with rfl | member
      · exact .inl (keeps.settle_merge closed h next (.inr later))
      · exact .inr ⟨other, member, later⟩

theorem withIncludes (h : GoodUnder name good own)
    (below : ∀ tree ∈ trees, GoodUnder name good tree) (ne : "includes" ≠ name)
    {value : Option Tree} (none_ : value = none → trees = [])
    (has : kept (own.fieldOrNull name) ∨ ∃ tree ∈ trees, kept (tree.fieldOrNull name)) :
    kept ((withIncludes own (value.map fun _ => trees)).fieldOrNull name) := by
  cases value with
  | none =>
    rcases has with here | ⟨_, member, _⟩
    · exact here
    · rw [none_ rfl] at member
      exact nomatch member
  | some value =>
    have same := Tree.fieldOrNull_without_other h.rooted ne
    refine keeps.settle_merge closed (closed.layersOver closed.empty below) (closed.without h _) ?_
    rcases has with here | there
    · exact .inr (same ▸ here)
    · exact .inl (keeps.layersOver closed closed.empty below (.inr there))

theorem withOverrides (h : GoodUnder name good own)
    (above : ∀ tree ∈ trees, GoodUnder name good tree) (ne : "overrides" ≠ name)
    {value : Option Tree} (none_ : value = none → trees = [])
    (has : kept (own.fieldOrNull name) ∨ ∃ tree ∈ trees, kept (tree.fieldOrNull name)) :
    kept ((withOverrides .everything own (value.map fun _ => trees)).fieldOrNull name) := by
  cases value with
  | none =>
    rcases has with here | ⟨_, member, _⟩
    · exact here
    · rw [none_ rfl] at member
      exact nomatch member
  | some value =>
    have same := Tree.fieldOrNull_without_other h.rooted ne
    rw [Option.map_some, BuildManifest.withOverrides, allowedPart_everything]
    exact keeps.layersOver closed (closed.without h _) above
      (has.imp_left fun here => same ▸ here)

end Kept

/-- **What one manifest has the merged one has.** -/
theorem Kept.merged {ι : Type} {kept : ι → Tree → Prop}
    (keeps : ∀ i, Kept name good (kept i)) (closed : Closed name good)
    (noIncludes : "includes" ≠ name) (noOverrides : "overrides" ≠ name) {gathered : Gathered}
    (formed : gathered.WellFormed)
    (all : gathered.All fun read _ => good (read.normalize.fieldOrNull name)) :
    gathered.All fun read _ => ∀ i, kept i (read.normalize.fieldOrNull name) →
      kept i (gathered.merged.fieldOrNull name) := by
  induction formed with
  | @node read dialect includes overrides rooted absentBelow absentAbove formedBelow formedAbove
      below above =>
    cases all with
    | node here lower upper =>
      have own : GoodUnder name good read.normalize := ⟨Tree.rooted_normalize rooted, here⟩
      have included : ∀ tree ∈ Gathered.mergedAll includes, GoodUnder name good tree :=
        forall_mem_mergedAll fun one member =>
          closed.merged (formedBelow one member) (lower one member)
      have overriding : ∀ tree ∈ Gathered.mergedAll overrides, GoodUnder name good tree :=
        forall_mem_mergedAll fun one member =>
          closed.merged (formedAbove one member) (upper one member)
      have nothing {list : List Gathered} (h : list = []) : Gathered.mergedAll list = [] := by
        rw [h, Gathered.mergedAll]
      -- What is in one of the three layers is not lost in the layers above it.
      have inside (i : ι) (has : kept i (read.normalize.fieldOrNull name) ∨
          ∃ tree ∈ Gathered.mergedAll includes, kept i (tree.fieldOrNull name)) :
          kept i ((Gathered.node read dialect includes overrides).merged.fieldOrNull name) := by
        rw [Gathered.merged]
        exact (keeps i).withOverrides closed (closed.withIncludes own included _) overriding
          noOverrides (fun none_ => nothing (absentAbove none_))
          (.inl ((keeps i).withIncludes closed own included noIncludes
            (fun none_ => nothing (absentBelow none_)) has))
      have atop (i : ι) (has : ∃ tree ∈ Gathered.mergedAll overrides,
          kept i (tree.fieldOrNull name)) :
          kept i ((Gathered.node read dialect includes overrides).merged.fieldOrNull name) := by
        rw [Gathered.merged]
        exact (keeps i).withOverrides closed (closed.withIncludes own included _) overriding
          noOverrides (fun none_ => nothing (absentAbove none_)) (.inr has)
      refine .node (fun i has => inside i (.inl has)) (fun one member => ?_) fun one member => ?_
      · refine (below one member (lower one member)).imp fun _ _ h i has => ?_
        exact inside i (.inr ⟨_, mem_mergedAll_iff.2 ⟨one, member, rfl⟩, h i has⟩)
      · refine (above one member (upper one member)).imp fun _ _ h i has => ?_
        exact atop i ⟨_, mem_mergedAll_iff.2 ⟨one, member, rfl⟩, h i has⟩

/-! ## What is added up -/

namespace Gathered

variable {α : Type} (lay : α → α → α) (nothing : α) (own : Tree → Dialect → α)

mutual

/-- What gathered manifests add up to, where `own` is what a manifest has itself and `lay` lays one
on another: a manifest on what it includes, and what overrides it on both. -/
def fold : Gathered → α
  | .node read dialect includes overrides =>
    foldOver (lay (foldOver nothing includes) (own read dialect)) overrides

/-- What several manifests add up to, one after the other. -/
def foldOver (base : α) : List Gathered → α
  | [] => base
  | one :: rest => foldOver (lay base (fold one)) rest

end

variable {lay : α → α → α} {nothing : α} {own other : Tree → Dialect → α} {gathered : Gathered}

theorem foldOver_congr {list : List Gathered} (base : α)
    (h : ∀ one ∈ list, fold lay nothing own one = fold lay nothing other one) :
    foldOver lay nothing own base list = foldOver lay nothing other base list := by
  induction list generalizing base with
  | nil => rw [foldOver, foldOver]
  | cons first rest ih =>
    rw [foldOver, foldOver, h first List.mem_cons_self]
    exact ih _ fun one member => h one (List.mem_cons_of_mem _ member)

/-- What is added up depends on the manifests only. -/
theorem fold_congr (h : All (fun read dialect => own read dialect = other read dialect) gathered) :
    fold lay nothing own gathered = fold lay nothing other gathered := by
  induction h with
  | node here _ _ below above =>
    rw [fold, fold, here, foldOver_congr _ below, foldOver_congr _ above]

end Gathered

/-- A measure of the value of a field that one step of merging adds up, provided that both values
are good. -/
structure Measured (name : String) (good : Tree → Prop) {α : Type} (lay : α → α → α) (nothing : α)
    (measure : Tree → α) : Prop where
  /-- A missing field has no measure. -/
  null : measure .null = nothing
  /-- Nothing under a measure leaves it as it is. -/
  lay_nothing (value : α) : lay nothing value = value
  /-- Laying one value over another adds up their measures. -/
  merge {base top : Tree} (below : good base) (above : good top) :
    measure (base.merge top) = lay (measure base) (measure top)
  /-- Settling does not change the measure. -/
  settled {value : Tree} (h : good value) :
    measure (Tree.settledUnder (.string name) value) = measure value

namespace Measured

variable {α : Type} {lay : α → α → α} {nothing : α} {measure : Tree → α}
  (measured : Measured name good lay nothing measure) (closed : Closed name good)
include measured closed

theorem settle_merge (below : GoodUnder name good base) (above : GoodUnder name good top) :
    measure ((settle (base.merge top)).fieldOrNull name) =
      lay (measure (base.fieldOrNull name)) (measure (top.fieldOrNull name)) := by
  rw [Tree.fieldOrNull_settle, Tree.fieldOrNull_merge below.rooted above.rooted,
    measured.settled (closed.merge below.value above.value),
    measured.merge below.value above.value]

theorem layersOver {list : List Gathered} (h : GoodUnder name good layer)
    (above : ∀ one ∈ list, GoodUnder name good one.merged) {own : Tree → Dialect → α}
    (adds : ∀ one ∈ list, measure (one.merged.fieldOrNull name) = one.fold lay nothing own) :
    measure ((layersOver layer (Gathered.mergedAll list)).fieldOrNull name) =
      Gathered.foldOver lay nothing own (measure (layer.fieldOrNull name)) list := by
  induction list generalizing layer with
  | nil => rfl
  | cons one rest ih =>
    have next := above one List.mem_cons_self
    have ih := ih (closed.settle_merge h next)
      (fun other member => above other (List.mem_cons_of_mem _ member))
      fun other member => adds other (List.mem_cons_of_mem _ member)
    rw [Gathered.mergedAll, layersOver_cons, ih, measured.settle_merge closed h next,
      adds one List.mem_cons_self, Gathered.foldOver]

theorem withIncludes {list : List Gathered} (h : GoodUnder name good own)
    (below : ∀ one ∈ list, GoodUnder name good one.merged) (ne : "includes" ≠ name)
    {value : Option Tree} (none_ : value = none → list = []) {had : Tree → Dialect → α}
    (adds : ∀ one ∈ list, measure (one.merged.fieldOrNull name) = one.fold lay nothing had) :
    measure ((withIncludes own (value.map fun _ => Gathered.mergedAll list)).fieldOrNull name) =
      lay (Gathered.foldOver lay nothing had nothing list) (measure (own.fieldOrNull name)) := by
  cases value with
  | none =>
    rw [none_ rfl, Gathered.foldOver, measured.lay_nothing]
    rfl
  | some value =>
    have lower := closed.layersOver closed.empty (forall_mem_mergedAll below)
    rw [Option.map_some, BuildManifest.withIncludes,
      measured.settle_merge closed lower (closed.without h _),
      measured.layersOver closed closed.empty below adds, Tree.fieldOrNull_empty, measured.null,
      Tree.fieldOrNull_without_other h.rooted ne]

theorem withOverrides {list : List Gathered} (h : GoodUnder name good own)
    (above : ∀ one ∈ list, GoodUnder name good one.merged) (ne : "overrides" ≠ name)
    {value : Option Tree} (none_ : value = none → list = []) {had : Tree → Dialect → α}
    (adds : ∀ one ∈ list, measure (one.merged.fieldOrNull name) = one.fold lay nothing had) :
    measure ((withOverrides .everything own
        (value.map fun _ => Gathered.mergedAll list)).fieldOrNull name) =
      Gathered.foldOver lay nothing had (measure (own.fieldOrNull name)) list := by
  cases value with
  | none =>
    rw [none_ rfl, Gathered.foldOver]
    rfl
  | some value =>
    rw [Option.map_some, BuildManifest.withOverrides, allowedPart_everything,
      measured.layersOver closed (closed.without h _) above adds,
      Tree.fieldOrNull_without_other h.rooted ne]

/-- **What merging adds up step by step** it adds up for the merged manifest. -/
theorem merged (noIncludes : "includes" ≠ name) (noOverrides : "overrides" ≠ name)
    {gathered : Gathered} (formed : gathered.WellFormed)
    (all : gathered.All fun read _ => good (read.normalize.fieldOrNull name)) :
    measure (gathered.merged.fieldOrNull name) =
      gathered.fold lay nothing fun read _ => measure (read.normalize.fieldOrNull name) := by
  induction formed with
  | @node read dialect includes overrides rooted absentBelow absentAbove formedBelow formedAbove
      below above =>
    cases all with
    | node here lower upper =>
      have goodBelow : ∀ one ∈ includes, GoodUnder name good one.merged := fun one member =>
        closed.merged (formedBelow one member) (lower one member)
      have goodAbove : ∀ one ∈ overrides, GoodUnder name good one.merged := fun one member =>
        closed.merged (formedAbove one member) (upper one member)
      have root : GoodUnder name good read.normalize := ⟨Tree.rooted_normalize rooted, here⟩
      have middle := closed.withIncludes root (forall_mem_mergedAll goodBelow)
        (read.normalize.field? "includes")
      rw [Gathered.merged, Gathered.fold,
        measured.withOverrides closed middle goodAbove noOverrides absentAbove fun one member =>
          above one member (upper one member),
        measured.withIncludes closed root goodBelow noIncludes absentBelow fun one member =>
          below one member (lower one member)]

end Measured

/-! ## Loading from a source -/

/-- What is merged from the manifests of a source has no references left. -/
theorem consumed_of_ends {may : Answering} {nesting : Nat} {source : Source}
    {before after : Session} {found : Gathered × Location}
    (ends : Ends may before (gatherManifests nesting source) (.ok found) after) :
    Consumed found.1.merged := by
  obtain ⟨⟨text, location⟩, middle, -, ends⟩ := ends_bind_ok_iff.1 ends
  dsimp only at ends
  obtain ⟨gathered, last, gathers, rest⟩ := ends_bind_ok_iff.1 ends
  obtain ⟨eq, -⟩ := ends_pure_iff.1 rest
  cases eq
  have loaded : Ends may middle (loadTree .everything nesting text location)
      (.ok gathered.loaded) last := by
    rw [loadTree_eq_gatherTree]
    exact ends_map_ok_iff.2 ⟨gathered, gathers, rfl⟩
  exact (honest_loadTree _ _ _ _ _ _ _ loaded).2

section

variable {σ : Type} (fetcher : Fetcher σ) {nesting : Nat} {source : Source}
  {before after : Session} {world last : σ}

/-- **Loading succeeds exactly if gathering does and what is merged can be read.** -/
theorem run_loadManifest_ok_iff {manifest : Manifest} :
    fetcher.run (loadManifest .everything nesting source) before world =
        ((.ok manifest, after), last) ↔
      ∃ gathered location, fetcher.run (gatherManifests nesting source) before world =
          ((.ok (gathered, location), after), last) ∧
        Manifest.ofTree gathered.merged (some gathered.dialect) = .ok manifest := by
  rw [loadManifest_eq_gatherManifests, Fetcher.run_bind_ok_iff]
  constructor
  · rintro ⟨⟨gathered, location⟩, middle, reached, gathers, decodes⟩
    obtain ⟨read, rfl, rfl⟩ := perform_decoded decodes
    exact ⟨gathered, location, gathers, read⟩
  · rintro ⟨gathered, location, gathers, read⟩
    refine ⟨(gathered, location), after, last, gathers, ?_⟩
    rw [decoded, read]
    rfl

theorem wellFormed_of_run {found : Gathered × Location}
    (gathers : fetcher.run (gatherManifests nesting source) before world =
      ((.ok found, after), last)) : found.1.WellFormed :=
  wellFormed_of_ends (fetcher.ends_run gathers)

end

end BuildManifest
