import BuildManifest.Proofs.Manifest.Canonical
import BuildManifest.Proofs.Manifest.CoreFirst
import BuildManifest.Proofs.Resolve.Failures
import BuildManifest.Proofs.Resolve.Merged

/-!
# The core project in front after merging

Every merge settles what comes out of it, so that the manifest of a source that includes anything,
or that anything overrides, was settled last of all.  Its projects are then read with the core
project in front, provided that no manifest that was read has tags inside its projects or lists a
name in digits.

## What is here

* `closed_orderly` — merging keeps projects orderly.
* `SettledUnder`, `settledUnder_withOverrides` — what is merged was settled last.
* `PlainProjects`, `Merges` — what is asked of the manifests, and of the first one.
* `steady_loadStep_plain`, `plainCalls_loadTree` — loading gives orderly projects, settled ones
  if there was anything to merge.
* `coreFirst_of_load` — **the core project is the first one after any merge**.
-/

set_option autoImplicit false

namespace BuildManifest

open Load

/-! ## What one step of merging settles -/

theorem closed_orderly : Closed "projects" Tree.Orderly :=
  .of_section .projects Tree.orderly_null Tree.orderly_merge Tree.orderly_projectsCoreFirst
    Tree.Orderly.normalizeSection

/-- The value of a field has just been settled. -/
def SettledUnder (name : String) (good : Tree → Prop) (tree : Tree) : Prop :=
  ∃ value, good value ∧ tree.fieldOrNull name = Tree.settledUnder (.string name) value

/-- A policy lets a field of an override through, or drops it. -/
theorem Tree.fieldOrNull_allowedPart {tree : Tree} (rooted : tree.Rooted) (policy : OverridePolicy)
    (name : String) : (allowedPart policy tree).fieldOrNull name = tree.fieldOrNull name ∨
      (allowedPart policy tree).fieldOrNull name = .null := by
  obtain ⟨root, rfl, distinct⟩ := rooted
  have textual := Tree.textual_string name
  have kept (keep : Tree × Tree → Bool) :
      (Tree.mapping (root.filter keep)).fieldOrNull name = (Tree.mapping root).fieldOrNull name ∨
        (Tree.mapping (root.filter keep)).fieldOrNull name = .null := by
    rw [Tree.fieldOrNull, Tree.field?, Tree.fieldOrNull, Tree.field?]
    cases found : Mapping.get? (root.filter keep) name with
    | none => exact .inr rfl
    | some value =>
      have member := List.mem_of_mem_filter (Mapping.mem_of_find? textual found)
      rw [Mapping.get?, Mapping.find?_of_mem textual (distinct _ textual) member]
      exact .inl rfl
  cases policy with
  | everything => exact .inl rfl
  | nothing => exact kept _
  | only keys => exact kept _

namespace Closed

variable {name : String} {good : Tree → Prop} {policy : OverridePolicy}
  {base top layer own merged tree : Tree} {trees : List Tree} (closed : Closed name good)
include closed

theorem allowedPart (h : GoodUnder name good tree) :
    GoodUnder name good (allowedPart policy tree) := by
  refine ⟨rooted_allowedPart h.rooted, ?_⟩
  rcases Tree.fieldOrNull_allowedPart h.rooted policy name with same | dropped
  · rw [same]
    exact h.value
  · rw [dropped]
    exact closed.null

theorem allowedParts (above : ∀ tree ∈ trees, GoodUnder name good tree) :
    ∀ tree ∈ trees.map (BuildManifest.allowedPart policy), GoodUnder name good tree := by
  intro tree member
  obtain ⟨one, inside, rfl⟩ := List.mem_map.1 member
  exact closed.allowedPart (above one inside)

theorem goodUnder_withIncludes (h : GoodUnder name good own) {included : Option (List Tree)}
    (below : ∀ trees, included = some trees → ∀ tree ∈ trees, GoodUnder name good tree) :
    GoodUnder name good (BuildManifest.withIncludes own included) := by
  cases included with
  | none => exact h
  | some trees => exact closed.withIncludes h (below trees rfl) (some .null)

theorem goodUnder_withOverrides (h : GoodUnder name good merged)
    {overriding : Option (List Tree)}
    (above : ∀ trees, overriding = some trees → ∀ tree ∈ trees, GoodUnder name good tree) :
    GoodUnder name good (BuildManifest.withOverrides policy merged overriding) := by
  cases overriding with
  | none => exact h
  | some trees =>
    exact closed.layersOver (closed.without h _) (closed.allowedParts (above trees rfl))

theorem settledUnder_settle_merge (below : GoodUnder name good base)
    (above : GoodUnder name good top) : SettledUnder name good (settle (base.merge top)) := by
  refine ⟨_, closed.merge below.value above.value, ?_⟩
  rw [Tree.fieldOrNull_settle, Tree.fieldOrNull_merge below.rooted above.rooted]

theorem settledUnder_layersOver (h : GoodUnder name good layer)
    (above : ∀ tree ∈ trees, GoodUnder name good tree)
    (settled : SettledUnder name good layer ∨ trees ≠ []) :
    SettledUnder name good (BuildManifest.layersOver layer trees) := by
  induction trees generalizing layer with
  | nil => exact settled.resolve_right fun some_ => some_ rfl
  | cons tree rest ih =>
    have next := above tree List.mem_cons_self
    rw [layersOver_cons]
    exact ih (closed.settle_merge h next)
      (fun other member => above other (List.mem_cons_of_mem _ member))
      (.inl (closed.settledUnder_settle_merge h next))

theorem settledUnder_withIncludes (h : GoodUnder name good own)
    (below : ∀ tree ∈ trees, GoodUnder name good tree) :
    SettledUnder name good (BuildManifest.withIncludes own (some trees)) :=
  closed.settledUnder_settle_merge (closed.layersOver closed.empty below) (closed.without h _)

/-- **A manifest is settled last of all**, if it was settled before it was overridden or anything
overrides it. -/
theorem settledUnder_withOverrides (ne : "overrides" ≠ name) (h : GoodUnder name good merged)
    {overriding : Option (List Tree)}
    (above : ∀ trees, overriding = some trees → ∀ tree ∈ trees, GoodUnder name good tree)
    (settled : SettledUnder name good merged ∨ ∃ trees, overriding = some trees ∧ trees ≠ []) :
    SettledUnder name good (BuildManifest.withOverrides policy merged overriding) := by
  cases overriding with
  | none => exact settled.resolve_right fun ⟨_, eq, _⟩ => nomatch eq
  | some trees =>
    refine closed.settledUnder_layersOver (closed.without h _)
      (closed.allowedParts (above trees rfl)) (settled.imp ?_ ?_)
    · rintro ⟨value, goodValue, eq⟩
      exact ⟨value, goodValue, (Tree.fieldOrNull_without_other h.rooted ne).trans eq⟩
    · rintro ⟨_, eq, some_⟩
      cases eq
      exact fun none_ => some_ (List.map_eq_nil_iff.1 none_)

end Closed

/-! ## Manifests with plain projects -/

/-- The projects of a manifest have no tags inside, and no list item among them is a name in
digits. -/
structure Tree.PlainProjects (tree : Tree) : Prop where
  /-- There is no tag. -/
  untagged : (tree.fieldOrNull "projects").hasTag = false
  /-- No item is a name in digits. -/
  named : ∀ name ∈ itemNames (tree.fieldOrNull "projects").indexed.topEntries,
    Text.isDigits name.toList = false

instance (tree : Tree) : Decidable tree.PlainProjects :=
  decidable_of_iff ((tree.fieldOrNull "projects").hasTag = false ∧
    ∀ name ∈ Tree.itemNames (tree.fieldOrNull "projects").indexed.topEntries,
      Text.isDigits name.toList = false) ⟨fun h => ⟨h.1, h.2⟩, fun h => ⟨h.1, h.2⟩⟩

theorem goodUnder_of_plainProjects {text : String} {read : Tree × Dialect}
    (parsed : parseDetected text = .ok read) (plain : read.1.PlainProjects) :
    GoodUnder "projects" Tree.Orderly read.1.normalize := by
  obtain ⟨_, -, keyed⟩ := wellKeyed_of_parseDetected parsed
  refine ⟨rooted_of_parseDetected parsed, ?_⟩
  have settled : read.1.normalize.fieldOrNull "projects" =
      (read.1.fieldOrNull "projects").normalizeSection :=
    Tree.fieldOrNull_normalize_section read.1 .projects
  rw [settled]
  exact Tree.orderly_normalizeSection ⟨Tree.wellKeyed_fieldOrNull keyed _, plain.untagged⟩
    plain.named

/-- The manifest merges something: it includes manifests, or at least one overrides it. -/
def Tree.Merges (tree : Tree) : Prop :=
  tree.field? "includes" ≠ none ∨ referencesIn (tree.field? "overrides") ≠ []

/-- Whatever the text reads as has plain projects. -/
def PlainText (text : String) : Prop :=
  ∀ read, parseDetected text = .ok read → read.1.PlainProjects

instance (text : String) : Decidable (PlainText text) :=
  decidable_of_iff ((parseDetected text).toOption.all fun read => decide read.1.PlainProjects) <| by
    rw [PlainText]
    cases parseDetected text with
    | error error => simp [Except.toOption]
    | ok read => simp [Except.toOption]

/-! ## Loading -/

section

variable {may : Answering} {load : String → Location → Load (Tree × Dialect)}
  {policy : OverridePolicy}

/-- Every text that may be delivered is plain. -/
def AllPlain (may : Answering) : Prop :=
  ∀ call : Exchange, may call.request call.answer → ∀ found, call.found? = some found →
    PlainText found.1

theorem steady_locate_plain (all : AllPlain may) (location : Location) (reference : Reference) :
    Steady may (locate location reference) fun found => PlainText found.1 := by
  intro before found after ends
  obtain ⟨log, goes, given⟩ := Dialogue.Ends.exists_goes ends
  obtain ⟨call, member, delivered⟩ := (candid_locate location reference _ _ _ _ goes).2
  have stack := (flat_locate location reference _ _ _ ends).1
  exact ⟨stack, all call (given call member) found delivered⟩

/-- What is relied on of the calls: plain texts give orderly projects. -/
def PlainCalls (may : Answering) (load : String → Location → Load (Tree × Dialect)) : Prop :=
  ∀ text location, PlainText text →
    Steady may (load text location) fun read => GoodUnder "projects" Tree.Orderly read.1

theorem PlainCalls.steady_loadReference (calls : PlainCalls may load) (all : AllPlain may)
    (location : Location) (reference : Reference) :
    Steady may (loadReference load location reference) fun child =>
      GoodUnder "projects" Tree.Orderly child.1 := by
  refine steady_bind (steady_locate_plain all location reference) fun found plain => ?_
  exact steady_bind (calls found.1 found.2 plain) fun read good => steady_pure good

/-- **A step gives orderly projects**, which were settled last if there was anything to merge. -/
theorem steady_loadStep_plain (honest : Honest may load) (calls : PlainCalls may load)
    (all : AllPlain may) {text : String} {location : Location} {read : Tree × Dialect}
    (parsed : parseDetected text = .ok read) (plain : read.1.PlainProjects) :
    Steady may (loadStep policy load text location) fun result =>
      GoodUnder "projects" Tree.Orderly result.1 ∧
        (read.1.Merges → SettledUnder "projects" Tree.Orderly result.1) := by
  intro before result after ends
  have stack := (honest_loadStep honest _ _ _ _ _ ends).1
  obtain ⟨read', included, overriding, s₁, s₂, s₃, parsed', -, followed₁, followed₂, -, eq⟩ :=
    exists_of_ends_loadStep ends
  cases parsed.symm.trans parsed'
  have own := goodUnder_of_plainProjects parsed plain
  have call := calls.steady_loadReference all location
  obtain ⟨-, absent, below⟩ := steady_treesOf (fun reference _ => call reference) _ _ _ followed₁
  obtain ⟨-, -, above⟩ :=
    steady_treesOf (fun reference _ => steady_loadOverride (call reference)) _ _ _ followed₂
  obtain ⟨-, -, consumed⟩ := honest.steady_included location _ _ _ _ followed₁
  rw [field?_withIncludes_overrides own.rooted consumed] at followed₂
  have merged := closed_orderly.goodUnder_withIncludes own below
  refine ⟨stack, ?_, fun merges => ?_⟩
  · rw [eq]
    exact closed_orderly.goodUnder_withOverrides merged above
  · rw [eq]
    refine closed_orderly.settledUnder_withOverrides (by decide) merged above ?_
    rcases merges with includes | overrides
    · rw [← Tree.field?_normalize_other _ (by decide)] at includes
      obtain ⟨trees, some_⟩ := Option.ne_none_iff_exists'.1 fun none_ => includes (absent none_)
      rw [some_]
      exact .inl (closed_orderly.settledUnder_withIncludes own (below trees some_))
    · rw [← Tree.field?_normalize_other _ (by decide)] at overrides
      exact .inr (ne_nil_of_ends_followed followed₂ overrides)

end

/-- **Loading plain manifests gives orderly projects.** -/
theorem plainCalls_loadTree {may : Answering} (all : AllPlain may) (policy : OverridePolicy)
    (nesting : Nat) : PlainCalls may (loadTree policy nesting) := by
  induction nesting with
  | zero => exact fun _ _ _ before result after ends => nomatch (ends_fail_iff.1 ends).1
  | succ nesting ih =>
    intro text location plain before result after ends
    obtain ⟨read, _, _, _, _, _, parsed, -⟩ := exists_of_ends_loadStep ends
    obtain ⟨stack, good, -⟩ := steady_loadStep_plain (honest_loadTree policy nesting) ih all parsed
      (plain read parsed) _ _ _ ends
    exact ⟨stack, good⟩

/-- **What merges plain manifests was settled last.** -/
theorem settledUnder_of_ends_loadTree {may : Answering} (all : AllPlain may)
    {policy : OverridePolicy} {nesting : Nat} {text : String} {location : Location}
    {read result : Tree × Dialect} {before after : Session}
    (parsed : parseDetected text = .ok read) (plain : read.1.PlainProjects)
    (merges : read.1.Merges)
    (ends : Ends may before (loadTree policy nesting text location) (.ok result) after) :
    SettledUnder "projects" Tree.Orderly result.1 := by
  cases nesting with
  | zero => exact nomatch (ends_fail_iff.1 ends).1
  | succ nesting =>
    exact (steady_loadStep_plain (honest_loadTree policy nesting)
      (plainCalls_loadTree all policy nesting) all parsed plain _ _ _ ends).2.2 merges

/-- Settled projects are read with the core in front. -/
theorem SettledUnder.coreFirst {tree : Tree} {format : Option Dialect} {manifest : Manifest}
    (settled : SettledUnder "projects" Tree.Orderly tree)
    (read : Manifest.ofTree tree format = .ok manifest) : manifest.projects.CoreFirst := by
  obtain ⟨value, orderly, eq⟩ := settled
  have projects := (Manifest.readFrom_of_ofTree read).sections .projects
  exact Section.coreFirst_of_ofTree orderly (eq ▸ projects)

/-- The manifest of the source comes first among those that were read. -/
theorem Source.Reads.head?_manifests {source : Source} {said : List Exchange} {found : Found}
    (h : source.Reads said (.ok found)) (later : List Exchange) :
    (source.manifests (said ++ later)).head? = some found := by
  cases h with
  | given own none_ =>
    rw [manifests, own]
    rfl
  | delivered none_ fine delivered =>
    rw [manifests, none_, List.singleton_append, List.filterMap_cons_some delivered]
    rfl

/-- **The core project is the first one after any merge.**  Where a source that includes manifests,
or that at least one overrides, can be loaded, and none of the manifests that were read has tags
inside its projects or lists a project by a name in digits, the first project of the loaded
manifest is the core one, if there is one. -/
theorem coreFirst_of_load {σ : Type} (fetcher : Fetcher σ) {options : ResolveOptions}
    {source : Source} {world last : σ} {told : Transcript (Except ResolveError Manifest)}
    {manifest : Manifest} {found : Found} {read : Tree × Dialect}
    (ran : (fetcher.transcript (load options source)).run world = (told, last))
    (loaded : told.value = .ok manifest)
    (own : (source.manifests told.exchanges).head? = some found)
    (parsed : parseDetected found.1 = .ok read) (merges : read.1.Merges)
    (plain : ∀ one ∈ source.manifests told.exchanges, PlainText one.1) :
    manifest.projects.CoreFirst := by
  have goes := fetcher.goes_transcript (load options source) world
  rw [ran] at goes
  obtain ⟨after, goes⟩ := exists_goes_of_load goes
  rw [loaded] at goes
  rcases goes_bind_iff.1 goes with ⟨first, middle, said, later, reads, goes, log⟩ | ⟨_, _, ⟨⟩⟩
  have front := (reads_of_readSource reads).head?_manifests later
  rw [← log, own] at front
  obtain rfl := Option.some.inj front
  have here := plain found (List.mem_of_head? own) read parsed
  -- from here on the answers are among those that were written down
  have within : ∀ request answer, (⟨request, answer⟩ : Exchange) ∈ later →
      ⟨request, answer⟩ ∈ told.exchanges :=
    fun _ _ member => log ▸ List.mem_append_right _ member
  have ends := Dialogue.Ends.mono goes.ends within
  have all : AllPlain fun request answer => ⟨request, answer⟩ ∈ told.exchanges :=
    fun call member one delivered =>
      plain one (Source.mem_manifests_iff.2 (.inr ⟨call, member, delivered⟩))
  obtain ⟨result, last, tree, ends⟩ := ends_bind_ok_iff.1 ends
  have settled := settledUnder_of_ends_loadTree all parsed here merges tree
  dsimp only at ends
  split at ends
  · next decoded =>
    cases (ends_pure_iff.1 ends).1
    exact settled.coreFirst decoded
  · cases (ends_fail_iff.1 ends).1

/-- A site over a base that lists the core project late. -/
def lateCoreFiles : List (String × String) :=
  [("/m/site", "core = 7\nincludes[] = base\nprojects[] = views\n"),
    ("/m/base", "projects[] = ctools\nprojects[] = drupal\n")]

/-- What is said when that site is loaded. -/
def lateCore : Transcript (Except ResolveError Manifest) × Unit :=
  ((Fetcher.ofFiles lateCoreFiles).transcript (load {} (.path "/m/site"))).run ()

theorem coreFirst_of_load_late : ∃ manifest, lateCore.1.value = .ok manifest ∧
    manifest.projects.CoreFirst ∧ manifest.projects.names = ["drupal", "ctools", "views"] := by
  have loaded : lateCore.1.value.toOption.map (·.projects.names) =
      some ["drupal", "ctools", "views"] := by decide +kernel
  have plain : ∀ one ∈ (Source.path "/m/site").manifests lateCore.1.exchanges,
      PlainText one.1 := by decide +kernel
  have merging : ((Source.path "/m/site").manifests lateCore.1.exchanges).head?.any (fun found =>
      (parseDetected found.1).toOption.any fun read =>
        (read.1.field? "includes").isSome) = true := by decide +kernel
  obtain ⟨manifest, decoded, names⟩ := Option.map_eq_some_iff.1 loaded
  have decoded := toOption_eq_some_iff.1 decoded
  refine ⟨manifest, decoded, ?_, names⟩
  cases own : ((Source.path "/m/site").manifests lateCore.1.exchanges).head? with
  | none =>
    rw [own] at merging
    cases merging
  | some found =>
    rw [own, Option.any_some] at merging
    cases parsed : parseDetected found.1 with
    | error error =>
      rw [parsed] at merging
      cases merging
    | ok read =>
      rw [parsed] at merging
      have includes : (read.1.field? "includes").isSome = true := merging
      have ran : ((Fetcher.ofFiles lateCoreFiles).transcript (load {} (.path "/m/site"))).run () =
          (lateCore.1, lateCore.2) := rfl
      exact coreFirst_of_load _ ran decoded own parsed
        (.inl (Option.isSome_iff_ne_none.1 includes)) plain

end BuildManifest
