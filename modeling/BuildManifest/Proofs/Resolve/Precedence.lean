import BuildManifest.Proofs.Manifest.Values
import BuildManifest.Proofs.Resolve.Gathered
import BuildManifest.Proofs.Resolve.Sound

/-!
# Which manifest decides

When several manifests set the same attribute of the same entry, one of them decides: the last of
the overrides that sets it, itself or through its own references, failing that the manifest
itself, and failing that the last of the included manifests that sets it.

## What is here

* `PlainManifest`, `ownText` — a manifest that stands on its own, and what it sets itself.
* `Gathered.WellFormed` — what is known of gathered manifests.
* `at?_merged` — what stands in a merged manifest.
* `textIn_merged` — it is the text of the manifest that decides.
* `textOf_loadManifest` — **the loaded manifest has the text of the manifest that decides**.
-/

set_option autoImplicit false

namespace BuildManifest

open Load
open Mapping (layered)

/-- A manifest that can be read on its own and writes its sections plainly. -/
structure PlainManifest (read : Tree) (dialect : Dialect) : Prop where
  /-- It can be read on its own. -/
  readable : ∃ manifest, Manifest.ofTree read.normalize (some dialect) = .ok manifest
  /-- Its sections are lists of names, or mappings from names. -/
  sections : ∀ kind : SectionKind, PlainSection (read.field? kind.name)

instance (read : Tree) (dialect : Dialect) : Decidable (PlainManifest read dialect) :=
  decidable_of_iff
    ((Manifest.ofTree read.normalize (some dialect)).toOption.isSome = true ∧
      PlainSection (read.field? "projects") ∧ PlainSection (read.field? "libraries"))
    ⟨fun h => ⟨isSome_toOption_iff.1 h.1, fun | .projects => h.2.1 | .libraries => h.2.2⟩,
      fun h => ⟨isSome_toOption_iff.2 h.readable, h.sections .projects, h.sections .libraries⟩⟩

/-- The text of an attribute that a manifest sets itself. -/
def ownText (kind : SectionKind) (name : String) (one : Attribute) (read : Tree)
    (dialect : Dialect) : Option String :=
  match Manifest.ofTree read.normalize (some dialect) with
  | .ok manifest => manifest.textOf kind name one
  | .error _ => none

/-! ## Gathered manifests -/

/-- What is known of gathered manifests: each is a mapping without repeated keys, and has only
those below and above it that it refers to. -/
inductive Gathered.WellFormed : Gathered → Prop
  | node {read : Tree} {dialect : Dialect} {includes overrides : List Gathered}
      (rooted : read.Rooted)
      (noIncludes : read.normalize.field? "includes" = none → includes = [])
      (noOverrides : read.normalize.field? "overrides" = none → overrides = [])
      (below : ∀ one ∈ includes, WellFormed one) (above : ∀ one ∈ overrides, WellFormed one) :
      WellFormed (.node read dialect includes overrides)

variable {may : Answering} {before after : Session}

theorem steady_gatherStep {gather : String → Location → Load Gathered}
    (h : ∀ text location, Steady may (gather text location) Gathered.WellFormed) (text : String)
    (location : Location) : Steady may (gatherStep gather text location) Gathered.WellFormed := by
  have call (reference : Reference) :
      Steady may (gatherReference gather location reference) Gathered.WellFormed :=
    steady_bind (flat_locate location reference).steady fun found _ => h found.1 found.2
  intro before gathered after ends
  obtain ⟨_, _, entered, ends⟩ := ends_bind_ok_iff.1 ends
  rcases ends_enter_iff.1 entered with ⟨-, ⟨⟩, -⟩ | ⟨-, -, rfl⟩
  obtain ⟨read, s₁, parsed, ends⟩ := ends_bind_ok_iff.1 ends
  obtain ⟨stack₁, parsed⟩ := flat_readTree text location _ _ _ parsed
  obtain ⟨includes, s₂, followed₁, ends⟩ := ends_bind_ok_iff.1 ends
  obtain ⟨overrides, s₃, followed₂, ends⟩ := ends_bind_ok_iff.1 ends
  obtain ⟨_, s₄, left, ends⟩ := ends_bind_ok_iff.1 ends
  obtain ⟨-, rfl⟩ := ends_leave_iff.1 left
  obtain ⟨eq, rfl⟩ := ends_pure_iff.1 ends
  cases eq
  obtain ⟨stack₂, -, below⟩ := steady_followed (fun one _ => call one) _ _ _ followed₁
  obtain ⟨stack₃, -, above⟩ := steady_followed (fun one _ => call one) _ _ _ followed₂
  have of_none {value : Option Tree} {all : Option (List Gathered)}
      (h : value.map (fun _ => all.getD []) = all) (none_ : value = none) : all.getD [] = [] := by
    rw [none_, Option.map_none] at h
    rw [← h]
    rfl
  have of_mem {all : Option (List Gathered)}
      (h : ∀ list, all = some list → ∀ one ∈ list, one.WellFormed) :
      ∀ one ∈ all.getD [], one.WellFormed := by
    cases all with
    | none => exact fun _ member => nomatch member
    | some list => exact h list rfl
  constructor
  · have stack : s₃.stack = before.stack ++ [location] := stack₃.trans (stack₂.trans stack₁)
    rw [Session.outside, stack, List.dropLast_concat]
  · obtain ⟨entries, eq, distinct⟩ := distinct_of_parseDetected parsed
    exact .node ⟨entries, eq, distinct⟩ (of_none (isSome_of_followed followed₁))
      (of_none (isSome_of_followed followed₂)) (of_mem below) (of_mem above)

theorem steady_gatherTree (nesting : Nat) (text : String) (location : Location) :
    Steady may (gatherTree nesting text location) Gathered.WellFormed := by
  induction nesting generalizing text location with
  | zero => exact fun before gathered after ends => nomatch (ends_fail_iff.1 ends).1
  | succ nesting ih => exact steady_gatherStep ih text location

theorem Gathered.WellFormed.rooted {gathered : Gathered} (formed : gathered.WellFormed) :
    gathered.All fun read _ => read.Rooted := by
  induction formed with
  | node rooted _ _ _ _ below above => exact .node rooted below above

/-! ## Layers -/

variable {kind : SectionKind} {name : String} {one : Attribute} {key : Tree}

theorem shaped_layersOver {layer : Tree} (shaped : Shaped kind layer) {trees : List Tree}
    (h : ∀ tree ∈ trees, Shaped kind tree) : Shaped kind (layersOver layer trees) := by
  induction trees generalizing layer with
  | nil => exact shaped
  | cons tree rest ih =>
    rw [layersOver_cons]
    exact ih (shaped_settle (shaped_merge shaped (h tree List.mem_cons_self)))
      fun other member => h other (List.mem_cons_of_mem _ member)

theorem at?_layersOver {layer : Tree} (shaped : Shaped kind layer) {trees : List Tree}
    (h : ∀ tree ∈ trees, Shaped kind tree) (text : one ∈ Attribute.texts)
    (names : key.Names one) (name : String) :
    (layersOver layer trees).at? kind name key =
      (trees.map (·.at? kind name key)).foldl layered (layer.at? kind name key) := by
  induction trees generalizing layer with
  | nil => rfl
  | cons tree rest ih =>
    have merged := shaped_merge shaped (h tree List.mem_cons_self)
    rw [layersOver_cons, ih (shaped_settle merged) fun other member =>
        h other (List.mem_cons_of_mem _ member),
      at?_settle merged text names, at?_merge shaped (h tree List.mem_cons_self) text names]
    rfl

/-! ## The merged manifest -/

section

variable {read : Tree} {dialect : Dialect} {includes overrides : List Gathered}

theorem shaped_normalize (plain : PlainManifest read dialect) (rooted : read.Rooted)
    (kind : SectionKind) : Shaped kind read.normalize := by
  obtain ⟨manifest, readable⟩ := plain.readable
  have section_ := (Manifest.readFrom_of_ofTree readable).sections kind
  have field : read.normalize.field? kind.name =
      (read.field? kind.name).map Tree.normalizeSection :=
    Tree.field?_normalize_section _ (by cases kind <;> decide)
  rw [Tree.fieldOrNull, field] at section_
  refine ⟨Tree.rooted_normalize rooted, ?_⟩
  rw [field]
  exact settled_of_plain (plain.sections kind) section_

/-- What several manifests have under a key, one over the other. -/
def stacked (kind : SectionKind) (name : String) (key : Tree) (base : Option Tree)
    (list : List Gathered) : Option Tree :=
  (list.map fun one => one.merged.at? kind name key).foldl layered base

theorem shaped_mergedAll (h : ∀ one ∈ includes, Shaped kind one.merged) :
    ∀ tree ∈ Gathered.mergedAll includes, Shaped kind tree := by
  intro tree member
  rw [Gathered.mergedAll_eq_map] at member
  obtain ⟨one, inside, rfl⟩ := List.mem_map.1 member
  exact h one inside

theorem at?_layersOver_mergedAll {layer : Tree} (shaped : Shaped kind layer)
    (h : ∀ one ∈ includes, Shaped kind one.merged) (text : one ∈ Attribute.texts)
    (names : key.Names one) (name : String) :
    (layersOver layer (Gathered.mergedAll includes)).at? kind name key =
      stacked kind name key (layer.at? kind name key) includes := by
  rw [at?_layersOver shaped (shaped_mergedAll h) text names, Gathered.mergedAll_eq_map,
    List.map_map]
  rfl

theorem shaped_withIncludes {own : Tree} (shaped : Shaped kind own)
    (h : ∀ one ∈ includes, Shaped kind one.merged) (value : Option Tree) :
    Shaped kind (withIncludes own (value.map fun _ => Gathered.mergedAll includes)) := by
  cases value with
  | none => exact shaped
  | some value =>
    exact shaped_settle (shaped_merge
      (shaped_layersOver (shaped_empty kind) (shaped_mergedAll h))
      (shaped_without shaped (by decide)))

/-- What stands under a key of a manifest over everything it includes. -/
theorem at?_withIncludes {own : Tree} (shaped : Shaped kind own)
    (h : ∀ one ∈ includes, Shaped kind one.merged) {value : Option Tree}
    (noIncludes : value = none → includes = []) (text : one ∈ Attribute.texts)
    (names : key.Names one) (name : String) :
    (withIncludes own (value.map fun _ => Gathered.mergedAll includes)).at? kind name key =
      layered (stacked kind name key none includes) (own.at? kind name key) := by
  cases value with
  | none =>
    rw [noIncludes rfl]
    exact (Mapping.layered_none_left _).symm
  | some value =>
    have below := shaped_layersOver (shaped_empty kind) (shaped_mergedAll h)
    have above : Shaped kind (own.without "includes") := shaped_without shaped (by decide)
    rw [Option.map_some, withIncludes, at?_settle (shaped_merge below above) text names,
      at?_merge below above text names, at?_without shaped (by decide),
      at?_layersOver_mergedAll (shaped_empty kind) h text names]
    rfl

theorem shaped_withOverrides {tree : Tree} (shaped : Shaped kind tree)
    (h : ∀ one ∈ overrides, Shaped kind one.merged) (value : Option Tree) :
    Shaped kind (withOverrides .everything tree
      (value.map fun _ => Gathered.mergedAll overrides)) := by
  cases value with
  | none => exact shaped
  | some value =>
    have all : (Gathered.mergedAll overrides).map (allowedPart .everything) =
        Gathered.mergedAll overrides := List.map_id _
    rw [Option.map_some, withOverrides, all]
    exact shaped_layersOver (shaped_without shaped (by decide)) (shaped_mergedAll h)

/-- What stands under a key of a manifest under everything that overrides it. -/
theorem at?_withOverrides {tree : Tree} (shaped : Shaped kind tree)
    (h : ∀ one ∈ overrides, Shaped kind one.merged) {value : Option Tree}
    (noOverrides : value = none → overrides = []) (text : one ∈ Attribute.texts)
    (names : key.Names one) (name : String) :
    (withOverrides .everything tree (value.map fun _ => Gathered.mergedAll overrides)).at?
        kind name key = stacked kind name key (tree.at? kind name key) overrides := by
  cases value with
  | none =>
    rw [noOverrides rfl]
    rfl
  | some value =>
    have all : (Gathered.mergedAll overrides).map (allowedPart .everything) =
        Gathered.mergedAll overrides := List.map_id _
    have own : Shaped kind (tree.without "overrides") := shaped_without shaped (by decide)
    rw [Option.map_some, withOverrides, all, at?_layersOver_mergedAll own h text names,
      at?_without shaped (by decide)]

theorem shaped_merged {gathered : Gathered} (formed : gathered.WellFormed)
    (plain : gathered.All PlainManifest) (kind : SectionKind) : Shaped kind gathered.merged := by
  induction formed with
  | node rooted noIncludes noOverrides _ _ below above =>
    cases plain with
    | node here inside atop =>
      rw [Gathered.merged]
      have own := shaped_normalize here rooted kind
      exact shaped_withOverrides
        (shaped_withIncludes own (fun one member => below one member (inside one member)) _)
        (fun one member => above one member (atop one member)) _

/-- **What stands in a merged manifest**: what it includes, itself and what overrides it, one over
the other. -/
theorem at?_merged (formed : (Gathered.node read dialect includes overrides).WellFormed)
    (plain : (Gathered.node read dialect includes overrides).All PlainManifest)
    (text : one ∈ Attribute.texts) (names : key.Names one) (name : String) :
    (Gathered.node read dialect includes overrides).merged.at? kind name key =
      stacked kind name key (layered (stacked kind name key none includes)
        (read.normalize.at? kind name key)) overrides := by
  cases formed with
  | node rooted noIncludes noOverrides below above =>
    cases plain with
    | node here inside atop =>
      have own := shaped_normalize here rooted kind
      have lower : ∀ one ∈ includes, Shaped kind one.merged := fun one member =>
        shaped_merged (below one member) (inside one member) kind
      have upper : ∀ one ∈ overrides, Shaped kind one.merged := fun one member =>
        shaped_merged (above one member) (atop one member) kind
      rw [Gathered.merged, at?_withOverrides (shaped_withIncludes own lower _) upper noOverrides
        text names, at?_withIncludes own lower noIncludes text names]

end

/-! ## The manifest that decides -/

variable {gathered : Gathered} {list : List Gathered} {base : Option Tree}

theorem stacked_cons (first : Gathered) (rest : List Gathered) :
    stacked kind name key base (first :: rest) =
      stacked kind name key (layered base (first.merged.at? kind name key)) rest := rfl

theorem stacked_eq_none_iff : stacked kind name key base list = none ↔
    base = none ∧ ∀ one ∈ list, one.merged.at? kind name key = none := by
  induction list generalizing base with
  | nil => simp [stacked]
  | cons first rest ih => simp [stacked_cons, ih, layered_eq_none_iff, and_assoc]

/-- A key that is the only one in the merged manifest is the only one in each manifest. -/
theorem onlyKey_of_merged (formed : gathered.WellFormed) (plain : gathered.All PlainManifest)
    (text : one ∈ Attribute.texts) (h : OnlyKey kind name one key gathered.merged) :
    gathered.All fun read _ => OnlyKey kind name one key read.normalize := by
  induction formed with
  | @node read dialect includes overrides rooted noIncludes noOverrides formedBelow formedAbove
      below above =>
    have parts (other : Tree) (names : other.Names one) (ne : other ≠ key) :
        ((∀ child ∈ includes, child.merged.at? kind name other = none) ∧
          read.normalize.at? kind name other = none) ∧
        ∀ child ∈ overrides, child.merged.at? kind name other = none := by
      have nothing := h other names ne
      rw [at?_merged (.node rooted noIncludes noOverrides formedBelow formedAbove) plain text
        names, stacked_eq_none_iff, layered_eq_none_iff, stacked_eq_none_iff] at nothing
      obtain ⟨⟨⟨-, lower⟩, own⟩, upper⟩ := nothing
      exact ⟨⟨lower, own⟩, upper⟩
    cases plain with
    | node here inside atop =>
      refine .node (fun other names ne => (parts other names ne).1.2)
        (fun child member => below child member (inside child member) fun other names ne => ?_)
        fun child member => above child member (atop child member) fun other names ne => ?_
      · exact (parts other names ne).1.1 child member
      · exact (parts other names ne).2 child member

/-- **The last write wins**: the text of values one over the other is that of the last one that
has one. -/
theorem textIn_stacked {own : Tree → Dialect → Option String}
    (h : ∀ one ∈ list, Texted (one.merged.at? kind name key) ∧
      textIn (one.merged.at? kind name key) = one.lookup own) (texted : Texted base) :
    Texted (stacked kind name key base list) ∧
      textIn (stacked kind name key base list) =
        (Gathered.lookupLast own list).or (textIn base) := by
  induction list generalizing base with
  | nil => exact ⟨texted, Option.none_or.symm⟩
  | cons first rest ih =>
    obtain ⟨here, found⟩ := h first List.mem_cons_self
    obtain ⟨scalar, eq⟩ := ih (fun one member => h one (List.mem_cons_of_mem _ member))
      (texted_layered texted here)
    refine ⟨scalar, ?_⟩
    rw [stacked_cons, eq, textIn_layered base here, found, Gathered.lookupLast, Option.or_assoc]

/-- **The text in a merged manifest is that of the manifest that decides.** -/
theorem textIn_merged (formed : gathered.WellFormed) (plain : gathered.All PlainManifest)
    (text : one ∈ Attribute.texts) (names : key.Names one) (name : String) :
    Texted (gathered.merged.at? kind name key) ∧
      textIn (gathered.merged.at? kind name key) =
        gathered.lookup fun read _ => textIn (read.normalize.at? kind name key) := by
  induction formed with
  | node rooted noIncludes noOverrides formedBelow formedAbove below above =>
    rw [at?_merged (.node rooted noIncludes noOverrides formedBelow formedAbove) plain text names]
    cases plain with
    | node here inside atop =>
      obtain ⟨manifest, readable⟩ := here.readable
      have own := texted_at? (shaped_normalize here rooted kind) readable text names name
      have nothing : Texted none := fun _ found => nomatch found
      obtain ⟨lower, eq⟩ := textIn_stacked
        (fun one member => below one member (inside one member)) nothing
      obtain ⟨upper, eq'⟩ := textIn_stacked
        (fun one member => above one member (atop one member)) (texted_layered lower own)
      refine ⟨upper, ?_⟩
      rw [eq', textIn_layered _ own, eq, Gathered.lookup]
      exact congrArg _ (congrArg _ Option.or_none)

/-- **A manifest that is read from gathered manifests** has the text of the one that decides. -/
theorem textOf_merged (formed : gathered.WellFormed) (plain : gathered.All PlainManifest)
    {format : Option Dialect} {manifest : Manifest}
    (h : Manifest.ofTree gathered.merged format = .ok manifest) (text : one ∈ Attribute.texts)
    (kind : SectionKind) (name : String) :
    manifest.textOf kind name one = gathered.lookup (ownText kind name one) := by
  have shaped := shaped_merged formed plain kind
  obtain ⟨key, names, only⟩ := exists_only_key shaped h text name
  rw [textOf_eq_textIn shaped h text names only, (textIn_merged formed plain text names name).2]
  refine Gathered.lookup_congr ?_
  have here := formed.rooted.and (plain.and (onlyKey_of_merged formed plain text only))
  refine here.imp fun read dialect known => ?_
  obtain ⟨rooted, own, alone⟩ := known
  obtain ⟨manifest, readable⟩ := own.readable
  rw [ownText, readable, ← textOf_eq_textIn (shaped_normalize own rooted kind) readable text names
    alone]

/-! ## Loading from a source -/

/-- The manifest that gathered manifests make. -/
def decoded (found : Gathered × Location) : Load Manifest :=
  match Manifest.ofTree found.1.merged (some found.1.dialect) with
  | .ok manifest => return manifest
  | .error error => Load.fail (.manifest found.2.text error)

theorem loadManifest_eq_gatherManifests (nesting : Nat) (source : Source) :
    loadManifest .everything nesting source = gatherManifests nesting source >>= decoded := by
  simp only [loadManifest, gatherManifests, loadTree_eq_gatherTree, bind_map_left, bind_assoc,
    pure_bind]
  rfl

theorem wellFormed_of_ends {nesting : Nat} {source : Source} {found : Gathered × Location}
    (ends : Ends may before (gatherManifests nesting source) (.ok found) after) :
    found.1.WellFormed := by
  obtain ⟨⟨text, location⟩, middle, -, ends⟩ := ends_bind_ok_iff.1 ends
  dsimp only at ends
  obtain ⟨gathered, last, gathers, rest⟩ := ends_bind_ok_iff.1 ends
  obtain ⟨eq, -⟩ := ends_pure_iff.1 rest
  cases eq
  exact (steady_gatherTree nesting text location _ _ _ gathers).2

/-- Decoding asks for nothing. -/
theorem perform_decoded {σ : Type} {answer : (request : Request) → StateM σ request.Answer}
    {hear : Warning → StateM σ Unit} {found : Gathered × Location} {manifest : Manifest}
    {world last : σ}
    (loaded : (((decoded found).run before).perform answer hear).run world =
      ((.ok manifest, after), last)) :
    Manifest.ofTree found.1.merged (some found.1.dialect) = .ok manifest ∧ before = after ∧
      world = last := by
  rw [decoded] at loaded
  cases read : Manifest.ofTree found.1.merged (some found.1.dialect) with
  | error error =>
    rw [read] at loaded
    cases loaded
  | ok one =>
    rw [read] at loaded
    cases loaded
    exact ⟨rfl, rfl, rfl⟩

/-- **The manifest that decides.**  Whoever answers the requests, and however the answers change:
where a source can be loaded, the same requests gather its manifests, and if each of them can be
read on its own and writes its sections plainly, then the loaded manifest has the text of the
first one that sets it, the overrides being asked from last to first before a manifest and its
includes from last to first after it; and it has none exactly if no manifest sets one. -/
theorem textOf_loadManifest {σ : Type} {answer : (request : Request) → StateM σ request.Answer}
    {hear : Warning → StateM σ Unit} {nesting : Nat} {source : Source} {world last : σ}
    {manifest : Manifest}
    (loaded : (((loadManifest .everything nesting source).run before).perform answer hear).run
      world = ((.ok manifest, after), last)) :
    ∃ gathered location,
      (((gatherManifests nesting source).run before).perform answer hear).run world =
        ((.ok (gathered, location), after), last) ∧
      (gathered.All PlainManifest → ∀ kind name, ∀ one ∈ Attribute.texts,
        manifest.textOf kind name one = gathered.lookup (ownText kind name one) ∧
        (manifest.textOf kind name one = none ↔
          gathered.All fun read dialect => ownText kind name one read dialect = none)) := by
  rw [loadManifest_eq_gatherManifests, run_bind, Dialogue.perform_bind, StateT.run_bind] at loaded
  have ends := Dialogue.ends_perform answer hear ((gatherManifests nesting source).run before) world
  revert loaded ends
  generalize (((gatherManifests nesting source).run before).perform answer hear).run world = reached
  intro loaded ends
  obtain ⟨⟨result, middle⟩, later⟩ := reached
  cases result with
  | error error => cases loaded
  | ok found =>
    obtain ⟨gathered, location⟩ := found
    have formed := wellFormed_of_ends ends
    obtain ⟨read, rfl, rfl⟩ := perform_decoded loaded
    refine ⟨gathered, location, rfl, fun plain kind name one text => ?_⟩
    have eq := textOf_merged formed plain read text kind name
    refine ⟨eq, ?_⟩
    rw [eq]
    exact Gathered.lookup_eq_none_iff plain

/-- What comes of a loading of some files, where each request is counted. -/
def counted {α : Type} (files : List (String × String)) (loading : Load α) :
    (Except ResolveError α × Session) × Nat :=
  let answer (request : Request) : StateM Nat request.Answer := do
    modify (· + 1)
    return World.ofFiles files request
  ((loading.run {}).perform answer fun _ => pure ()).run 0

theorem textOf_loadManifest_site : ∃ gathered location manifest after last,
    counted siteFiles (gatherManifests 9 (.path "/m/site")) =
      ((.ok (gathered, location), after), last) ∧
    counted siteFiles (loadManifest .everything 9 (.path "/m/site")) =
      ((.ok manifest, after), last) ∧
    gathered.All PlainManifest ∧
    manifest.textOf .projects "ctools" .version = some "1.2" := by
  have ok : (counted siteFiles (loadManifest .everything 9 (.path "/m/site"))).1.1.toOption.isSome =
      true := by decide +kernel
  have found : ((counted siteFiles (gatherManifests 9 (.path "/m/site"))).1.1.toOption.all
      fun found => found.1.All PlainManifest ∧
        found.1.lookup (ownText .projects "ctools" .version) = some "1.2") = true := by
    decide +kernel
  obtain ⟨⟨⟨result, after⟩, last⟩, loaded⟩ : ∃ outcome,
      counted siteFiles (loadManifest .everything 9 (.path "/m/site")) = outcome := ⟨_, rfl⟩
  rw [loaded] at ok
  obtain ⟨manifest, rfl⟩ := isSome_toOption_iff.1 ok
  obtain ⟨gathered, location, gathers, texts⟩ := textOf_loadManifest loaded
  have gathers : counted siteFiles (gatherManifests 9 (.path "/m/site")) =
      ((.ok (gathered, location), _), _) := gathers
  rw [gathers] at found
  obtain ⟨plain, text⟩ := of_decide_eq_true found
  refine ⟨gathered, location, manifest, _, _, gathers, loaded, plain, ?_⟩
  exact (texts plain .projects "ctools" .version (by decide)).1.trans text

end BuildManifest
