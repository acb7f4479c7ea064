import BuildManifest.Proofs.Check.Valid
import BuildManifest.Proofs.Manifest.Fields
import BuildManifest.Proofs.Resolve.Calls
import BuildManifest.Resolve.Basic

/-!
# What a resolved manifest is like

Resolving loads a manifest, restricts it and validates it.  Loading leaves no references however
manifests are nested, and nothing that comes later adds any; validation sees to the rest.

## What is here

* `ends_loadManifest_ok` — what a loaded manifest was read from.
* `Buildable` — what is promised of a resolved manifest.
* `buildable_of_resolve` — **the promise is kept**, whatever is answered to what is asked.
-/

set_option autoImplicit false

namespace BuildManifest

open Load

variable {may : Answering} {before after : Session}

/-- A loaded manifest is read from a tree without references. -/
theorem ends_loadManifest_ok {policy : OverridePolicy} {nesting : Nat} {source : Source}
    {manifest : Manifest}
    (ends : Ends may before (loadManifest policy nesting source) (.ok manifest) after) :
    ∃ found read reached, Ends may before (readSource source) (.ok found) reached ∧
      Ends may reached (loadTree policy nesting found.1 found.2) (.ok read) after ∧
      Manifest.ofTree read.1 (some read.2) = .ok manifest := by
  obtain ⟨found, reached, located, ends⟩ := ends_bind_ok_iff.1 ends
  obtain ⟨read, last, loaded, ends⟩ := ends_bind_ok_iff.1 ends
  dsimp only at ends
  split at ends
  · next one decoded =>
    obtain ⟨eq, rfl⟩ := ends_pure_iff.1 ends
    cases eq
    exact ⟨found, read, reached, located, loaded, decoded⟩
  · exact nomatch (ends_fail_iff.1 ends).1

/-- Nothing is left of the references of a manifest. -/
def Manifest.NoReferences (manifest : Manifest) : Prop :=
  manifest.includes = [] ∧ manifest.overrides = []

theorem noReferences_of_consumed {tree : Tree} (consumed : Consumed tree)
    {format : Option Dialect} {manifest : Manifest}
    (h : Manifest.ofTree tree format = .ok manifest) : manifest.NoReferences := by
  have from_ := Manifest.readFrom_of_ofTree h
  have includes := from_.includes
  have overrides := from_.overrides
  rw [Tree.fieldOrNull, consumed.includes] at includes
  rw [Tree.fieldOrNull, consumed.overrides] at overrides
  exact ⟨(Except.ok.inj includes).symm, (Except.ok.inj overrides).symm⟩

theorem noReferences_of_select {manifest pruned : Manifest} {force : Bool} {context : String}
    {selection : Option Selection} (h : manifest.NoReferences)
    (ends : Ends may before (select manifest force context selection) (.ok pruned) after) :
    pruned.NoReferences := by
  cases selection with
  | none =>
    obtain ⟨eq, -⟩ := ends_pure_iff.1 ends
    cases eq
    exact h
  | some selection =>
    obtain ⟨_, _, -, ends⟩ := ends_bind_ok_iff.1 ends
    split at ends
    · next kept prune =>
      obtain ⟨eq, -⟩ := ends_pure_iff.1 ends
      cases eq
      rw [Manifest.prune] at prune
      split at prune
      · cases prune
      · cases prune
        exact h
    · exact nomatch (ends_fail_iff.1 ends).1

theorem validate_of_checked {manifest valid : Manifest} {options : CheckOptions}
    {hooks : List Hook} {context : String}
    (ends : Ends may before (checked manifest options hooks context) (.ok valid) after) :
    manifest.validate options hooks = .ok valid := by
  obtain ⟨_, _, -, ends⟩ := ends_bind_ok_iff.1 ends
  split at ends
  · next one validated =>
    obtain ⟨eq, -⟩ := ends_pure_iff.1 ends
    cases eq
    exact validated
  · exact nomatch (ends_fail_iff.1 ends).1

/-- What a resolved manifest comes from. -/
theorem ends_resolve_ok {options : ResolveOptions} {hooks : List Hook} {source : Source}
    {selection : Option Selection} {resolution : Resolution}
    (ends : Dialogue.Ends may (resolve options hooks source selection) (.ok resolution)) :
    ∃ last, Ends may {} (resolveManifest options hooks source selection)
      (.ok resolution.manifest) last := by
  obtain ⟨⟨result, kept⟩, staged, ends⟩ := Dialogue.ends_bind_iff.1 ends
  obtain ⟨⟨reached, last⟩, loaded, staged⟩ := Dialogue.ends_bind_iff.1 staged
  obtain ⟨_, -, staged⟩ := Dialogue.ends_bind_iff.1 staged
  obtain ⟨rfl, -⟩ := Prod.mk.inj (Dialogue.ends_done_iff.1 staged)
  cases result with
  | error error => exact nomatch Dialogue.ends_done_iff.1 ends
  | ok manifest =>
    have eq := Except.ok.inj (Dialogue.ends_done_iff.1 ends)
    subst eq
    exact ⟨last, loaded⟩

/-- What is promised of a resolved manifest. -/
structure Buildable (options : CheckOptions) (manifest : Manifest) : Prop where
  /-- It includes nothing. -/
  includes : manifest.includes = []
  /-- Nothing overrides it. -/
  overrides : manifest.overrides = []
  /-- It has passed validation. -/
  valid : manifest.Valid options

/-- **A resolved manifest can be built**, whatever its source refers to and however deeply. -/
theorem buildable_of_resolve {options : ResolveOptions} {source : Source}
    {selection : Option Selection} {resolution : Resolution}
    (ends : Dialogue.Ends may (resolve options [] source selection) (.ok resolution)) :
    Buildable options.check resolution.manifest := by
  obtain ⟨last, ends⟩ := ends_resolve_ok ends
  obtain ⟨manifest, _, loaded, ends⟩ := ends_bind_ok_iff.1 ends
  obtain ⟨pruned, _, selected, ends⟩ := ends_bind_ok_iff.1 ends
  obtain ⟨found, read, _, -, tree, decoded⟩ := ends_loadManifest_ok loaded
  obtain ⟨-, consumed⟩ := honest_loadTree _ _ _ _ _ _ _ tree
  have pruned_ := noReferences_of_select (noReferences_of_consumed consumed decoded) selected
  have validated := validate_of_checked ends
  obtain ⟨eq, -⟩ := Manifest.validate_nil validated
  obtain ⟨-, -, includes, overrides⟩ := Manifest.completed_frame pruned options.check
  refine ⟨?_, ?_, Manifest.valid_of_validate validated⟩
  · rw [eq, includes]
    exact pruned_.1
  · rw [eq, overrides]
    exact pruned_.2

/-- A site over a base over another one, with an override that names a third. -/
def siteFiles : List (String × String) :=
  [("/m/site", "core = 7\nincludes[] = base\noverrides[] = local\nprojects[] = views\n"),
    ("/m/base", "includes = deep\nlibraries[jq][contrib_destination] = lib\n"),
    ("/m/deep", "api = 2\ndefaults[projects][subdir] = contrib\nprojects[ctools] = 1.2\n"),
    ("/m/local", "includes[] = deep\nprojects[views] = 3.1\n")]

theorem buildable_of_resolve_site : ∃ resolution,
    ((resolve {} [] (.path "/m/site") none).run (.ofFiles siteFiles)).value = .ok resolution ∧
      Buildable {} resolution.manifest := by
  have resolved : ((resolve {} [] (.path "/m/site") none).run
      (.ofFiles siteFiles)).value.toOption.isSome = true := by decide +kernel
  cases h : ((resolve {} [] (.path "/m/site") none).run (.ofFiles siteFiles)).value with
  | ok resolution =>
    exact ⟨resolution, rfl, buildable_of_resolve (Dialogue.ends_answering_iff.2 h.symm)⟩
  | error error =>
    rw [h] at resolved
    cases resolved

end BuildManifest
