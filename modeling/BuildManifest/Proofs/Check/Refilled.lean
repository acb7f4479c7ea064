import BuildManifest.Check.Validate
import BuildManifest.Proofs.Manifest.Keyed
import BuildManifest.Proofs.Manifest.Rereading
import BuildManifest.Proofs.Tree.Regrouping

/-!
# Manifests that are complete already

Completing a manifest fills its entries from the defaults of their section and takes from libraries
what they do not have.  Entries that went through this once stay as they are the second time, for
defaults only fill what is open, and a layer of defaults that is there already changes nothing.

## What is here

* `Entry.completeIn`, `completed_eq` — **what completing does**, entry by entry.
* `Entry.completeIn_completeIn` — **an entry is completed once and for all**.
* `legible_completed`, `keyed_completed` — what completing keeps.
-/

set_option autoImplicit false

namespace BuildManifest

/-! ## Filling twice -/

theorem orElse_orElse_self {α : Type} (own defaults : Option α) :
    ((own <|> defaults) <|> defaults) = (own <|> defaults) := by
  cases own with
  | none => cases defaults <;> rfl
  | some value => rfl

theorem Download.fill_fill (own defaults : Download) :
    (own.fill defaults).fill defaults = own.fill defaults := by
  simp only [fill, orElse_orElse_self]

namespace Labelled

variable {α : Type} {labelled own defaults : Labelled α} {label : String}

theorem insertNew_of_contains {value : α} (h : labelled.contains label = true) :
    labelled.insertNew label value = labelled := if_pos h

theorem contains_insertNew {value : α} {wanted : String} :
    (labelled.insertNew label value).contains wanted = true ↔
      label = wanted ∨ labelled.contains wanted = true := by
  rw [insertNew]
  split
  · next present => exact ⟨.inr, fun h => h.elim (fun eq => eq ▸ present) id⟩
  · rw [contains, get?_insert]
    split
    · next eq => simp [eq]
    · next ne => simp [ne, contains]

theorem contains_foldl_insertNew {list : List (String × α)} {wanted : String} :
    (list.foldl (fun done entry => done.insertNew entry.1 entry.2) labelled).contains wanted =
      true ↔ labelled.contains wanted = true ∨ wanted ∈ list.map (·.1) := by
  induction list generalizing labelled with
  | nil => simp
  | cons first rest ih =>
    rw [List.foldl_cons, ih, contains_insertNew, List.map_cons, List.mem_cons]
    tauto

theorem foldl_insertNew_of_contains {list : List (String × α)}
    (all : ∀ entry ∈ list, labelled.contains entry.1 = true) :
    list.foldl (fun done entry => done.insertNew entry.1 entry.2) labelled = labelled := by
  induction list with
  | nil => rfl
  | cons first rest ih =>
    obtain ⟨here, later⟩ := List.forall_mem_cons.1 all
    rw [List.foldl_cons, insertNew_of_contains here, ih later]

/-- **Labels are filled in once and for all.** -/
theorem fill_fill (own defaults : Labelled α) :
    (own.fill defaults).fill defaults = own.fill defaults :=
  foldl_insertNew_of_contains fun _ member =>
    contains_foldl_insertNew.2 (.inr (List.mem_map_of_mem member))

end Labelled

namespace Entry

variable {own defaults entry : Entry}

theorem fillDownload_fillDownload (own defaults : Option Download) :
    fillDownload (fillDownload own defaults) defaults = fillDownload own defaults := by
  cases defaults with
  | none => rfl
  | some defaults => exact congrArg some (Download.fill_fill _ _)

theorem fillExtra_fillExtra {own defaults : Mapping} (keyed : Tree.wellKeyed (.mapping own) = true)
    (keyed' : Tree.wellKeyed (.mapping defaults) = true) :
    fillExtra (fillExtra own defaults) defaults = fillExtra own defaults := by
  rw [fillExtra, fillExtra]
  split
  · rfl
  · have again := Tree.merge_merge_self keyed' keyed
    rw [Tree.merge, Tree.merge] at again
    exact Tree.mapping.inj again

/-- **An entry is filled once and for all.** -/
theorem fill_fill (keyed : own.Keyed) (keyed' : defaults.Keyed) :
    (own.fill defaults).fill defaults = own.fill defaults := by
  simp only [fill, orElse_orElse_self, fillDownload_fillDownload, Labelled.fill_fill,
    fillExtra_fillExtra keyed keyed']

theorem keyed_fill (keyed : own.Keyed) (keyed' : defaults.Keyed) : (own.fill defaults).Keyed := by
  rw [Keyed, fill, fillExtra]
  split
  · exact keyed
  · have merged := Tree.wellKeyed_merge _ keyed' keyed
    rwa [Tree.merge] at merged

theorem legible_fillDownload {own defaults : Option Download}
    (legible : ∀ download ∈ own, download.Legible)
    (legible' : ∀ download ∈ defaults, download.Legible) :
    ∀ download ∈ fillDownload own defaults, download.Legible := by
  cases defaults with
  | none => exact legible
  | some defaults =>
    intro download member kind given
    cases Option.some.inj member
    rcases (Option.orElse_eq_some _ _ _).1 given with mine | ⟨-, theirs⟩
    · cases own with
      | none => cases mine
      | some own => exact legible own rfl kind mine
    · exact legible' defaults rfl kind theirs

/-- **An entry that can be read is filled with what can be read.** -/
theorem legible_fill (legible : own.Legible) (legible' : defaults.Legible) :
    (own.fill defaults).Legible := by
  have download := legible_fillDownload legible.download legible'.download
  by_cases nothing : defaults.extra.isEmpty = true
  · have same : (own.fill defaults).extra = own.extra := if_pos nothing
    exact ⟨download, same ▸ legible.extra, same ▸ legible.apart⟩
  · have merged : (own.fill defaults).extra = Tree.mergeEntries defaults.extra own.extra :=
      if_neg nothing
    refine ⟨download, ?_, ?_⟩
    · rw [merged]
      refine Mapping.forall_mem_mergeEntries (fun key value => ∃ name, key = .string name ∧
        Attribute.ofName? name = none ∧ value.hasTag = false) ?_ legible'.extra legible.extra
      rintro key present lower upper - - ⟨name, eq, unknown, untagged⟩ ⟨-, -, -, untagged'⟩
      exact ⟨name, eq, unknown, Tree.hasTag_merge upper untagged untagged'⟩
    · rw [merged]
      refine (Mapping.apart_mergeEntries legible'.apart_extra).imp fun {a b} different eq => ?_
      rw [eq, Tree.same_refl] at different
      cases different

end Entry

/-! ## Completing an entry -/

namespace Entry

variable {entry : Entry} {defaults : Option Entry} {kind : SectionKind}

/-- The entry with what it leaves open filled from the defaults of its section, if it has any. -/
def filledFrom (defaults : Option Entry) (entry : Entry) : Entry :=
  match defaults with
  | none => entry
  | some defaults => entry.fill defaults

/-- The entry without what the entries of its section do not have. -/
def restrictTo (kind : SectionKind) (entry : Entry) : Entry :=
  match kind with
  | .projects => entry
  | .libraries => { entry with contribDestination := none }

/-- What becomes of an entry when its manifest is completed. -/
def completeIn (kind : SectionKind) (defaults : Option Entry) (entry : Entry) : Entry :=
  (entry.filledFrom defaults).restrictTo kind

/-- **An entry is completed once and for all.** -/
theorem completeIn_completeIn (keyed : entry.Keyed) (keyed' : ∀ given ∈ defaults, given.Keyed) :
    (entry.completeIn kind defaults).completeIn kind defaults = entry.completeIn kind defaults := by
  cases defaults with
  | none => cases kind <;> rfl
  | some defaults =>
    have again := fill_fill keyed (keyed' defaults rfl)
    cases kind with
    | projects => exact again
    | libraries =>
      -- The attribute that libraries do not have is filled again, and taken away again.
      exact congrArg (fun filled : Entry => { filled with contribDestination := none }) again

theorem keyed_completeIn (keyed : entry.Keyed) (keyed' : ∀ given ∈ defaults, given.Keyed) :
    (entry.completeIn kind defaults).Keyed := by
  cases defaults with
  | none => cases kind <;> exact keyed
  | some defaults => cases kind <;> exact keyed_fill keyed (keyed' defaults rfl)

theorem legible_completeIn (legible : entry.Legible)
    (legible' : ∀ given ∈ defaults, given.Legible) :
    (entry.completeIn kind defaults).Legible := by
  have filled : (entry.filledFrom defaults).Legible := by
    cases defaults with
    | none => exact legible
    | some defaults => exact legible_fill legible (legible' defaults rfl)
  cases kind with
  | projects => exact filled
  | libraries => exact ⟨filled.download, filled.extra, filled.apart⟩

end Entry

/-! ## Completing a manifest -/

namespace Section

variable {s : Section}

theorem map_map (s : Section) (change change' : String → Entry → Entry) :
    (s.map change).map change' = s.map fun name entry => change' name (change name entry) := by
  simp [map, Function.comp_def]

theorem map_eq_self (s : Section) {change : String → Entry → Entry}
    (fixed : ∀ one ∈ s.entries, change one.1 one.2 = one.2) : s.map change = s := by
  cases s with
  | mk entries =>
    refine congrArg mk ((List.map_congr_left fun one member => ?_).trans (List.map_id _))
    rw [fixed one member]
    rfl

end Section

namespace Manifest

variable {manifest : Manifest} {options : CheckOptions}

/-- The section with every entry completed. -/
def completedSection (manifest : Manifest) (kind : SectionKind) : Section :=
  (manifest.sectionOf kind).map fun _ =>
    Entry.completeIn kind (manifest.defaults.get? kind.name)

/-- Defaults fill the section of their name, or nothing. -/
theorem fillNamed_cases (manifest : Manifest) (name : String) (defaults : Entry) :
    (∃ kind : SectionKind, name = kind.name ∧
      manifest.fillNamed name defaults = manifest.fillSection defaults kind) ∨
    (∀ kind : SectionKind, name ≠ kind.name) ∧ manifest.fillNamed name defaults = manifest := by
  rw [fillNamed]
  cases known : SectionKind.ofName? name with
  | some kind =>
    have named := List.find?_some known
    exact .inl ⟨kind, (eq_of_beq named).symm, rfl⟩
  | none =>
    refine .inr ⟨?_, rfl⟩
    rintro kind rfl
    cases kind <;> cases known

/-- Defaults fill the section of their name. -/
theorem foldl_fillNamed (manifest : Manifest) {list : List (String × Entry)}
    (increasing : list.Pairwise fun a b => a.1 < b.1) :
    list.foldl (fun m entry => m.fillNamed entry.1 entry.2) manifest =
      { manifest with
        projects := manifest.projects.map fun _ =>
          Entry.filledFrom (Labelled.findEntry list "projects")
        libraries := manifest.libraries.map fun _ =>
          Entry.filledFrom (Labelled.findEntry list "libraries") } := by
  have same (s : Section) : s.map (fun _ => Entry.filledFrom none) = s :=
    s.map_eq_self fun _ _ => rfl
  induction list generalizing manifest with
  | nil => simp only [List.foldl_nil, Labelled.findEntry, same]
  | cons first rest ih =>
    obtain ⟨name, defaults⟩ := first
    obtain ⟨below, increasing⟩ := List.pairwise_cons.1 increasing
    have absent : Labelled.findEntry rest name = none :=
      Labelled.findEntry_eq_none fun entry member => (String.ne_of_lt (below entry member)).symm
    rw [List.foldl_cons, ih _ increasing]
    rcases fillNamed_cases manifest name defaults with ⟨kind, rfl, eq⟩ | ⟨ne, eq⟩
    · rw [eq]
      cases kind with
      | projects =>
        have filled : Labelled.findEntry (("projects", defaults) :: rest) "projects" =
            some defaults := rfl
        have other : Labelled.findEntry (("projects", defaults) :: rest) "libraries" =
            Labelled.findEntry rest "libraries" := rfl
        simp only [SectionKind.name] at absent ⊢
        rw [filled, other, absent, same]
        rfl
      | libraries =>
        have filled : Labelled.findEntry (("libraries", defaults) :: rest) "libraries" =
            some defaults := rfl
        have other : Labelled.findEntry (("libraries", defaults) :: rest) "projects" =
            Labelled.findEntry rest "projects" := rfl
        simp only [SectionKind.name] at absent ⊢
        rw [filled, other, absent, same]
        rfl
    · have projects : name ≠ "projects" := ne .projects
      have libraries : name ≠ "libraries" := ne .libraries
      rw [eq, Labelled.findEntry, Labelled.findEntry, if_neg projects, if_neg libraries]

/-- **What completing does**: the versions are spelled out, and every entry is completed. -/
theorem completed_eq (manifest : Manifest) (options : CheckOptions) :
    manifest.completed options =
      { manifest with
        core := manifest.withCoreBranch.core
        coreRelease := manifest.withCoreBranch.coreRelease
        api := manifest.api <|> some options.api
        projects := manifest.completedSection .projects
        libraries := manifest.completedSection .libraries } := by
  have branch : manifest.withCoreBranch =
      { manifest with
        core := manifest.withCoreBranch.core
        coreRelease := manifest.withCoreBranch.coreRelease } := by
    rw [withCoreBranch]
    split <;> rfl
  have filled := foldl_fillNamed (manifest.withCoreBranch.withApi options.api)
    (manifest.withCoreBranch.withApi options.api).defaults.increasing
  rw [completed, applyDefaults, filled, branch]
  simp only [withPlainLibraries, Section.map_map]
  rfl

theorem sectionOf_completed (manifest : Manifest) (options : CheckOptions) (kind : SectionKind) :
    (manifest.completed options).sectionOf kind = manifest.completedSection kind := by
  rw [completed_eq]
  cases kind <;> rfl

theorem keyed_completed (keyed : manifest.Keyed) (options : CheckOptions) :
    (manifest.completed options).Keyed := by
  refine ⟨fun kind one member => ?_, fun one member => ?_⟩
  · rw [sectionOf_completed] at member
    obtain ⟨given, inside, rfl⟩ := List.mem_map.1 member
    exact Entry.keyed_completeIn (keyed.sections kind given inside) fun defaults found =>
      keyed.defaults _ (Labelled.mem_of_get? found)
  · rw [completed_eq] at member
    exact keyed.defaults one member

/-- **What can be read is completed to what can be read.** -/
theorem legible_completed (legible : manifest.Legible)
    (small : manifest.api = none → options.api < versionBound) :
    (manifest.completed options).Legible := by
  have eq := completed_eq manifest options
  constructor
  case api =>
    rw [eq]
    intro version member
    rcases (Option.orElse_eq_some _ _ _).1 member with given | ⟨missing, assumed⟩
    · exact legible.api version given
    · cases assumed
      exact small missing
  case sections =>
    intro kind one member
    rw [sectionOf_completed] at member
    obtain ⟨given, inside, rfl⟩ := List.mem_map.1 member
    exact Entry.legible_completeIn (legible.sections kind given inside) fun defaults found =>
      legible.defaults _ (Labelled.mem_of_get? found)
  all_goals rw [eq]
  case includes => exact legible.includes
  case overrides => exact legible.overrides
  case defaults => exact legible.defaults

/-- **A section is completed once and for all.** -/
theorem completedSection_completed (keyed : manifest.Keyed) (options : CheckOptions)
    (kind : SectionKind) :
    (manifest.completed options).completedSection kind = manifest.completedSection kind := by
  have defaults : (manifest.completed options).defaults = manifest.defaults := by rw [completed_eq]
  rw [completedSection, sectionOf_completed, defaults, completedSection, Section.map_map]
  refine congrArg Section.mk (List.map_congr_left fun one member => congrArg (Prod.mk one.1) ?_)
  exact Entry.completeIn_completeIn (keyed.sections kind one member) fun given found =>
    keyed.defaults _ (Labelled.mem_of_get? found)

end Manifest

end BuildManifest
