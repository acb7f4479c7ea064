import BuildManifest.Proofs.Check.Revalidation

/-!
# Selecting and checking

A build selects entries first and checks what is left, while its users think of selecting from a
checked manifest.  The two agree because the check goes entry by entry: an entry is completed from
the defaults alone, its paths are its own, and whether its name is a repetition depends on the
entries of the same name only, which a selection keeps or drops together.

## What is here

* `completed_restrict` — completing and selecting commute.
* `sublist_violations_restrict` — a selection has some of the violations, in their order.
* `prune_validate` — **selecting commutes with checking**, and adds no violation.
-/

set_option autoImplicit false

namespace BuildManifest

namespace Section

variable {s : Section} {keep : String → Bool}

/-- Changing the entries keeps their names, by which they are selected. -/
theorem retain_map (s : Section) (keep : String → Bool) (change : String → Entry → Entry) :
    (s.map change).retain (fun name _ => keep name) =
      (s.retain fun name _ => keep name).map change := by
  rw [retain, map, retain, map, List.filter_map]
  rfl

theorem isEmpty_map (s : Section) (change : String → Entry → Entry) :
    (s.map change).isEmpty = s.isEmpty := List.isEmpty_map

end Section

namespace Manifest

variable {manifest valid pruned : Manifest} {options : CheckOptions} {selection : Selection}
  {force : Bool}

theorem sectionOf_restrict (manifest : Manifest) (selection : Selection) (kind : SectionKind) :
    (manifest.restrict selection).sectionOf kind =
      (manifest.sectionOf kind).retain fun name _ => selection.keeps kind name := by
  cases kind <;> rfl

/-! ## Completing -/

theorem completedSection_restrict (manifest : Manifest) (selection : Selection)
    (kind : SectionKind) :
    (manifest.restrict selection).completedSection kind =
      (manifest.completedSection kind).retain fun name _ => selection.keeps kind name := by
  rw [completedSection, completedSection, sectionOf_restrict, Section.retain_map]
  rfl

theorem withCoreBranch_restrict (manifest : Manifest) (selection : Selection) :
    (manifest.restrict selection).withCoreBranch = manifest.withCoreBranch.restrict selection := by
  have core : (manifest.restrict selection).core = manifest.core := rfl
  rw [withCoreBranch, withCoreBranch, core]
  split <;> rfl

/-- **Completing and selecting commute**, for every entry is completed by itself. -/
theorem completed_restrict (manifest : Manifest) (selection : Selection) (options : CheckOptions) :
    (manifest.restrict selection).completed options =
      (manifest.completed options).restrict selection := by
  rw [completed_eq, completed_eq manifest, withCoreBranch_restrict, completedSection_restrict,
    completedSection_restrict]
  rfl

/-- Completing neither adds nor removes an entry, so it leaves the same selections empty. -/
theorem hasNoEntries_completed (manifest : Manifest) (options : CheckOptions) :
    (manifest.completed options).hasNoEntries = manifest.hasNoEntries := by
  rw [completed_eq]
  exact congrArg₂ and (Section.isEmpty_map _ _) (Section.isEmpty_map _ _)

theorem hasNoEntries_restrict_completed (manifest : Manifest) (selection : Selection)
    (options : CheckOptions) :
    ((manifest.completed options).restrict selection).hasNoEntries =
      (manifest.restrict selection).hasNoEntries := by
  rw [← completed_restrict, hasNoEntries_completed]

/-! ## Checking -/

/-- **The violations of selected entries are among those of all entries, in their order.**  The
number of earlier entries of a name is the same with and without the entries of other names. -/
theorem sublist_entriesViolations_filter (kind : SectionKind) (keep : String → Bool)
    (earlier : List String) (entries : List (String × Entry)) :
    (entriesViolations kind (earlier.filter keep)
      (entries.filter fun entry => keep entry.1)).Sublist
      (entriesViolations kind earlier entries) := by
  induction entries generalizing earlier with
  | nil => exact List.Sublist.refl _
  | cons first rest ih =>
    obtain ⟨name, entry⟩ := first
    have later := ih (name :: earlier)
    rw [entriesViolations]
    by_cases kept : keep name = true
    · have same : entryViolations kind (earlier.filter keep) name entry =
          entryViolations kind earlier name entry := by
        rw [entryViolations, entryViolations, List.count_filter kept]
      rw [List.filter_cons, if_pos kept] at later
      rw [List.filter_cons, if_pos kept, entriesViolations, same]
      exact (List.Sublist.refl _).append later
    · rw [List.filter_cons, if_neg kept] at later
      rw [List.filter_cons, if_neg kept]
      exact later.trans (List.sublist_append_right _ _)

theorem sublist_sectionViolations_restrict (manifest : Manifest) (selection : Selection) :
    (manifest.restrict selection).sectionViolations.Sublist manifest.sectionViolations := by
  have one (kind : SectionKind) :
      (entriesViolations kind [] ((manifest.restrict selection).sectionOf kind).entries).Sublist
        (entriesViolations kind [] (manifest.sectionOf kind).entries) := by
    rw [sectionOf_restrict]
    exact sublist_entriesViolations_filter kind (selection.keeps kind) [] _
  simp only [sectionViolations, SectionKind.all, List.flatMap_cons, List.flatMap_nil,
    List.append_nil]
  exact (one .projects).append (one .libraries)

/-- **A selection has some of the violations, in their order.** -/
theorem sublist_violations_restrict (manifest : Manifest) (selection : Selection)
    (options : CheckOptions) :
    ((manifest.restrict selection).violations options).Sublist (manifest.violations options) := by
  rw [violations, violations, completed_restrict]
  exact (List.Sublist.refl _).append (sublist_sectionViolations_restrict _ selection)

theorem validate_nil_eq_error_iff {found : List Violation} :
    manifest.validate options [] = .error found ↔
      found = manifest.violations options ∧ found ≠ [] := by
  rw [validate]
  simp only [runHooks, List.append_nil]
  cases manifest.violations options with
  | nil => simp
  | cons first rest =>
    simp only [Except.error.injEq]
    exact ⟨fun eq => eq ▸ ⟨rfl, List.cons_ne_nil _ _⟩, fun eq => eq.1.symm⟩

/-! ## Selecting -/

theorem prune_eq_ok_iff :
    manifest.prune selection force = .ok pruned ↔
      pruned = manifest.restrict selection ∧
        ((manifest.restrict selection).hasNoEntries = true → force = true) := by
  rw [prune]
  cases (manifest.restrict selection).hasNoEntries <;> cases force <;> simp [eq_comm]

theorem prune_eq_error_iff {found : Violation} :
    manifest.prune selection force = .error found ↔
      found = .emptyAfterPrune ∧ (manifest.restrict selection).hasNoEntries = true ∧
        force = false := by
  rw [prune]
  cases (manifest.restrict selection).hasNoEntries <;> cases force <;> simp [eq_comm]

/-- **Selecting commutes with checking, and adds no violation.**  From a manifest that passes the
check, selecting first and then checking gives what selecting from the checked manifest gives,
the same manifest or the complaint that nothing is left.  And of any manifest the selected part has
some of the violations of the whole, in their order. -/
theorem prune_validate (manifest : Manifest) (selection : Selection) (force : Bool)
    (options : CheckOptions) :
    (∀ valid, manifest.validate options [] = .ok valid →
      (∃ pruned result, manifest.prune selection force = .ok pruned ∧
        pruned.validate options [] = .ok result ∧ valid.prune selection force = .ok result) ∨
      manifest.prune selection force = .error .emptyAfterPrune ∧
        valid.prune selection force = .error .emptyAfterPrune) ∧
    ∀ pruned found, manifest.prune selection force = .ok pruned →
      pruned.validate options [] = .error found →
      ∃ all, manifest.validate options [] = .error all ∧ found.Sublist all := by
  have fewer := sublist_violations_restrict manifest selection options
  constructor
  · intro valid ok
    obtain ⟨rfl, clean⟩ := validate_nil ok
    have none_ : (manifest.restrict selection).violations options = [] :=
      List.sublist_nil.1 (clean ▸ fewer)
    have empty := hasNoEntries_restrict_completed manifest selection options
    by_cases refused : (manifest.restrict selection).hasNoEntries = true ∧ force = false
    · refine .inr ⟨prune_eq_error_iff.2 ⟨rfl, refused⟩, prune_eq_error_iff.2 ⟨rfl, ?_⟩⟩
      rwa [empty]
    · have kept : (manifest.restrict selection).hasNoEntries = true → force = true := by
        simpa using refused
      refine .inl ⟨_, _, prune_eq_ok_iff.2 ⟨rfl, kept⟩, validate_nil_iff.2 ⟨rfl, none_⟩, ?_⟩
      refine prune_eq_ok_iff.2 ⟨completed_restrict manifest selection options, ?_⟩
      rwa [empty]
  · intro pruned found selected failed
    obtain ⟨rfl, -⟩ := prune_eq_ok_iff.1 selected
    obtain ⟨rfl, some_⟩ := validate_nil_eq_error_iff.1 failed
    refine ⟨_, validate_nil_eq_error_iff.2 ⟨rfl, fun none_ => some_ ?_⟩, fewer⟩
    exact List.sublist_nil.1 (none_ ▸ fewer)

/-- A manifest that repeats two names and has a path that leaves its root. -/
def crowded : Manifest where
  core := some "8.x"
  projects := ⟨[
    ("views", { subdir := some ".." }), ("token", {}), ("views", {}), ("token", {}),
    ("token", {})]⟩

/-- Two selections from a manifest that passes the check, one of them of nothing, and one from a
manifest that does not: of three violations it keeps the one that is about an entry it keeps. -/
theorem prune_validate_withDefaults_crowded :
    (∃ valid pruned result, withDefaults.validate {} [] = .ok valid ∧
      withDefaults.prune ⟨.ofNames ["token"], .empty⟩ false = .ok pruned ∧
      pruned.validate {} [] = .ok result ∧
      valid.prune ⟨.ofNames ["token"], .empty⟩ false = .ok result) ∧
    (∃ valid, withDefaults.validate {} [] = .ok valid ∧
      valid.prune ⟨.empty, .empty⟩ false = .error .emptyAfterPrune) ∧
    ∃ pruned, crowded.prune ⟨.ofNames ["token"], .empty⟩ false = .ok pruned ∧
      pruned.validate {} [] = .error [.duplicateName .projects "token"] ∧
      ∃ all, crowded.validate {} [] = .error all ∧
        [Violation.duplicateName .projects "token"].Sublist all ∧ all.length = 3 := by
  have ok : withDefaults.validate {} [] = .ok (withDefaults.completed {}) :=
    validate_nil_iff.2 ⟨rfl, by decide +kernel⟩
  have three : (crowded.violations {}).length = 3 := by decide +kernel
  refine ⟨?_, ?_, ?_⟩
  · rcases (prune_validate withDefaults ⟨.ofNames ["token"], .empty⟩ false {}).1 _ ok with
      ⟨pruned, result, first, second, third⟩ | ⟨refused, -⟩
    · exact ⟨_, pruned, result, ok, first, second, third⟩
    · exact absurd (prune_eq_error_iff.1 refused).2.1 (by decide +kernel)
  · rcases (prune_validate withDefaults ⟨.empty, .empty⟩ false {}).1 _ ok with
      ⟨pruned, result, kept, -, -⟩ | ⟨-, refused⟩
    · exact absurd ((prune_eq_ok_iff.1 kept).2 (by decide +kernel)) (by decide)
    · exact ⟨_, ok, refused⟩
  · have kept : crowded.prune ⟨.ofNames ["token"], .empty⟩ false =
        .ok (crowded.restrict ⟨.ofNames ["token"], .empty⟩) :=
      prune_eq_ok_iff.2 ⟨rfl, by decide +kernel⟩
    have failed : (crowded.restrict ⟨.ofNames ["token"], .empty⟩).validate {} [] =
        .error [.duplicateName .projects "token"] :=
      validate_nil_eq_error_iff.2 ⟨by decide +kernel, by decide⟩
    obtain ⟨all, wrong, fewer⟩ := (prune_validate crowded _ false {}).2 _ _ kept failed
    refine ⟨_, kept, failed, all, wrong, fewer, ?_⟩
    rw [(validate_nil_eq_error_iff.1 wrong).1, three]

end Manifest

end BuildManifest
