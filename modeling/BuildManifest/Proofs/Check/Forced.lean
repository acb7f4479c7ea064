import BuildManifest.Proofs.Check.Hooks

/-!
# What force lets through

Under force a manifest of another version of the format is checked as if its version were fine, and
everything else as before.  The manifest that is checked, and with it what every hook is run on, is
the same with and without force, so force hides nothing that a check or a hook finds.

## What is here

* `violations_force` — force leaves out the complaint about the version and keeps the others.
* `validate_forced` — **validation with force against validation without it**.
-/

set_option autoImplicit false

namespace BuildManifest

/-- The complaint about the version of the format. -/
def Violation.isApiMismatch : Violation → Bool
  | .apiMismatch _ _ => true
  | _ => false

/-- What a check reports; nothing if it succeeds. -/
def reported : Except (List Violation) Manifest → List Violation
  | .ok _ => []
  | .error found => found

/-- What is left of a report under force. -/
def withoutApiMismatch (found : List Violation) : List Violation :=
  found.filter fun violation => !violation.isApiMismatch

variable {valid : Manifest} {found : List Violation}

theorem reported_verdict : reported (verdict valid found) = found := by
  cases found <;> rfl

theorem verdict_eq_error_iff {reason : List Violation} :
    verdict valid found = .error reason ↔ reason = found ∧ found ≠ [] := by
  cases found with
  | nil => simp [verdict]
  | cons first rest => simp [verdict, eq_comm]

theorem verdict_eq_ok_iff {result : Manifest} :
    verdict valid found = .ok result ↔ result = valid ∧ found = [] := by
  cases found with
  | nil => simp [verdict, eq_comm]
  | cons first rest => simp [verdict]

/-! ## Who complains about the version -/

theorem withoutApiMismatch_append (found more : List Violation) :
    withoutApiMismatch (found ++ more) = withoutApiMismatch found ++ withoutApiMismatch more :=
  List.filter_append ..

theorem withoutApiMismatch_eq_self (other : ∀ violation ∈ found, violation.isApiMismatch = false) :
    withoutApiMismatch found = found :=
  List.filter_eq_self.2 fun violation member => by rw [other violation member]; rfl

theorem isApiMismatch_failure {run : HookRun} {violation : Violation}
    (failed : run.failure? = some violation) : violation.isApiMismatch = false := by
  rw [HookRun.failure?] at failed
  split at failed
  · cases failed
  · cases failed
    rfl

namespace Manifest

variable {manifest : Manifest} {violation : Violation}

theorem isApiMismatch_coreViolations (member : violation ∈ manifest.coreViolations) :
    violation.isApiMismatch = false := by
  rw [coreViolations] at member
  split at member
  · rw [List.mem_singleton.1 member]
    rfl
  · split at member
    · cases member
    · rw [List.mem_singleton.1 member]
      rfl

theorem isApiMismatch_entryViolations {kind : SectionKind} {earlier : List String} {name : String}
    {entry : Entry} (member : violation ∈ entryViolations kind earlier name entry) :
    violation.isApiMismatch = false := by
  rcases List.mem_append.1 member with repeated | path
  · split at repeated
    · rw [List.mem_singleton.1 repeated]
      rfl
    · cases repeated
  · obtain ⟨one, -, rfl⟩ := List.mem_map.1 path
    rfl

theorem isApiMismatch_entriesViolations {kind : SectionKind} {earlier : List String}
    {entries : List (String × Entry)}
    (member : violation ∈ entriesViolations kind earlier entries) :
    violation.isApiMismatch = false := by
  induction entries generalizing earlier with
  | nil => cases member
  | cons first rest ih =>
    rcases List.mem_append.1 member with here | later
    · exact isApiMismatch_entryViolations here
    · exact ih later

theorem isApiMismatch_sectionViolations (member : violation ∈ manifest.sectionViolations) :
    violation.isApiMismatch = false := by
  obtain ⟨kind, -, inside⟩ := List.mem_flatMap.1 member
  exact isApiMismatch_entriesViolations inside

/-- Force leaves out what the version of the format is blamed for, which is nothing else. -/
theorem apiViolations_force (manifest : Manifest) (api : Nat) :
    manifest.apiViolations { api := api, force := true } =
      withoutApiMismatch (manifest.apiViolations { api := api, force := false }) := by
  rw [apiViolations, apiViolations]
  cases manifest.api with
  | none => rfl
  | some version =>
    by_cases same : version = api
    · simp [same, withoutApiMismatch]
    · simp [same, withoutApiMismatch, Violation.isApiMismatch]

/-- **Force leaves out the complaint about the version and keeps the others**: what is checked is
one and the same manifest. -/
theorem violations_force (manifest : Manifest) (api : Nat) :
    manifest.violations { api := api, force := true } =
      withoutApiMismatch (manifest.violations { api := api, force := false }) := by
  have same : manifest.completed { api := api, force := true } =
      manifest.completed { api := api, force := false } := rfl
  rw [violations, violations, same, withoutApiMismatch_append, withoutApiMismatch_append,
    ← apiViolations_force,
    withoutApiMismatch_eq_self fun _ => isApiMismatch_coreViolations,
    withoutApiMismatch_eq_self fun _ => isApiMismatch_sectionViolations]

/-- With force validation reports what it reports without it, the version of the format aside, and
comes to the same manifest. -/
theorem exists_verdicts (manifest : Manifest) (api : Nat) (hooks : List Hook) :
    ∃ last found,
      manifest.validate { api := api, force := false } hooks = verdict last found ∧
        manifest.validate { api := api, force := true } hooks =
          verdict last (withoutApiMismatch found) := by
  obtain ⟨runs, rfl, chained⟩ :=
    exists_chained (manifest.completed { api := api, force := false }) hooks
  have failures : withoutApiMismatch (runs.filterMap HookRun.failure?) =
      runs.filterMap HookRun.failure? := by
    refine withoutApiMismatch_eq_self fun violation member => ?_
    obtain ⟨run, -, failed⟩ := List.mem_filterMap.1 member
    exact isApiMismatch_failure failed
  refine ⟨_, _, validate_map chained, ?_⟩
  have forced : Chained (manifest.completed { api := api, force := true }) runs := chained
  rw [validate_map forced, violations_force, withoutApiMismatch_append, failures]
  rfl

/-- **Force downgrades the complaint about the version of the format and nothing else.**  It fails
exactly if there is something else to report, and then reports that; what is fine without it is
fine with it, and comes out the same. -/
theorem validate_forced (manifest : Manifest) (api : Nat) (hooks : List Hook) :
    ((∃ found, manifest.validate { api := api, force := true } hooks = .error found) ↔
        ∃ violation ∈ reported (manifest.validate { api := api, force := false } hooks),
          violation.isApiMismatch = false) ∧
      (∀ found, manifest.validate { api := api, force := true } hooks = .error found →
        found = withoutApiMismatch
          (reported (manifest.validate { api := api, force := false } hooks))) ∧
      ∀ valid, manifest.validate { api := api, force := false } hooks = .ok valid →
        manifest.validate { api := api, force := true } hooks = .ok valid := by
  obtain ⟨last, found, strict, forced⟩ := exists_verdicts manifest api hooks
  rw [strict, forced, reported_verdict]
  refine ⟨⟨?_, ?_⟩, fun reason failed => (verdict_eq_error_iff.1 failed).1, fun valid fine => ?_⟩
  · rintro ⟨reason, failed⟩
    obtain ⟨violation, member⟩ := List.exists_mem_of_ne_nil _ (verdict_eq_error_iff.1 failed).2
    obtain ⟨inside, other⟩ := List.mem_filter.1 member
    exact ⟨violation, inside, by simpa using other⟩
  · rintro ⟨violation, inside, other⟩
    have left : violation ∈ withoutApiMismatch found :=
      List.mem_filter.2 ⟨inside, by rw [other]; rfl⟩
    exact ⟨_, verdict_eq_error_iff.2 ⟨rfl, List.ne_nil_of_mem left⟩⟩
  · obtain ⟨rfl, rfl⟩ := verdict_eq_ok_iff.1 fine
    rfl

/-- Of a wrong version, a repeated name and a hook that fails, force hides the version only; on a
manifest without any of them it makes no difference. -/
theorem validate_forced_repeated :
    let refuse : Hook := ⟨"refuse", fun m => .error ("no " ++ m.core.getD "core")⟩
    let repeated : Manifest :=
      { core := some "8.x", api := some 3, projects := ⟨[("views", {}), ("views", {})]⟩ }
    let plain : Manifest := { core := some "8.x", api := some 2, projects := ⟨[("views", {})]⟩ }
    repeated.validate { api := 2, force := false } [refuse] =
        .error [.apiMismatch 3 2, .duplicateName .projects "views", .hookFailed "refuse" "no 8.x"] ∧
      repeated.validate { api := 2, force := true } [refuse] =
        .error [.duplicateName .projects "views", .hookFailed "refuse" "no 8.x"] ∧
      plain.validate { api := 2, force := true } [] = .ok (plain.completed {}) := by
  intro refuse repeated plain
  have strict := validate_eq repeated { api := 2, force := false } [refuse]
  rw [show repeated.violations { api := 2, force := false } =
    [.apiMismatch 3 2, .duplicateName .projects "views"] by decide +kernel] at strict
  have accepted := validate_eq plain { api := 2, force := false } []
  rw [show plain.violations { api := 2, force := false } = [] by decide +kernel] at accepted
  obtain ⟨fails, reports, -⟩ := validate_forced repeated 2 [refuse]
  rw [strict] at fails reports
  obtain ⟨found, forced⟩ := fails.2 ⟨.duplicateName .projects "views", .tail _ (.head _), rfl⟩
  refine ⟨strict, ?_, (validate_forced plain 2 []).2.2 _ accepted⟩
  rw [forced, reports found forced]
  rfl

end Manifest

end BuildManifest
