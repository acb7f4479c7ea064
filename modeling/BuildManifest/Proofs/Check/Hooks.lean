import BuildManifest.Check.Validate
import Mathlib.Data.List.Forall2

/-!
# From hook to hook

Validation ends with the user's own checks.  A hook that succeeds may change the manifest for those
after it; one that fails adds a violation and changes nothing.  What each hook is run on is said
here without the loop that runs them: it is what the last successful hook before it made.

## What is here

* `HookRun` — a hook and the manifest it is run on.
* `Chained` — these are the runs of a list of hooks, one after the other.  There is exactly one
  such list of runs for every list of hooks (`exists_chained`, `Chained.unique`).
* `Manifest.runHooks_map` — what comes out of the runs; `Manifest.runHooks_of_sameAs` — nothing else
  about the hooks counts.
* `Chained.without` — **without a hook that fails, the others are run on what they were run on**.
* `validate_chained` — what validation makes of its hooks.
-/

set_option autoImplicit false

namespace BuildManifest

/-- A hook and the manifest it is run on. -/
structure HookRun where
  /-- The hook. -/
  hook : Hook
  /-- The manifest. -/
  given : Manifest

namespace HookRun

/-- What the hook says. -/
def answer (run : HookRun) : Except String Manifest := run.hook.check run.given

/-- The manifest that the hook makes, if it succeeds. -/
def made? (run : HookRun) : Option Manifest := run.answer.toOption

/-- The violation that the hook adds, if it fails. -/
def failure? (run : HookRun) : Option Violation :=
  match run.answer with
  | .ok _ => none
  | .error message => some (.hookFailed run.hook.name message)

/-- Another hook would do the same here, whatever it says of other manifests. -/
def SameAs (run : HookRun) (other : Hook) : Prop :=
  other.name = run.hook.name ∧ other.check run.given = run.answer

end HookRun

variable {start : Manifest} {run : HookRun} {runs before after : List HookRun}

/-- What the last successful run made, and `start` when there is none. -/
def lastMade (start : Manifest) (runs : List HookRun) : Manifest :=
  (runs.filterMap HookRun.made?).getLast?.getD start

/-- Every hook is run on what the last successful one before it made. -/
def Chained (start : Manifest) (runs : List HookRun) : Prop :=
  ∀ before run after, runs = before ++ run :: after → run.given = lastMade start before

/-! ## The runs of a list of hooks -/

theorem lastMade_cons : lastMade start (run :: runs) = lastMade (run.made?.getD start) runs := by
  rw [lastMade, lastMade, List.filterMap_cons]
  cases run.made? with
  | none => rfl
  | some made => rw [List.getLast?_cons, Option.getD_some, Option.getD_some]

theorem chained_nil (start : Manifest) : Chained start [] := by
  intro before run after eq
  simp at eq

theorem chained_cons :
    Chained start (run :: runs) ↔ run.given = start ∧ Chained (run.made?.getD start) runs := by
  constructor
  · intro chained
    refine ⟨chained [] run runs rfl, fun before one after eq => ?_⟩
    rw [chained (run :: before) one after (by rw [eq]; rfl), lastMade_cons]
  · rintro ⟨here, later⟩ before one after eq
    cases before with
    | nil =>
      cases eq
      exact here
    | cons first before =>
      obtain ⟨rfl, rfl⟩ := List.cons.inj eq
      rw [later before one after rfl, lastMade_cons]

/-- Every list of hooks can be run. -/
theorem exists_chained (start : Manifest) (hooks : List Hook) :
    ∃ runs, runs.map HookRun.hook = hooks ∧ Chained start runs := by
  induction hooks generalizing start with
  | nil => exact ⟨[], rfl, chained_nil start⟩
  | cons hook rest ih =>
    obtain ⟨runs, eq, later⟩ := ih ((HookRun.made? ⟨hook, start⟩).getD start)
    exact ⟨⟨hook, start⟩ :: runs, congrArg (hook :: ·) eq, chained_cons.2 ⟨rfl, later⟩⟩

/-- **The hooks determine their runs.** -/
theorem Chained.unique {others : List HookRun} (chained : Chained start runs)
    (chained' : Chained start others) (eq : runs.map HookRun.hook = others.map HookRun.hook) :
    runs = others := by
  induction runs generalizing start others with
  | nil => exact (List.map_eq_nil_iff.1 eq.symm).symm
  | cons run runs ih =>
    cases others with
    | nil => cases eq
    | cons other others =>
      obtain ⟨given, later⟩ := chained_cons.1 chained
      obtain ⟨given', later'⟩ := chained_cons.1 chained'
      obtain ⟨hooks, rest⟩ := List.cons.inj eq
      obtain rfl : run = other := by
        obtain ⟨hook, manifest⟩ := run
        obtain ⟨hook', manifest'⟩ := other
        obtain rfl : hook = hook' := hooks
        obtain rfl : manifest = manifest' := given.trans given'.symm
        rfl
      rw [ih later later' rest]

/-! ## What comes out -/

/-- **The runs tell what comes out of the hooks**: what the last successful one made, and one
violation for each that fails, in order.  What a hook says of other manifests than the one it is
run on does not count. -/
theorem Manifest.runHooks_of_sameAs {hooks : List Hook} (chained : Chained start runs)
    (same : List.Forall₂ HookRun.SameAs runs hooks) :
    start.runHooks hooks = (lastMade start runs, runs.filterMap HookRun.failure?) := by
  induction same generalizing start with
  | nil => rfl
  | @cons run hook runs hooks here _ ih =>
    obtain ⟨rfl, later⟩ := chained_cons.1 chained
    obtain ⟨name, check⟩ := here
    have next := ih later
    rw [runHooks, check, name, lastMade_cons, List.filterMap_cons]
    rw [HookRun.made?, HookRun.failure?]
    rw [HookRun.made?] at next
    cases answered : run.answer with
    | ok made =>
      rw [answered] at next
      exact next
    | error message =>
      rw [answered] at next
      simp only [Except.toOption, Option.getD_none] at next ⊢
      rw [next]

theorem Manifest.runHooks_map (chained : Chained start runs) :
    start.runHooks (runs.map HookRun.hook) =
      (lastMade start runs, runs.filterMap HookRun.failure?) :=
  runHooks_of_sameAs chained
    (List.forall₂_map_right_iff.2 (List.forall₂_same.2 fun _ _ => ⟨rfl, rfl⟩))

/-! ## A hook that fails -/

theorem lastMade_without (failed : run.made? = none) :
    lastMade start (before ++ run :: after) = lastMade start (before ++ after) := by
  rw [lastMade, lastMade, List.filterMap_append, List.filterMap_append,
    List.filterMap_cons_none failed]

/-- **Without a hook that fails, the others are run on what they were run on.** -/
theorem Chained.without (chained : Chained start (before ++ run :: after))
    (failed : run.made? = none) : Chained start (before ++ after) := by
  induction before generalizing start with
  | nil =>
    have later := (chained_cons.1 chained).2
    rwa [failed] at later
  | cons first before ih =>
    obtain ⟨given, later⟩ := chained_cons.1 chained
    exact chained_cons.2 ⟨given, ih later⟩

/-! ## The whole validation -/

/-- The result of a check that leaves a manifest and a list of violations. -/
def verdict (valid : Manifest) : List Violation → Except (List Violation) Manifest
  | [] => .ok valid
  | found => .error found

namespace Manifest

theorem validate_eq (manifest : Manifest) (options : CheckOptions) (hooks : List Hook) :
    manifest.validate options hooks =
      verdict ((manifest.completed options).runHooks hooks).1
        (manifest.violations options ++ ((manifest.completed options).runHooks hooks).2) := by
  rw [validate]
  obtain ⟨last, failures⟩ := (manifest.completed options).runHooks hooks
  rfl

theorem validate_of_sameAs {manifest : Manifest} {options : CheckOptions} {hooks : List Hook}
    (chained : Chained (manifest.completed options) runs)
    (same : List.Forall₂ HookRun.SameAs runs hooks) :
    manifest.validate options hooks =
      verdict (lastMade (manifest.completed options) runs)
        (manifest.violations options ++ runs.filterMap HookRun.failure?) := by
  rw [validate_eq, runHooks_of_sameAs chained same]

theorem validate_map {manifest : Manifest} {options : CheckOptions}
    (chained : Chained (manifest.completed options) runs) :
    manifest.validate options (runs.map HookRun.hook) =
      verdict (lastMade (manifest.completed options) runs)
        (manifest.violations options ++ runs.filterMap HookRun.failure?) := by
  rw [validate_eq, runHooks_map chained]

/-- **What validation makes of its hooks.**  Each is run on what the last successful one before it
made, on the completed manifest if there is none, and nothing that it would say elsewhere counts.
The violations are those of the manifest and then one for each hook that fails, in order.  Without
a hook that fails, the others are run on the same manifests, and only its own violation is
missing. -/
theorem validate_chained (manifest : Manifest) (options : CheckOptions) (hooks : List Hook) :
    ∃ runs : List HookRun, runs.map HookRun.hook = hooks ∧
      Chained (manifest.completed options) runs ∧
      manifest.validate options hooks =
        verdict (lastMade (manifest.completed options) runs)
          (manifest.violations options ++ runs.filterMap HookRun.failure?) ∧
      (∀ others, List.Forall₂ HookRun.SameAs runs others →
        manifest.validate options others = manifest.validate options hooks) ∧
      ∀ before run after message, runs = before ++ run :: after → run.answer = .error message →
        Chained (manifest.completed options) (before ++ after) ∧
        runs.filterMap HookRun.failure? = before.filterMap HookRun.failure? ++
          .hookFailed run.hook.name message :: after.filterMap HookRun.failure? ∧
        manifest.validate options ((before ++ after).map HookRun.hook) =
          verdict (lastMade (manifest.completed options) runs)
            (manifest.violations options ++ (before.filterMap HookRun.failure? ++
              after.filterMap HookRun.failure?)) := by
  obtain ⟨runs, rfl, chained⟩ := exists_chained (manifest.completed options) hooks
  refine ⟨runs, rfl, chained, validate_map chained, fun others same => ?_, ?_⟩
  · rw [validate_of_sameAs chained same, validate_map chained]
  · rintro before run after message rfl failed
    have nothing : run.made? = none := by rw [HookRun.made?, failed]; rfl
    have reported : run.failure? = some (.hookFailed run.hook.name message) := by
      rw [HookRun.failure?, failed]
    have without := chained.without nothing
    refine ⟨without, ?_, ?_⟩
    · rw [List.filterMap_append, List.filterMap_cons_some reported]
    · rw [validate_map without, lastMade_without nothing, List.filterMap_append]

/-- The hook that fails in the middle sees what the first one made, and so does the last one, with
it and without it. -/
theorem validate_chained_refused :
    let branch : Hook := ⟨"branch", fun m => .ok { m with core := some "9.x" }⟩
    let refuse : Hook := ⟨"refuse", fun m => .error ("no " ++ m.core.getD "core")⟩
    let look : Hook := ⟨"look", fun m => .error ("saw " ++ m.core.getD "nothing")⟩
    let manifest : Manifest :=
      { core := some "8.x", projects := ⟨[("views", { subdir := some ".." })]⟩ }
    let escape : Violation := .unsafePath .projects "views" "subdir" ".."
    manifest.validate {} [branch, refuse, look] =
        .error [escape, .hookFailed "refuse" "no 9.x", .hookFailed "look" "saw 9.x"] ∧
      manifest.validate {} [branch, look] = .error [escape, .hookFailed "look" "saw 9.x"] := by
  intro branch refuse look manifest escape
  obtain ⟨runs, hooks, chained, all, -, without⟩ :=
    validate_chained manifest {} [branch, refuse, look]
  let start := manifest.completed {}
  let moved : Manifest := { start with core := some "9.x" }
  have moves : HookRun.made? ⟨branch, start⟩ = some moved := rfl
  have refuses : HookRun.made? ⟨refuse, moved⟩ = none := rfl
  have expected : Chained start [⟨branch, start⟩, ⟨refuse, moved⟩, ⟨look, moved⟩] := by
    refine chained_cons.2 ⟨rfl, ?_⟩
    rw [moves]
    refine chained_cons.2 ⟨rfl, ?_⟩
    rw [refuses]
    exact chained_cons.2 ⟨rfl, chained_nil _⟩
  obtain rfl := chained.unique expected hooks
  have escapes : manifest.violations {} = [escape] := by decide +kernel
  rw [escapes] at all
  refine ⟨all, ?_⟩
  have rest := (without [⟨branch, start⟩] ⟨refuse, moved⟩ [⟨look, moved⟩] "no 9.x" rfl rfl).2.2
  rw [escapes] at rest
  exact rest

end Manifest

end BuildManifest
