import BuildManifest.Proofs.Resolve.Nesting

/-!
# No manifest is loaded within itself

The stack of a loading is inside the session and does not show in what the loading ends with.  To
say something of it at every moment, loading is watched: after every change of the stack an alarm
is raised if some location is on it twice.  The watched loading is the loading, so that the alarm
is never raised, whatever is answered.

## What is here

* `watch`, `watchedTree`, `watchedManifest` — loading with a look at the stack after every change.
* `run_followed_congr` — references are followed alike by loadings that agree where they start.
* `run_watchedTree` — **the look never changes anything**.
-/

set_option autoImplicit false

namespace BuildManifest

open Load

variable {α β : Type} {may : Answering} {session : Session}

instance (session : Session) : Decidable session.Apart :=
  inferInstanceAs (Decidable (List.Pairwise _ session.stack))

/-! ## Watched loading -/

/-- Raise the alarm if a location is on the stack twice. -/
def watch (alarm : ResolveError) : Load Unit := do
  if (← get).Apart then return () else Load.fail alarm

/-- A step of loading that looks at the stack after every change. -/
def watchedStep (alarm : ResolveError) (policy : OverridePolicy)
    (load : String → Location → Load (Tree × Dialect)) (text : String) (location : Location) :
    Load (Tree × Dialect) := do
  watch alarm
  enter location
  watch alarm
  let (tree, dialect) ← readTree text location
  let tree ← mergeIncludes (loadReference load location) location tree.normalize
  watch alarm
  let tree ← mergeOverrides (loadReference load location) policy location tree
  watch alarm
  leave
  watch alarm
  return (tree, dialect)

/-- Watched loading of a text found at a location. -/
def watchedTree (alarm : ResolveError) (policy : OverridePolicy) :
    Nat → String → Location → Load (Tree × Dialect)
  | 0 => fun _ _ => Load.fail .nestedTooDeeply
  | nesting + 1 => watchedStep alarm policy (watchedTree alarm policy nesting)

/-- Watched loading of the manifest of a source. -/
def watchedManifest (alarm : ResolveError) (policy : OverridePolicy) (nesting : Nat)
    (source : Source) : Load Manifest := do
  let (text, location) ← readSource source
  let (tree, dialect) ← watchedTree alarm policy nesting text location
  match Manifest.ofTree tree (some dialect) with
  | .ok manifest => return manifest
  | .error error => Load.fail (.manifest location.text error)

/-! ## Loadings that agree -/

/-- Two sequences agree if their first parts do, and what follows a success. -/
theorem run_bind_eq {one other : Load α} {f g : α → Load β}
    (h : one.run session = other.run session)
    (h' : ∀ value middle, Ends .any session other (.ok value) middle →
      (f value).run middle = (g value).run middle) :
    (one >>= f).run session = (other >>= g).run session := by
  rw [run_bind, h, ← run_bind]
  exact run_bind_congr h'

theorem run_map_eq {one other : Load α} (f : α → β) (h : one.run session = other.run session) :
    (f <$> one).run session = (f <$> other).run session := by
  rw [map_eq_pure_bind, map_eq_pure_bind]
  exact run_bind_eq h fun _ _ _ => rfl

theorem run_loadAll_congr {load load' : Reference → Load α} {good : α → Prop}
    {stack : List Location} (steady : ∀ reference, Steady .any (load reference) good)
    (agree : ∀ reference session, session.stack = stack →
      (load' reference).run session = (load reference).run session)
    (list : List Reference) (h : session.stack = stack) :
    (loadAll load' list).run session = (loadAll load list).run session := by
  induction list generalizing session with
  | nil => rfl
  | cons reference rest ih =>
    refine run_bind_eq (agree reference session h) fun one middle ends => ?_
    have same := (steady reference _ _ _ ends).1
    exact run_bind_eq (ih (same.trans h)) fun _ _ _ => rfl

/-- **References are followed alike** by loadings that agree where they start. -/
theorem run_followed_congr {load load' : Reference → Load α} {good : α → Prop}
    {stack : List Location} (steady : ∀ reference, Steady .any (load reference) good)
    (agree : ∀ reference session, session.stack = stack →
      (load' reference).run session = (load reference).run session)
    (location : Location) (value : Option Tree) (h : session.stack = stack) :
    (followed load' location value).run session = (followed load location value).run session := by
  cases value with
  | none => rfl
  | some value =>
    refine run_bind_eq rfl fun list middle ends => run_map_eq _ ?_
    have same := (flat_referencesOf location value _ _ _ ends).1
    exact run_loadAll_congr steady agree list (same.trans h)

/-! ## The alarm is never raised -/

theorem run_watch_bind (alarm : ResolveError) (apart : session.Apart) (f : Unit → Load α) :
    (watch alarm >>= f).run session = (f ()).run session := by
  have passed : (watch alarm).run session = .done (.ok (), session) := by
    rw [watch, run_bind, run_get]
    show ((if session.Apart then _ else _ : Load Unit)).run session = _
    rw [if_pos apart, run_pure]
  rw [run_bind, passed]
  rfl

variable {load load' : String → Location → Load (Tree × Dialect)} {policy : OverridePolicy}

theorem run_loadReference_congr {stack : List Location}
    (agree : ∀ text location session, session.stack = stack →
      (load' text location).run session = (load text location).run session)
    (location : Location) (reference : Reference) (h : session.stack = stack) :
    (loadReference load' location reference).run session =
      (loadReference load location reference).run session := by
  refine run_bind_eq rfl fun found middle ends => ?_
  have same := (flat_locate location reference _ _ _ ends).1
  exact run_bind_eq (agree found.1 found.2 middle (same.trans h)) fun _ _ _ => rfl

theorem run_loadOverride_congr {stack : List Location}
    (agree : ∀ text location session, session.stack = stack →
      (load' text location).run session = (load text location).run session)
    (location : Location) (reference : Reference) (h : session.stack = stack) :
    (loadOverride (loadReference load' location) policy reference).run session =
      (loadOverride (loadReference load location) policy reference).run session :=
  run_bind_eq (run_loadReference_congr agree location reference h) fun _ _ _ => rfl

theorem steady_mergeIncludes (honest : Honest may load) (location : Location) (own : Tree) :
    Steady may (mergeIncludes (loadReference load location) location own) fun _ => True := by
  rw [mergeIncludes_eq, map_eq_pure_bind]
  exact steady_bind (honest.steady_included location _) fun _ _ => steady_pure trivial

theorem steady_mergeOverrides (honest : Honest may load) (location : Location) (merged : Tree) :
    Steady may (mergeOverrides (loadReference load location) policy location merged)
      fun _ => True := by
  rw [mergeOverrides_eq, map_eq_pure_bind]
  exact steady_bind (honest.steady_overriding location _) fun _ _ => steady_pure trivial

theorem run_watchedStep (alarm : ResolveError) (honest : Honest .any load)
    (agree : ∀ text location session, session.Apart →
      (load' text location).run session = (load text location).run session)
    (text : String) (location : Location) (apart : session.Apart) :
    (watchedStep alarm policy load' text location).run session =
      (loadStep policy load text location).run session := by
  rw [watchedStep, loadStep, run_watch_bind alarm apart]
  refine run_bind_eq rfl fun _ inside entered => ?_
  rcases ends_enter_iff.1 entered with ⟨-, ⟨⟩, -⟩ | ⟨fresh, -, rfl⟩
  have apart' {middle : Session} (h : middle.stack = (session.within location).stack) :
      middle.Apart := by
    rw [Session.Apart, h]
    exact apart.append fresh
  have agree' (text : String) (other : Location) (middle : Session)
      (h : middle.stack = (session.within location).stack) :=
    agree text other middle (apart' h)
  rw [run_watch_bind alarm (apart' rfl)]
  refine run_bind_eq rfl fun read s₁ parsed => ?_
  have stack₁ := (flat_readTree text location _ _ _ parsed).1
  refine run_bind_eq ?_ fun merged s₂ included => ?_
  · rw [mergeIncludes_eq, mergeIncludes_eq]
    exact run_map_eq _ (run_followed_congr (honest.steady_loadReference location)
      (fun reference _ => run_loadReference_congr agree' location reference) location _ stack₁)
  have stack₂ := (steady_mergeIncludes honest location _ _ _ _ included).1.trans stack₁
  rw [run_watch_bind alarm (apart' stack₂)]
  refine run_bind_eq ?_ fun result s₃ overridden => ?_
  · rw [mergeOverrides_eq, mergeOverrides_eq]
    exact run_map_eq _ (run_followed_congr (honest.steady_loadOverride location)
      (fun reference _ => run_loadOverride_congr agree' location reference) location _ stack₂)
  have stack₃ := (steady_mergeOverrides honest location _ _ _ _ overridden).1.trans stack₂
  rw [run_watch_bind alarm (apart' stack₃)]
  refine run_bind_eq rfl fun _ s₄ left => ?_
  obtain ⟨-, rfl⟩ := ends_leave_iff.1 left
  rw [run_watch_bind alarm]
  rw [Session.Apart, Session.outside, stack₃, Session.within, List.dropLast_concat]
  exact apart

/-- **A look at the stack never changes anything**: no location is on it twice at any moment. -/
theorem run_watchedTree (alarm : ResolveError) (policy : OverridePolicy) (nesting : Nat)
    (text : String) (location : Location) (apart : session.Apart) :
    (watchedTree alarm policy nesting text location).run session =
      (loadTree policy nesting text location).run session := by
  induction nesting generalizing text location session with
  | zero => rfl
  | succ nesting ih =>
    exact run_watchedStep alarm (honest_loadTree policy nesting)
      (fun text location session apart => ih text location apart) text location apart

theorem run_watchedManifest (alarm : ResolveError) (policy : OverridePolicy) (nesting : Nat)
    (source : Source) (apart : session.Apart) :
    (watchedManifest alarm policy nesting source).run session =
      (loadManifest policy nesting source).run session := by
  refine run_bind_eq rfl fun found middle ends => ?_
  have same := (flat_readSource source _ _ _ ends).1
  refine run_bind_eq ?_ fun _ _ _ => rfl
  refine run_watchedTree alarm policy nesting found.1 found.2 ?_
  rw [Session.Apart, same]
  exact apart

end BuildManifest
