import BuildManifest.Proofs.Resolve.Run

/-!
# Fetchers

Whoever answers the requests of a loading may remember what was asked before, so that one request
is answered differently the next time.  A fetcher is such a party: its answers are actions on a
state of its own.

## What is here

* `Fetcher`, `Fetcher.run` — a fetcher, and a loading with its answers.
* `Fetcher.ofFiles` — the fetcher of some files that never change.
* `run_bind_ok_iff` — **a sequence succeeds where its parts do, one after the other**.
* `ends_run` — a run ends as the loading may end.
-/

set_option autoImplicit false

namespace BuildManifest

/-- Someone who answers requests and hears warnings. -/
structure Fetcher (σ : Type) where
  /-- The answer to a request. -/
  answer : (request : Request) → StateM σ request.Answer
  /-- What becomes of a warning. -/
  hear : Warning → StateM σ Unit

namespace Fetcher

variable {σ α β : Type} (fetcher : Fetcher σ) {before after : Session} {world last : σ}

/-- What comes of a loading when the fetcher answers, starting from a state of it. -/
def run (loading : Load α) (before : Session) (world : σ) :
    (Except ResolveError α × Session) × σ :=
  ((loading.run before).perform fetcher.answer fetcher.hear).run world

/-- Some files, in which nothing else is found. -/
def ofFiles (files : List (String × String)) : Fetcher Unit where
  answer request := pure (World.ofFiles files request)
  hear _ := pure ()

theorem run_pure (value : α) :
    fetcher.run (pure value) before world = ((.ok value, before), world) := rfl

/-- **A sequence succeeds where its parts do, one after the other.** -/
theorem run_bind_ok_iff {first : Load α} {f : α → Load β} {value : β} :
    fetcher.run (first >>= f) before world = ((.ok value, after), last) ↔
      ∃ one middle reached, fetcher.run first before world = ((.ok one, middle), reached) ∧
        fetcher.run (f one) middle reached = ((.ok value, after), last) := by
  have eq : fetcher.run (first >>= f) before world =
      ((Load.resume f (fetcher.run first before world).1).perform fetcher.answer
        fetcher.hear).run (fetcher.run first before world).2 := by
    rw [run, Load.run_bind, Dialogue.perform_bind, StateT.run_bind]
    rfl
  rw [eq]
  generalize fetcher.run first before world = outcome
  obtain ⟨⟨result, middle⟩, reached⟩ := outcome
  cases result with
  | error error =>
    constructor
    · rintro ⟨⟩
    · rintro ⟨_, _, _, ⟨⟩, _⟩
  | ok one =>
    constructor
    · intro rest
      exact ⟨one, middle, reached, rfl, rest⟩
    · rintro ⟨_, _, _, ⟨⟩, rest⟩
      exact rest

theorem run_map_ok_iff {loading : Load α} {f : α → β} {value : β} :
    fetcher.run (f <$> loading) before world = ((.ok value, after), last) ↔
      ∃ one, fetcher.run loading before world = ((.ok one, after), last) ∧ f one = value := by
  rw [map_eq_pure_bind, run_bind_ok_iff]
  constructor
  · rintro ⟨one, _, _, ran, rest⟩
    cases rest
    exact ⟨one, ran, rfl⟩
  · rintro ⟨one, ran, rfl⟩
    exact ⟨one, after, last, ran, rfl⟩

/-- A run ends as the loading may end. -/
theorem ends_run {loading : Load α} {result : Except ResolveError α}
    (ran : fetcher.run loading before world = ((result, after), last)) :
    Load.Ends (.ofActions fetcher.answer) before loading result after := by
  have ends := Dialogue.ends_perform fetcher.answer fetcher.hear (loading.run before) world
  rw [run] at ran
  rw [ran] at ends
  exact ends

end Fetcher

end BuildManifest
