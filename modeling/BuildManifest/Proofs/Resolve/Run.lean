import BuildManifest.Proofs.Fetch.Outcome
import BuildManifest.Resolve.Load

/-!
# Runs of a loading

A loading starts in a session and ends, with a value or an error, in another one.  The laws here
take such a run apart along the steps of the loading, so that nothing that is proved about a
loading has to look inside the monad.

## What is here

* `run_bind`, `run_get`, … — the dialogue that each building block of a loading is.
* `Load.Ends` — how a loading that starts in a session may end.
* `ends_bind_iff` — a sequence stops at its first error, in the session of the error.
* `run_bind_congr` — two continuations that agree on every success make the same loading.
-/

set_option autoImplicit false

namespace BuildManifest

namespace Load

variable {α β γ : Type}

/-! ## The dialogues of the building blocks -/

/-- How a loading goes on after its first part. -/
def resume (f : α → Load β) :
    Except ResolveError α × Session → Dialogue (Except ResolveError β × Session)
  | (.ok value, session) => (f value).run session
  | (.error error, session) => .done (.error error, session)

theorem run_bind (first : Load α) (f : α → Load β) (session : Session) :
    (first >>= f).run session = (first.run session).bind (resume f) := by
  show (first.run session).bind _ = _
  congr 1
  funext reached
  obtain ⟨result, after⟩ := reached
  cases result <;> rfl

theorem run_pure (value : α) (session : Session) :
    (pure value : Load α).run session = .done (.ok value, session) := rfl

theorem run_fail (error : ResolveError) (session : Session) :
    (fail error : Load α).run session = .done (.error error, session) := rfl

theorem run_get (session : Session) :
    (get : Load Session).run session = .done (.ok session, session) := rfl

theorem run_set (next session : Session) :
    (set next : Load PUnit).run session = .done (.ok ⟨⟩, next) := rfl

theorem run_modify (change : Session → Session) (session : Session) :
    (modify change : Load PUnit).run session = .done (.ok ⟨⟩, change session) := rfl

theorem run_lift (dialogue : Dialogue α) (session : Session) :
    (liftM dialogue : Load α).run session =
      dialogue.bind fun value => .done (.ok value, session) := by
  show (dialogue.bind fun value => .done (value, session)).bind _ = _
  rw [Dialogue.bind_assoc]
  rfl

/-! ## How a loading ends -/

/-- From session `before` the loading may end with `result` in session `after`. -/
def Ends (may : Answering) (before : Session) (loading : Load α)
    (result : Except ResolveError α) (after : Session) : Prop :=
  Dialogue.Ends may (loading.run before) (result, after)

variable {may : Answering} {before after : Session}

@[simp] theorem ends_pure_iff {value : α} {result : Except ResolveError α} :
    Ends may before (pure value) result after ↔ result = .ok value ∧ after = before := by
  rw [Ends, run_pure, Dialogue.ends_done_iff, Prod.mk.injEq]

@[simp] theorem ends_fail_iff {error : ResolveError} {result : Except ResolveError α} :
    Ends may before (fail error) result after ↔ result = .error error ∧ after = before := by
  rw [Ends, run_fail, Dialogue.ends_done_iff, Prod.mk.injEq]

@[simp] theorem ends_get_iff {result : Except ResolveError Session} :
    Ends may before get result after ↔ result = .ok before ∧ after = before := by
  rw [Ends, run_get, Dialogue.ends_done_iff, Prod.mk.injEq]

@[simp] theorem ends_set_iff {next : Session} {result : Except ResolveError PUnit} :
    Ends may before (set next) result after ↔ result = .ok ⟨⟩ ∧ after = next := by
  rw [Ends, run_set, Dialogue.ends_done_iff, Prod.mk.injEq]

@[simp] theorem ends_modify_iff {change : Session → Session}
    {result : Except ResolveError PUnit} :
    Ends may before (modify change) result after ↔ result = .ok ⟨⟩ ∧ after = change before := by
  rw [Ends, run_modify, Dialogue.ends_done_iff, Prod.mk.injEq]

theorem ends_lift_iff {dialogue : Dialogue α} {result : Except ResolveError α} :
    Ends may before (liftM dialogue) result after ↔
      ∃ value, Dialogue.Ends may dialogue value ∧ result = .ok value ∧ after = before := by
  simp only [Ends, run_lift, Dialogue.ends_bind_iff, Dialogue.ends_done_iff, Prod.mk.injEq]

@[simp] theorem ends_ask_iff {request : Request} {result : Except ResolveError request.Answer} :
    Ends may before (ask request) result after ↔
      ∃ answer, may request answer ∧ result = .ok answer ∧ after = before := by
  simp only [ask, ends_lift_iff, Dialogue.ends_request_iff]

@[simp] theorem ends_warnings_iff {list : List Warning} {result : Except ResolveError Unit} :
    Ends may before (liftM (Dialogue.warnings list)) result after ↔
      result = .ok () ∧ after = before := by
  rw [ends_lift_iff]
  constructor
  · rintro ⟨_, _, h⟩
    exact h
  · intro h
    exact ⟨(), Dialogue.ends_warnings may list, h⟩

/-- **A sequence ends with its first error, or goes on from the session of its first part.** -/
theorem ends_bind_iff {first : Load α} {f : α → Load β} {result : Except ResolveError β} :
    Ends may before (first >>= f) result after ↔
      (∃ value middle, Ends may before first (.ok value) middle ∧
        Ends may middle (f value) result after) ∨
      ∃ error, Ends may before first (.error error) after ∧ result = .error error := by
  rw [Ends, run_bind, Dialogue.ends_bind_iff]
  constructor
  · rintro ⟨⟨reached, middle⟩, h, rest⟩
    cases reached with
    | ok value => exact .inl ⟨value, middle, h, rest⟩
    | error error =>
      obtain ⟨rfl, rfl⟩ := Prod.mk.inj (Dialogue.ends_done_iff.1 rest)
      exact .inr ⟨error, h, rfl⟩
  · rintro (⟨value, middle, h, rest⟩ | ⟨error, h, rfl⟩)
    · exact ⟨(.ok value, middle), h, rest⟩
    · exact ⟨(.error error, after), h, .done _⟩

theorem ends_bind_ok_iff {first : Load α} {f : α → Load β} {value : β} :
    Ends may before (first >>= f) (.ok value) after ↔
      ∃ one middle, Ends may before first (.ok one) middle ∧
        Ends may middle (f one) (.ok value) after := by
  simp [ends_bind_iff]

theorem Ends.bind {first : Load α} {f : α → Load β} {value : α} {middle : Session}
    {result : Except ResolveError β} (h : Ends may before first (.ok value) middle)
    (rest : Ends may middle (f value) result after) : Ends may before (first >>= f) result after :=
  ends_bind_iff.2 (.inl ⟨value, middle, h, rest⟩)

theorem ends_pure (value : α) : Ends may before (pure value) (.ok value) before :=
  ends_pure_iff.2 ⟨rfl, rfl⟩

theorem ends_map_ok_iff {loading : Load α} {f : α → β} {value : β} :
    Ends may before (f <$> loading) (.ok value) after ↔
      ∃ one, Ends may before loading (.ok one) after ∧ f one = value := by
  rw [map_eq_pure_bind, ends_bind_ok_iff]
  constructor
  · rintro ⟨one, middle, ends, rest⟩
    obtain ⟨eq, rfl⟩ := ends_pure_iff.1 rest
    exact ⟨one, ends, (Except.ok.inj eq).symm⟩
  · rintro ⟨one, ends, rfl⟩
    exact ⟨one, after, ends, ends_pure_iff.2 ⟨rfl, rfl⟩⟩

theorem ends_bind_error_iff {first : Load α} {f : α → Load β} {error : ResolveError} :
    Ends may before (first >>= f) (.error error) after ↔
      Ends may before first (.error error) after ∨
      ∃ one middle, Ends may before first (.ok one) middle ∧
        Ends may middle (f one) (.error error) after := by
  rw [ends_bind_iff]
  constructor
  · rintro (h | ⟨_, h, ⟨⟩⟩)
    · exact .inr h
    · exact .inl h
  · rintro (h | h)
    · exact .inr ⟨error, h, rfl⟩
    · exact .inl h

/-- Two ways to go on that agree on every success are one loading. -/
theorem run_bind_congr {first : Load α} {f g : α → Load β} {session : Session}
    (h : ∀ value middle, Ends .any session first (.ok value) middle →
      (f value).run middle = (g value).run middle) :
    (first >>= f).run session = (first >>= g).run session := by
  rw [run_bind, run_bind]
  refine Dialogue.bind_congr_of_ends fun reached ends => ?_
  obtain ⟨result, middle⟩ := reached
  cases result with
  | ok value => exact h value middle ends
  | error error => rfl

end Load

end BuildManifest
