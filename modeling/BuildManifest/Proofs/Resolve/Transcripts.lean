import BuildManifest.Proofs.Resolve.Run

/-!
# What a loading costs

In a world a loading has one end, and it asks for so many checkouts on the way there.  They are
counted up to a call that the loading makes: the checkouts before the call are made whatever
becomes of the call, and if the call fails, so does the loading.

## What is here

* `Load.transcript`, `Transcript.checkouts` — what comes of a loading, and what it costs.
* `Load.Reaches` — the loading makes a call, at some cost.
-/

set_option autoImplicit false

namespace BuildManifest

/-- The request is for a checkout. -/
def Request.isCheckout : Request → Bool
  | .checkout _ _ => true
  | _ => false

/-- The number of checkouts asked for. -/
def Transcript.checkouts {α : Type} (transcript : Transcript α) : Nat :=
  transcript.exchanges.countP (·.request.isCheckout)

namespace Load

variable {α β γ : Type} {world : World} {before middle after last : Session}
  {first : Load α} {f : α → Load β} {call : Load γ} {count more : Nat}

/-- What comes of a loading in a world. -/
def transcript (world : World) (before : Session) (loading : Load α) :
    Transcript (Except ResolveError α × Session) :=
  (loading.run before).run world

theorem ends_iff_transcript {loading : Load α} {result : Except ResolveError α} :
    Ends (.of world) before loading result after ↔
      (transcript world before loading).value = (result, after) := by
  rw [Ends, Dialogue.ends_answering_iff]
  exact eq_comm

/-- After so many checkouts the loading makes the call, and it fails if the call does. -/
structure Reaches (world : World) (before : Session) (loading : Load α) (count : Nat)
    (middle : Session) (call : Load γ) : Prop where
  /-- The checkouts of the call come on top. -/
  checkouts : count + (transcript world middle call).checkouts ≤
    (transcript world before loading).checkouts
  /-- The loading fails if the call does. -/
  fails : ∀ error last, Ends (.of world) middle call (.error error) last →
    Ends (.of world) before loading (.error error) last

/-! ## The cost of a sequence -/

theorem checkouts_le_bind (world : World) (before : Session) (first : Load α) (f : α → Load β) :
    (transcript world before first).checkouts ≤
      (transcript world before (first >>= f)).checkouts := by
  rw [transcript, transcript, run_bind, Dialogue.run_bind, Transcript.checkouts,
    Transcript.checkouts, List.countP_append]
  exact Nat.le_add_right _ _

theorem checkouts_bind {value : α} (ends : Ends (.of world) before first (.ok value) middle) :
    (transcript world before (first >>= f)).checkouts =
      (transcript world before first).checkouts +
        (transcript world middle (f value)).checkouts := by
  have reached : ((first.run before).run world).value = (.ok value, middle) :=
    ends_iff_transcript.1 ends
  rw [transcript, transcript, run_bind, Dialogue.run_bind, reached, Transcript.checkouts,
    List.countP_append]
  rfl

/-! ## What a loading reaches -/

theorem reaches_self (loading : Load α) : Reaches world before loading 0 before loading :=
  ⟨Nat.le_of_eq (Nat.zero_add _), fun _ _ ends => ends⟩

theorem Reaches.bind (h : Reaches world before first count middle call) (f : α → Load β) :
    Reaches world before (first >>= f) count middle call :=
  ⟨Nat.le_trans h.checkouts (checkouts_le_bind world before first f), fun error last ends =>
    ends_bind_error_iff.2 (.inl (h.fails error last ends))⟩

theorem Reaches.map (h : Reaches world before first count middle call) (f : α → β) :
    Reaches world before (f <$> first) count middle call := by
  rw [map_eq_pure_bind]
  exact h.bind fun one => pure (f one)

/-- What comes first adds its cost. -/
theorem Ends.reaches_of_cost {value : α} (ends : Ends (.of world) before first (.ok value) middle)
    (cost : more ≤ (transcript world before first).checkouts)
    (h : Reaches world middle (f value) count last call) :
    Reaches world before (first >>= f) (more + count) last call := by
  refine ⟨?_, fun error final failed => ?_⟩
  · rw [checkouts_bind ends, Nat.add_assoc]
    exact Nat.add_le_add cost h.checkouts
  · exact ends_bind_error_iff.2 (.inr ⟨value, middle, ends, h.fails error final failed⟩)

theorem Ends.reaches {value : α} (ends : Ends (.of world) before first (.ok value) middle)
    (h : Reaches world middle (f value) count last call) :
    Reaches world before (first >>= f) count last call := by
  have all := ends.reaches_of_cost (Nat.zero_le _) h
  rwa [Nat.zero_add] at all

end Load

end BuildManifest
